import TemplateBundler.Disk.Paths

/-!
# Reading and changing files

Every operation takes a path. One that changes the disk gives the disk after it, also where it
fails: making a directory with its parents may have made some of them before it came to a stop.
-/

namespace TemplateBundler.Disk

/-! ## Reading -/

/-- The time of a file or `none` for a directory. -/
def modified? (d : Disk) (p : FilePath) : Except Fault (Option Time) := do
  match ← d.status p with
  | (_, .file _ time) => .ok (some time)
  | _ => .ok none

/-- The text of a file. -/
def readText (d : Disk) (p : FilePath) : Except Fault String := do
  match ← d.status p with
  | (_, .file (.text s) _) => .ok s
  | (_, .file .binary _) => .error .notText
  | _ => .error .isDirectory

/-! ## Directories -/

/-- Makes one directory. -/
def makeDirectory (d : Disk) (p : FilePath) : Except Fault Disk := do
  match ← d.slot p with
  | ⟨_, none, _⟩ => .error .alreadyThere
  | ⟨parent, some name, _⟩ =>
    if isLongName name then .error .nameTooLong
    else if (d.find? (parent ++ [name])).isSome then .error .alreadyThere
    else .ok (d.put (parent ++ [name]) .directory)

/-- Makes the first of `paths`, each of which is the parent of the one before it, after those of the
others that are missing. The empty path and the top need no making. -/
def makeFrom (d : Disk) : List FilePath → Except Fault Unit × Disk
  | [] => (.ok (), d)
  | p :: parents =>
    if p.text.isEmpty || p.parent?.isNone then (.ok (), d)
    else
      match d.makeDirectory p with
      | .ok made => (.ok (), made)
      | .error e =>
        if e = .missing then
          match d.makeFrom parents with
          | (.error e, after) => (.error e, after)
          | (.ok (), after) =>
            match after.makeDirectory p with
            | .ok made => (.ok (), made)
            | .error e => if after.isDirectory p then (.ok (), after) else (.error e, after)
        else if d.isDirectory p then (.ok (), d)
        else (.error e, d)

/-- Makes a directory with its parents. -/
def makeDirectories (d : Disk) (p : FilePath) : Except Fault Unit × Disk := d.makeFrom p.ancestors

/-! ## Files -/

/-- Where writing to a path puts the file. A link is followed, also to a file that is not there. -/
def target (d : Disk) (p : FilePath) : Except Fault Place := do
  match ← d.slot p with
  | ⟨_, none, _⟩ | ⟨_, some _, true⟩ => .error .isDirectory
  | _ =>
    match ← d.locate true p with
    | .there _ .directory => .error .isDirectory
    | .there place _ => .ok place
    | .absent parent name => .ok (parent ++ [name])

/-- Writes a file in place. -/
def write (d : Disk) (p : FilePath) (content : Content) (time : Time) : Except Fault Disk := do
  let place ← d.target p
  .ok (d.put place (.file content time))

/-- How long the name of a temporary file is: a sign stands for each letter that is chosen. -/
def temporaryPattern : String := ".tmplpack-******.tmp"

/-- A name that no entry of a directory has, as it is longer than each of them. A file has it only
while it is written. -/
def unusedName (d : Disk) (directory : Place) : String :=
  ".tmplpack-" ++ String.join ((d.listing directory).map Prod.fst) ++ ".tmp"

/-- The place of a new file in a directory. -/
def temporaryPlace (d : Disk) (directory : FilePath) : Except Fault Place := do
  checkPath (directory.join ⟨temporaryPattern⟩).text
  match ← d.status directory with
  | (here, .directory) => .ok (here ++ [d.unusedName here])
  | _ => .error .notDirectory

/-- Writes a file where none is. One that is not written in full is taken away again. -/
def writeTemporary (d : Disk) (temporary : Place) (text : String) :
    Except WriteFault Unit × Disk :=
  let written := d.tick.2.put temporary (.file (.text text) d.stamp)
  match d.device.writeFault? d.clock with
  | some e => (.error e, written.erase temporary)
  | none => (.ok (), written)

/-- Moves a file to a path at once. A link there is replaced, not followed. -/
def rename (d : Disk) (source : Place) (p : FilePath) : Except Fault Disk :=
  match d.slot p with
  | .error e => .error (if e = .nulInPath then .invalidArgument else e)
  | .ok ⟨_, none, _⟩ => .error .busy
  | .ok ⟨parent, some name, isOpen⟩ =>
    if isLongName name then .error .nameTooLong
    else if isOpen then .error .notDirectory
    else
      match d.find? (parent ++ [name]), d.find? source with
      | some .directory, _ => .error .isDirectory
      | _, some node => .ok ((d.erase source).put (parent ++ [name]) node)
      | _, none => .error .missing

/-- Sets the time of a file. -/
def setModified (d : Disk) (p : FilePath) (time : Time) : Except Fault Disk := do
  match ← d.status p with
  | (place, .file content _) => .ok (d.put place (.file content time))
  | _ => .error .isDirectory

/-- Makes a link with a target taken as it is. -/
def makeLink (d : Disk) (p : FilePath) (linkTarget : String) : Except Fault Disk := do
  checkPath linkTarget
  match ← d.slot p with
  | ⟨_, none, _⟩ => .error .alreadyThere
  | ⟨parent, some name, isOpen⟩ =>
    if isLongName name then .error .nameTooLong
    else if (d.find? (parent ++ [name])).isSome then .error .alreadyThere
    else if isOpen then .error .missing
    else .ok (d.put (parent ++ [name]) (.link linkTarget))

/-- Takes away a file, a link, or a directory with its contents. -/
def remove (d : Disk) (p : FilePath) : Except Fault Disk := do
  match ← d.locate false p with
  | .there place _ => .ok (d.erase place)
  | .absent _ _ => .error .missing

/-- The paths below a directory, joined to its own: a directory has a separator at its end, a link is
shown as a file. -/
def below (d : Disk) (p : FilePath) : List String :=
  match d.status p with
  | .ok (place, .directory) =>
    let texts := d.nodes.filterMap fun (q, n) =>
      if place.isPrefixOf q && q.length > place.length then
        let text := (p.join ⟨Text.glue '/' (q.drop place.length)⟩).text
        some (if n = .directory then text ++ "/" else text)
      else none
    texts.mergeSort fun a b => decide (a ≤ b)
  | _ => []

end TemplateBundler.Disk
