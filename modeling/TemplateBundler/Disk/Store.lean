import TemplateBundler.Disk.Files
import TemplateBundler.Report

/-!
# Storing files safely

A stored file appears under its path at once and whole, in a directory that is made if need be.
What fails is reported with the path concerned.
-/

namespace TemplateBundler.Disk

/-- Makes sure that a directory is there; something else in its place is an error. -/
def ensureDirectory (d : Disk) (p : FilePath) : Except Report Unit × Disk :=
  if !d.isThere p then
    match d.makeDirectories p with
    | (.ok (), d) => (.ok (), d)
    | (.error e, d) =>
      (.error (.ofFault ("Failed to create directory: " ++ p.text ++
        "\n\nCheck directory permissions and path validity") e), d)
  else if !d.isDirectory p then
    (.error (.ofMessage ("Path exists but is not a directory: " ++ p.text)), d)
  else (.ok (), d)

/-- The directory a file is stored in. -/
def homeOf (p : FilePath) : FilePath :=
  match p.parent? with
  | some parent => if parent.text.isEmpty then ⟨"."⟩ else parent
  | none => ⟨"."⟩

/-- The way to a path from the top. -/
def absolute (d : Disk) (p : FilePath) : FilePath :=
  FilePath.join ⟨"/" ++ Text.glue '/' d.workingDirectory⟩ p

/-- What a report says of a file that could not be written in full. -/
def writeContext (d : Disk) (directory : FilePath) (temporary : Place) : WriteFault → String
  | .content _ =>
    "Failed to write to temp file: " ++
      (d.absolute (directory.join ⟨temporary.getLast?.getD ""⟩)).text
  | .sync _ => "Failed to sync file to disk"

/-- Stores a file. It is written next to its path first, and takes its place when it is whole; a file
that cannot is taken away again. -/
def store (d : Disk) (p : FilePath) (text : String) : Except Report Unit × Disk :=
  match d.ensureDirectory (homeOf p) with
  | (.error e, d) => (.error e, d)
  | (.ok (), d) =>
    match d.temporaryPlace (homeOf p) with
    | .error e => (.error (.ofFault ("Failed to create temp file in: " ++ (homeOf p).text) e), d)
    | .ok temporary =>
      match d.writeTemporary temporary text with
      | (.error e, after) =>
        (.error (.ofFault (d.writeContext (homeOf p) temporary e) e.fault), after)
      | (.ok (), d) =>
        match d.rename temporary p with
        | .ok d => (.ok (), d)
        | .error e =>
          (.error (.ofFault ("Failed to rename temp file to: " ++ p.text) e), d.erase temporary)

/-- Sets the time of a file. -/
def touch (d : Disk) (p : FilePath) (time : Time) : Except Report Disk :=
  match d.setModified p time with
  | .ok d => .ok d
  | .error e => .error (.ofFault ("Failed to open for timestamp update: " ++ p.text) e)

/-- The time of a stored file, or `none` where nothing is stored. -/
def storedAt (d : Disk) (p : FilePath) : Except BundleError (Option Time) :=
  match d.status p with
  | .ok (_, .file _ time) => .ok (some time)
  | .ok _ => .error (.storage p "artifact path exists but is not a file")
  | .error e =>
    if e = .missing then .ok none
    else .error (.storing .metadata p e.message)

end TemplateBundler.Disk
