import TemplateBundler.CommandLine.Run

/-!
# The program

The command runs on a disk that holds the files it may need: the configuration and all below the
directories that the configuration names. What the run changed on it is then written out.
-/

namespace TemplateBundler.Main

open CommandLine

def textOf (p : Place) : String := "/" ++ Text.glue '/' p

def placeOf (text : String) : Place := Text.cutNonempty '/' text

/-! ## Reading -/

def contentOf (bytes : ByteArray) : Content :=
  match String.fromUTF8? bytes with
  | some s => .text s
  | none => .binary

def timeOf (t : IO.FS.SystemTime) : Time := t.sec * 1000 + Int.ofNat (t.nsec.toNat / 1000000)

def isLink : Option DiskNode → Bool
  | some (.link _) => true
  | _ => false

/-- Takes in what stands at a place, all below it where `deep`, and what a link there leads to. -/
partial def takeIn (deep : Bool) (d : Disk) (p : Place) : IO Disk := do
  let here := (← IO.currentDir) / textOf p
  match ← here.symlinkMetadata.toBaseIO with
  | .error _ => return d
  | .ok found =>
    match found.type with
    | .dir =>
      let mut d := d.put p .directory
      if deep then
        for entry in ← here.readDir do
          d ← takeIn true d (p ++ [entry.fileName])
      return d
    | .symlink =>
      if isLink (d.find? p) then return d
      match ← (IO.FS.realPath here).toBaseIO with
      | .error _ => return d.put p (.link "")
      | .ok target =>
        let there := placeOf target.toString
        let mut d := d.put p (.link target.toString)
        for n in [1 : there.length] do
          d := d.put (there.take n) .directory
        takeIn deep d there
    | _ => return d.put p (.file (contentOf (← IO.FS.readBinFile here)) (timeOf found.modified))

/-- Takes in every place on the way along a path, and all below its end. -/
def takeInPath (d : Disk) (path : FilePath) : IO Disk := do
  let names := placeOf path.text
  let mut d := d
  let mut here := d.start path.text
  for n in [0 : names.length] do
    let name := names.getD n ""
    here := if name == "." then here else if name == ".." then here.dropLast else here ++ [name]
    d ← takeIn (n + 1 == names.length) d here
    match d.status ⟨textOf here⟩ with
    | .ok (place, _) => here := place
    | .error _ => return d
  return d

/-- The disk that an invocation may need. -/
def diskFor (i : Invocation) : IO Disk := do
  let home := placeOf (← IO.currentDir).toString
  let empty : Disk := ⟨[], home, 0⟩
  let mut d := empty
  for n in [1 : home.length + 1] do
    d := d.put (home.take n) .directory
  d ← takeInPath d (i.settings.config.getD ⟨Conventions.configFile⟩)
  match Config.assemble d i.settings.config (homeDirectory d) i.settings.overrides with
  | .error _ => return d
  | .ok c =>
    d ← takeInPath d c.source
    d ← takeInPath d (c.publicDirectory.getD c.source)
    return d

/-- The disk with a clock that is ahead of every file on it. -/
def ahead (d : Disk) : Disk :=
  let times := d.nodes.map fun
    | (_, .file _ time) => time
    | _ => 0
  { d with clock := times.foldl max 0 + 1 }

/-! ## Writing -/

/-- Writes out what a run changed. A file appears under its name at once. -/
def writeOut (before after : Disk) : IO Unit := do
  for (p, node) in after.nodes do
    unless before.find? p == some node do
      match node with
      | .directory => IO.FS.createDirAll (textOf p)
      | .file (.text s) _ =>
        let finished := textOf (p.dropLast ++ [".tmplpack-" ++ p.getLast?.getD "" ++ ".tmp"])
        IO.FS.writeFile finished s
        IO.FS.rename finished (textOf p)
      | _ => pure ()

/-! ## Answering -/

def usage : String :=
  "usage: tmplpack [SWITCH]... build [KEY_PATH]... [-f]\n" ++
    "       tmplpack [SWITCH]... get URL [-X METHOD]\n" ++
    "       tmplpack [SWITCH]... tree [--paths]\n"

def refusalText : Refusal → String
  | .help | .nothingGiven => usage
  | .version => "tmplpack\n"
  | .missingCommand => "error: a command is missing\n" ++ usage
  | .unknownCommand => "error: no such command\n" ++ usage
  | .unknownArgument => "error: an argument is not known here\n" ++ usage
  | .valueNotTaken => "error: a flag takes no value\n" ++ usage
  | .invalidValue => "error: a value is missing\n" ++ usage
  | .conflict => "error: switches exclude each other\n" ++ usage
  | .missingArgument => "error: an argument is missing\n" ++ usage

def print (p : Printed) : IO Unit := do
  (← IO.getStderr).putStr p.notes
  (← IO.getStdout).putStr p.output

def runInvocation (i : Invocation) : IO UInt32 := do
  let before ← diskFor i
  let colours := i.colours (← (← IO.getStdout).isTty)
  let (run, after) := i.run colours (ahead before)
  writeOut before after
  print (run.printed colours)
  return run.exitCode.toUInt32

end TemplateBundler.Main

open TemplateBundler in
def main (arguments : List String) : IO UInt32 := do
  match CommandLine.Invocation.ofArguments (← IO.getEnv Conventions.configVariable) arguments with
  | .ok i => Main.runInvocation i
  | .error r =>
    let text := Main.refusalText r
    Main.print (if r.exitCode == 0 then ⟨text, ""⟩ else ⟨"", text⟩)
    return r.exitCode.toUInt32
