import TemplateBundler.Disk.Fault
import TemplateBundler.FilePath

/-!
# Errors of the library

The first two end a build, the next two a request, and the last one keeps a service from starting.
Only a key path that names no unit lets a request pass on to the next handler.
-/

namespace TemplateBundler

inductive BundleError where
  /-- A source directory or template file could not be listed or read. -/
  | sourceRead (path : FilePath) (fault : Fault)
  /-- The compiler refused the primary body of a file, or the block of a name. -/
  | compile (path : FilePath) (block : Option String) (reason : String)
  | notFound (keyPath : String)
  /-- An artifact could not be stored. -/
  | storage (path : FilePath) (reason : String)
  | invalidConfig (field reason : String)
deriving DecidableEq, Repr, Inhabited

/-- What was being done to a stored file when it failed. -/
inductive FileOperation where
  | writing
  | metadata
deriving DecidableEq, Repr

def FileOperation.text : FileOperation → String
  | writing => "writing"
  | metadata => "getting file metadata"

namespace BundleError

/-- A failed operation on a stored file, with what made it fail. -/
def storing (operation : FileOperation) (path : FilePath) (why : String) : BundleError :=
  storage path (operation.text ++ " failed: " ++ why)

def message : BundleError → String
  | sourceRead path _ => "Failed to read template source: " ++ path.text
  | compile path block reason =>
    "Failed to compile template " ++ path.text ++
      (match block with
        | some name => " [" ++ name ++ "]"
        | none => "") ++ ": " ++ reason
  | notFound keyPath => "No template unit at key path '" ++ keyPath ++ "'"
  | storage path _ => "Failed to store artifact: " ++ path.text
  | invalidConfig field reason => "Invalid configuration for '" ++ field ++ "': " ++ reason

/-- The messages from the outermost to the innermost. -/
def messages (e : BundleError) : List String :=
  match e with
  | sourceRead _ fault => [e.message, fault.message]
  | _ => [e.message]

/-- Whether a request goes on to the next handler. -/
def isPassThrough : BundleError → Bool
  | notFound _ => true
  | _ => false

/-- Whether the error ended a build. -/
def isBuildError : BundleError → Bool
  | sourceRead _ _ | compile _ _ _ => true
  | _ => false

end BundleError

end TemplateBundler
