import TemplateBundler.Artifact.Binding
import TemplateBundler.Artifact.ClientScript
import TemplateBundler.Time

/-!
# Artifacts

An artifact is a script that carries a subtree of compiled units: it installs the client script,
assigns every unit of the subtree, and publishes the top one under a global name. Of the tree it
holds names and code only.
-/

namespace TemplateBundler

structure Artifact where
  /-- The key path of its top unit. -/
  keyPath : KeyPath
  body : String
  generatedAt : Time
deriving DecidableEq, Repr, Inhabited

namespace Artifact

/-- What stands before the assignments. -/
def opening : String :=
  "(function() \x7b\nvar " ++ Conventions.runtimeName ++ " = \x7b\x7d;\n(function(exports) \x7b\n" ++
    clientScript ++ "\x7d)(" ++ Conventions.runtimeName ++ ");\n\nvar " ++ Conventions.rootVariable ++
    " = \x7b\x7d;\n"

/-- What stands behind them. -/
def closing (global : String) : String :=
  "typeof(module) === 'object' && typeof(module.exports) === 'object' ? module.exports." ++ global ++
    " = " ++ Conventions.rootVariable ++ " : window." ++ global ++ " = " ++ Conventions.rootVariable ++
    ";\n\x7d)();"

/-- The script of the subtree below a unit. -/
def script (t : UnitTree) (top : Nat) (global : String) : String :=
  opening ++ String.join (bindings t top) ++ closing global

def generate (t : UnitTree) (top : Nat) (global : String) (time : Time) : Artifact :=
  ⟨t.keyPath top, script t top global, time⟩

end Artifact

end TemplateBundler
