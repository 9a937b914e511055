import TemplateBundler.Conventions
import TemplateBundler.KeyPath
import TemplateBundler.Text.Ends

/-!
# Addresses of artifacts

The artifact of a key path is found at the URL prefix, the names of the key path, and the extension
of artifacts. A query or a fragment behind it does not count.

    (∀ c ∈ urlPrefix, c is neither ? nor #) →
      keyPath? urlPrefix (ofKeyPath urlPrefix .root) = some .root            (keyPath?_root)
-/

namespace TemplateBundler.Address

/-! ## Algorithm -/

/-- A character that does not begin a query or a fragment. -/
def isPathChar (c : Char) : Bool := c != '?' && c != '#'

/-- The part of a URL before its query or fragment. -/
def pathPart (url : String) : List Char := url.toList.takeWhile isPathChar

/-- The extension of artifacts with its dot. -/
def suffix : List Char := Conventions.artifactSuffix.toList

/-- The URL of the artifact of a key path. -/
def ofKeyPath (urlPrefix : String) (k : KeyPath) : String :=
  urlPrefix ++ String.join (k.segments.map ("/" ++ ·)) ++ Conventions.artifactSuffix

/-- The key path of an artifact's URL. The whole tree has only the URL without names. -/
def keyPath? (urlPrefix url : String) : Option KeyPath :=
  match Text.after? urlPrefix.toList (pathPart url) with
  | none => none
  | some rest =>
    if rest = suffix then some .root
    else
      match Text.after? ['/'] rest >>= Text.before? suffix with
      | none => none
      | some names =>
        let k := KeyPath.parse (String.ofList names)
        if k.isRoot then none else some k

/-! ## Lemmas -/

/-- The URL of the whole tree leads back to it. -/
theorem keyPath?_root (urlPrefix : String) (h : ∀ c ∈ urlPrefix.toList, isPathChar c = true) :
    keyPath? urlPrefix (ofKeyPath urlPrefix .root) = some .root := by
  have hs : suffix.takeWhile isPathChar = suffix := by decide
  have hp : pathPart (ofKeyPath urlPrefix .root) = urlPrefix.toList ++ suffix := by
    simp only [pathPart, ofKeyPath, KeyPath.root, List.map_nil, String.join_nil, String.append_empty,
      String.toList_append]
    change (urlPrefix.toList ++ suffix).takeWhile isPathChar = _
    rw [List.takeWhile_append_of_pos h, hs]
  simp [keyPath?, hp, Text.after?_append]

end TemplateBundler.Address
