import TemplateBundler.Template.Value

/-!
# The language of templates

What is a template, and what a template renders to, is for a language to say. Everything that
compiles templates is given one, and takes its word for it; the program brings its own.
-/

namespace TemplateBundler.Template

/-- What a template renders to in a context, with values escaped or not; or why it renders to
nothing, the outermost message first. -/
abbrev Rendering := Bool → List (String × Value) → Except (List String) String

/-- A language of templates. -/
class Language where
  /-- The template that a source is, or why it is none, the outermost message first. -/
  parse : String → Except (List String) Rendering

namespace Language

/-- The source is a template. -/
def Accepts [Language] (source : String) : Prop := ∃ rendering, parse source = .ok rendering

end Language

end TemplateBundler.Template
