import TemplateBundler.Template.Grammar
import TemplateBundler.Template.Language
import TemplateBundler.Template.Rendering

/-!
# The language of the program

The grammar and the rendering that the program comes with, as a language: blocks, branches, loops
and assignments, with expressions and filters. Macros, tests and calls are no part of it, and neither
are tags that need other templates.
-/

namespace TemplateBundler.Template

instance stock : Language where
  parse source :=
    match parse? source.toList with
    | some body => .ok fun escaped context =>
      (render escaped body context).mapError fun p => "Failed to render 'unit'" :: p.causes
    | none => .error ["Failed to parse 'unit'"]

theorem stock_accepts_iff {source : String} :
    stock.Accepts source ↔ (parse? source.toList).isSome = true := by
  simp only [Language.Accepts, Language.parse]
  cases parse? source.toList with
  | some body => simp
  | none => simp

end TemplateBundler.Template
