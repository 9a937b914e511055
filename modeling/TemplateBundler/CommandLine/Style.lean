import TemplateBundler.Report

/-!
# Colours on a terminal

A styled text starts with the codes of its style and ends with a reset. A reset inside the text is
followed by the codes again, so that the style lasts to the end. Without colours a text stays as it
is.

    (s.paint false text) = text        (paint_false)
-/

namespace TemplateBundler

/-- The codes of a style, separated by semicolons. -/
structure Style where
  codes : String
deriving DecidableEq, Repr

namespace Style

def bold : Style := ⟨"1"⟩
def dimmed : Style := ⟨"2"⟩
def boldRed : Style := ⟨"1;31"⟩
def green : Style := ⟨"32"⟩
def yellow : Style := ⟨"33"⟩
def cyan : Style := ⟨"36"⟩

def start (s : Style) : String := "\x1b[" ++ s.codes ++ "m"

def reset : String := "\x1b[0m"

/-- The text with `start` behind every reset. -/
def restarted (start : List Char) : List Char → List Char
  | '\x1b' :: '[' :: '0' :: 'm' :: cs => reset.toList ++ start ++ restarted start cs
  | c :: cs => c :: restarted start cs
  | [] => []

def paint (s : Style) (colours : Bool) (text : String) : String :=
  if colours then s.start ++ String.ofList (restarted s.start.toList text.toList) ++ reset else text

theorem paint_false (s : Style) (text : String) : s.paint false text = text := rfl

end Style

/-- One line per part of the advice, as it is printed for a user. -/
def Advice.printed (colours : Bool) (a : Advice) : String :=
  Style.boldRed.paint colours "error" ++ ": " ++ a.message ++ "\n" ++
    (match a.details with
      | some details => Style.yellow.paint colours "details" ++ ": " ++ details ++ "\n"
      | none => "") ++
    (match a.suggestion with
      | some suggestion => Style.green.paint colours "suggestion" ++ ": " ++ suggestion ++ "\n"
      | none => "")

end TemplateBundler
