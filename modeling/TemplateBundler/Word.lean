/-!
# Whole numbers of a width

Numbers in templates and configurations have a number of bits, with a sign or without. The two ranges
of a width agree on the numbers from zero up to half of the larger one.
-/

namespace TemplateBundler.Word

def isSigned (bits : Nat) (n : Int) : Bool :=
  let bound : Int := Nat.pow 2 (bits - 1)
  n < bound && -bound ≤ n

def isUnsigned (bits : Nat) (n : Int) : Bool :=
  let bound : Int := Nat.pow 2 bits
  0 ≤ n && n < bound

end TemplateBundler.Word
