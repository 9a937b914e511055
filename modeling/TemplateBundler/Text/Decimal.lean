/-!
# Doubles and decimal texts

A positive double stands for `m * 2 ^ q`; the reals that round to it form an interval, which holds
its ends exactly where `m` is even. `shortest` is the point of the coarsest decimal grid that lies in
the interval, the nearer one of two; of two that are equally near, JSON takes the even one and every
other text the upper one. `positional` writes it without an exponent; `jsonNumber` and
`shownNumber` have one where the first digit is far from the point. In the other direction,
`ofDecimal` is the double nearest to a decimal.
-/

namespace TemplateBundler.Text

/-! ## Algorithm -/

/-- The reals that round to one positive double, as numerators over a common denominator. -/
structure Rounding where
  low : Nat
  value : Nat
  high : Nat
  denominator : Nat
  closed : Bool

/-- `m * 2 ^ q`; below a power of two the next double is only half as far away. -/
def Rounding.ofParts (m : Nat) (q : Int) (narrow : Bool) : Rounding :=
  let scale := Nat.pow 2 (q - 2).toNat
  ⟨(4 * m - if narrow then 1 else 2) * scale, 4 * m * scale, (4 * m + 2) * scale,
    Nat.pow 2 (2 - q).toNat, decide (m % 2 = 0)⟩

/-- The parts of a positive finite double from its bits. -/
def Rounding.ofBits (bits : Nat) : Rounding :=
  let fraction : Nat := bits % Nat.pow 2 52
  let biased : Nat := bits / Nat.pow 2 52 % Nat.pow 2 11
  if biased = 0 then ofParts fraction (-1074) false
  else ofParts (fraction + Nat.pow 2 52) ((biased : Int) - 1075) (fraction = 0 && biased > 1)

/-- A decimal `digits * 10 ^ exponent`. -/
structure Decimal where
  digits : Nat
  exponent : Int
deriving DecidableEq

/-- `d * 10 ^ e` as a numerator over the denominator of `r`, both sides multiplied by the second
number to stay whole. -/
def Rounding.scaled (r : Rounding) (d : Decimal) : Nat × Nat :=
  (d.digits * r.denominator * Nat.pow 10 d.exponent.toNat, Nat.pow 10 (-d.exponent).toNat)

def Rounding.holds (r : Rounding) (d : Decimal) : Bool :=
  let (n, k) := r.scaled d
  if r.closed then r.low * k ≤ n && n ≤ r.high * k else r.low * k < n && n < r.high * k

/-- How far `d` is from the value, in units that depend on the exponent of `d` only. -/
def Rounding.away (r : Rounding) (d : Decimal) : Nat :=
  let (n, k) := r.scaled d
  (n - r.value * k) + (r.value * k - n)

/-- The least `j` from `start` on with `10 ^ j` times the value at least one. -/
def Rounding.firstPlace (r : Rounding) (start : Nat) : Nat → Nat
  | 0 => start
  | n + 1 => if r.value * Nat.pow 10 start ≥ r.denominator then start else r.firstPlace (start + 1) n

/-- The exponent of the first decimal digit. -/
def Rounding.magnitude (r : Rounding) : Int :=
  if r.value ≥ r.denominator then ((Nat.toDigits 10 (r.value / r.denominator)).length : Int) - 1
  else -(r.firstPlace 1 400 : Int)

/-- The point with `n` digits that rounds back, if there is one; `even` decides between two that are
equally near. -/
def Rounding.onGrid (r : Rounding) (even : Bool) (n : Nat) : Option Decimal :=
  let e := r.magnitude - n + 1
  let below := r.value * Nat.pow 10 (-e).toNat / (r.denominator * Nat.pow 10 e.toNat)
  let lower : Decimal := ⟨below, e⟩
  let upper : Decimal := ⟨below + 1, e⟩
  match r.holds lower, r.holds upper with
  | true, true =>
    let isNearer := r.away lower < r.away upper
    let isChosen := r.away lower == r.away upper && even && below % 2 == 0
    some (if isNearer || isChosen then lower else upper)
  | true, false => some lower
  | false, true => some upper
  | false, false => none

/-- A last digit zero is left to the exponent. -/
def Decimal.tidy (d : Decimal) : Decimal :=
  if d.digits % 10 = 0 then ⟨d.digits / 10, d.exponent + 1⟩ else d

def Rounding.shortest (r : Rounding) (even : Bool) : Decimal :=
  (((List.range' 1 17).findSome? (r.onGrid even)).getD ⟨0, 0⟩).tidy

/-- The decimal without an exponent, with a point only where digits follow it. -/
def Decimal.positional (d : Decimal) : List Char :=
  let digits := Nat.toDigits 10 d.digits
  if d.exponent ≥ 0 then digits ++ List.replicate d.exponent.toNat '0'
  else
    let places := (-d.exponent).toNat
    let padded := List.replicate (places + 1 - digits.length) '0' ++ digits
    padded.take (padded.length - places) ++ '.' :: padded.drop (padded.length - places)

/-- `positional`, with `.0` where that shows no point. -/
def Decimal.pointed (d : Decimal) : List Char :=
  if d.exponent ≥ 0 then d.positional ++ ['.', '0'] else d.positional

/-- The exponent of the first digit. -/
def Decimal.leading (d : Decimal) : Int := d.exponent + (Nat.toDigits 10 d.digits).length - 1

/-- The decimal with one digit before the point; `plus` stands before an exponent that is not
negative. -/
def Decimal.scientific (plus : String) (d : Decimal) : List Char :=
  let digits := Nat.toDigits 10 d.digits
  let fraction := digits.drop 1
  let mark := if d.leading < 0 then "" else plus
  digits.take 1 ++ (if fraction.isEmpty then [] else '.' :: fraction) ++
    'e' :: (mark ++ toString d.leading).toList

/-- `pointed` where the exponent of the first digit is at least `lowest` and less than sixteen, else
`scientific`. -/
def Decimal.pointedFrom (lowest : Int) (plus : String) (d : Decimal) : List Char :=
  if lowest ≤ d.leading && d.leading < 16 then d.pointed else d.scientific plus

/-! ## Texts of doubles -/

/-- The text of `x` by the text of a positive decimal, with `zero` for zero. -/
def spelling (even : Bool) (zero : String) (text : Decimal → List Char) (x : Float) : String :=
  if x.isNaN then "NaN"
  else
    let bits := x.toBits.toNat
    let magnitude := bits % Nat.pow 2 63
    let unsigned :=
      if x.isInf then "inf"
      else if magnitude == 0 then zero
      else String.ofList (text ((Rounding.ofBits magnitude).shortest even))
    if bits < Nat.pow 2 63 then unsigned else "-" ++ unsigned

/-- The shortest text that reads back as `x`. -/
def positional (x : Float) : String := spelling false "0" Decimal.positional x

/-- `positional`, with `.0` where a finite number shows no point. -/
def pointed (x : Float) : String := spelling false "0.0" Decimal.pointed x

/-- A double as JSON. -/
def jsonNumber (x : Float) : String := spelling true "0.0" (Decimal.pointedFrom (-5) "+") x

/-- A double as a diagnostic shows it. -/
def shownNumber (x : Float) : String := spelling false "0.0" (Decimal.pointedFrom (-4) "") x

/-! ## Nearest doubles -/

/-- The exponent of the first binary digit of `n / d`, where both are positive. -/
def binaryPlace (n d : Nat) : Int :=
  let e : Int := (n.log2 : Int) - d.log2
  if n * Nat.pow 2 (-e).toNat ≥ d * Nat.pow 2 e.toNat then e else e - 1

/-- The whole number nearest to `n / d`, the even one of two. -/
def roundEven (n d : Nat) : Nat :=
  let q := n / d
  let r := n % d
  if 2 * r > d || (2 * r == d && q % 2 == 1) then q + 1 else q

/-- The bits of infinity. -/
def infinityBits : Nat := 0x7FF0000000000000

/-- The double nearest to `n / d`, infinity where it is too large. Its last bit stands for `2 ^ q`. -/
def nearest (n d : Nat) : Float :=
  if n = 0 then 0
  else
    let q := max (binaryPlace n d - 52) (-1074)
    let m := roundEven (n * Nat.pow 2 (-q).toNat) (d * Nat.pow 2 q.toNat)
    let bits := (q + 1074).toNat * Nat.pow 2 52 + m
    Float.ofBits (UInt64.ofNat (min bits infinityBits))

/-- The size of a finite double as a fraction. -/
def fractionOf (x : Float) : Nat × Nat :=
  let bits := x.toBits.toNat
  let fraction : Nat := bits % Nat.pow 2 52
  let biased : Nat := bits / Nat.pow 2 52 % Nat.pow 2 11
  if biased = 0 then (fraction, Nat.pow 2 1074)
  else ((fraction + Nat.pow 2 52) * Nat.pow 2 (biased - 1075), Nat.pow 2 (1075 - biased))

/-- The remainder of a division that is cut to a whole number, with the sign of `x`. -/
def floatRemainder (x y : Float) : Float :=
  if x.isNaN || y.isNaN || x.isInf || y == 0 then 0.0 / 0.0
  else if y.isInf then x
  else
    let (a, b) := fractionOf x
    let (c, d) := fractionOf y
    let r := nearest (a * d % (c * b)) (b * d)
    if x.toBits.toNat < Nat.pow 2 63 then r else -r

/-- The double nearest to `digits * 10 ^ e`. -/
def ofDecimal (digits : Nat) (e : Int) : Float :=
  nearest (digits * Nat.pow 10 e.toNat) (Nat.pow 10 (-e).toNat)

end TemplateBundler.Text
