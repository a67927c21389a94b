import EntityGen.Json.Value

/-! Which numbers are too large to be read. A number is scaled in two roundings to 53 significant
bits: the leading digits that fit 64 bits, and the power of ten that they are multiplied by. It is
too large if the product rounds beyond the largest number of 64-bit floating point. -/

namespace EntityGen.Json

/-- The nearest number of 53 significant bits; of two equally near ones, the even one. -/
def roundTo53 (n : Nat) : Nat :=
  let excess := n.log2 + 1 - 53
  let unit := Nat.pow 2 excess
  let q := n / unit
  let r := n % unit
  if 2 * r > unit ∨ (2 * r = unit ∧ q % 2 = 1) then (q + 1) * unit else q * unit

/-- The least product that rounds beyond the largest floating-point number. -/
def overflowBound : Nat := (Nat.pow 2 54 - 1) * Nat.pow 2 970

/-- Appends digits to a number while it fits 64 bits; the digits left are returned too. -/
def gather : Nat → List Char → Nat × List Char
  | n, [] => (n, [])
  | n, d :: ds =>
    let m := n * 10 + Text.digitValue d
    if m < wordBound then gather m ds else (n, d :: ds)

/-- The digits that count, and the power of ten that they are multiplied by. -/
def Literal.scaled (l : Literal) : Nat × Int :=
  let (n, excess) := gather 0 l.whole
  let fraction := l.fraction.getD []
  let (n, dropped) := gather n fraction
  let shift : Int := excess.length - (fraction.length - dropped.length : Nat)
  match l.exponent with
  | none => (n, shift)
  | some e =>
    let power : Int := Text.decimalValue e.digits
    (n, if e.negative then shift - power else shift + power)

/-- Whether a literal is too large to be read. -/
def Literal.tooLarge (l : Literal) : Bool :=
  let (n, shift) := l.scaled
  decide (n ≠ 0) && decide (0 ≤ shift) &&
    (decide (308 < shift) ||
      decide (overflowBound ≤ roundTo53 n * roundTo53 (Nat.pow 10 shift.toNat)))

/-- The largest power of ten that a literal may spell. -/
def maxExponent : Nat := 2147483647

/-- How many leading digits of a power of ten already spell more than it may be. -/
def exponentOverflow? (ds : List Char) : Option Nat :=
  (List.range ds.length).findSome? fun k =>
    if maxExponent < Text.decimalValue (ds.take (k + 1)) then some (k + 1) else none

end EntityGen.Json
