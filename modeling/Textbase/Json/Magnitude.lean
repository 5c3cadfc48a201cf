import Textbase.Number.Double

/-! The range of JSON numbers. A number is read in double precision from as many of its digits as a
64-bit word holds: the coefficient and the power of ten are each rounded, and so is their product.
A literal whose product is beyond the doubles has no place in JSON text; close to the largest
double this differs from rounding the exact value once. -/
namespace Textbase.Json

/-- Appends digits to those of `n` as long as the number fits in a 64-bit word; the number, and the
digits left over. -/
def appendDigits (n : Nat) : Text → Nat × Text
  | [] => (n, [])
  | c :: t =>
    let m := 10 * n + Decimal.digitValue c
    if m < UInt64.size then appendDigits m t else (n, c :: t)

/-- The value of the digits that fit. Those left over of the whole part count as zeros, those of the
fraction are dropped. -/
def shortValue (x : Decimal.Literal) : Decimal :=
  let (n, left) := appendDigits 0 x.whole
  let (m, dropped) := appendDigits n x.fraction
  ⟨x.negative, m, x.power + left.length - (x.fraction.length - dropped.length : Nat)⟩

/-- Whether the coefficient times the power of ten, each rounded, rounds to more than the largest
double. A power of ten beyond the doubles is one for every coefficient but zero. -/
def isHuge (x : Decimal) : Bool :=
  match x.exponent with
  | .ofNat k => x.coefficient != 0 && (308 < k ||
      Nat.pow 2 1024 ≤ Double.roundNat (Double.roundNat x.coefficient * Double.roundNat (Nat.pow 10 k)))
  | .negSucc _ => false

def exceedsRange (literal : Text) : Bool :=
  ((Decimal.Literal.read? literal).map fun x => isHuge (shortValue x)).getD true

end Textbase.Json
