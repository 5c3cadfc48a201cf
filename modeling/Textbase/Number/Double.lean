import Textbase.Number.Decimal

/-! Double-precision numbers, as far as reading and comparing needs them. Scaled by `2 ^ 1074`
every finite double is an integer, so rounding a literal is one rounded division, and the order of
doubles is that of their encodings. -/
namespace Textbase

/-- Sign and encoding of the absolute value; there is no not-a-number among them. -/
structure Double where
  negative : Bool
  magnitude : Nat
  deriving DecidableEq, Repr

namespace Double

def infinite : Nat := 2047 * Nat.pow 2 52

/-- The integer nearest to `n / d`; of two equally near the even one. -/
def divNearest (n d : Nat) : Nat :=
  let q := n / d
  if 2 * (n % d) < d then q else if d < 2 * (n % d) then q + 1 else q + q % 2

/-- Encoding of the double nearest to `n / d`. The quotient, in units of `2 ^ -1074`, keeps 53
binary places; the number of places dropped is the exponent field, less one for numbers that are
not subnormal, and a carry out of the fraction lands in the exponent as it should. -/
def encodeRatio (n d : Nat) : Nat :=
  let units := n * Nat.pow 2 1074
  let dropped := Nat.log2 (units / d) + 1 - 53
  min (dropped * Nat.pow 2 52 + divNearest units (d * Nat.pow 2 dropped)) infinite

/-- Encoding of the double nearest to `c * 10 ^ e`. A power of ten beyond the range of doubles is
settled without being computed. -/
def encodeScaled (c : Nat) (e : Int) : Nat :=
  if c = 0 then 0
  else if 310 < e then infinite
  else if e + (Text.ofNat c).length < -330 then 0
  else match e with
    | .ofNat k => encodeRatio (c * Nat.pow 10 k) 1
    | .negSucc k => encodeRatio c (Nat.pow 10 (k + 1))

def ofDecimal (x : Decimal) : Double := ⟨x.negative, encodeScaled x.coefficient x.exponent⟩

/-- Signed encoding; both zeros have the same. -/
def key (x : Double) : Int := if x.negative then -(x.magnitude : Int) else x.magnitude

protected def compare (x y : Double) : Ordering := compare x.key y.key

/-- The natural number of 53 binary places that is nearest to `n`; of two equally near the one whose
last place is zero. -/
def roundNat (n : Nat) : Nat :=
  let unit := Nat.pow 2 (Nat.log2 n + 1 - 53)
  divNearest n unit * unit

def bits (x : Double) : Nat := (if x.negative then Nat.pow 2 63 else 0) + x.magnitude

end Double

end Textbase
