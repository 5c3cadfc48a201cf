import Textbase.Text.Basic

/-! Decimal literals and their exact values: an optional sign, digits with an optional point among,
before or after them, and an optional power of ten. -/
namespace Textbase

/-- The number `coefficient * 10 ^ exponent`, negated if `negative`. -/
structure Decimal where
  negative : Bool
  coefficient : Nat
  exponent : Int
  deriving DecidableEq, Repr

namespace Decimal

def digitValue (c : Char) : Nat := c.toNat - '0'.toNat

def natOfDigits (t : Text) : Nat := t.foldl (fun n c => 10 * n + digitValue c) 0

@[simp] theorem natOfDigits_nil : natOfDigits [] = 0 := rfl
theorem natOfDigits_append_singleton (t : Text) (c : Char) :
    natOfDigits (t ++ [c]) = 10 * natOfDigits t + digitValue c := by
  simp [natOfDigits]

def readSign : Text → Bool × Text
  | '-' :: t => (true, t)
  | '+' :: t => (false, t)
  | t => (false, t)

def readDigits (t : Text) : Text × Text := (t.takeWhile Char.isDigit, t.dropWhile Char.isDigit)

theorem readDigits_append (t : Text) : (readDigits t).1 ++ (readDigits t).2 = t :=
  List.takeWhile_append_dropWhile

def readFraction : Text → Text × Text
  | '.' :: t => readDigits t
  | t => ([], t)

/-- A power of ten that is the whole text; zero when there is no text. -/
def readExponent? : Text → Option Int
  | [] => some 0
  | c :: t =>
    if c = 'e' || c = 'E' then
      let (negative, u) := readSign t
      match readDigits u with
      | ([], _) => none
      | (ds, []) => some (if negative then -(natOfDigits ds : Int) else natOfDigits ds)
      | _ => none
    else none

structure Literal where
  negative : Bool
  whole : Text
  fraction : Text
  power : Int
  deriving DecidableEq, Repr

def Literal.read? (t : Text) : Option Literal :=
  let (negative, u) := readSign t
  let (whole, v) := readDigits u
  let (fraction, w) := readFraction v
  if whole.isEmpty && fraction.isEmpty then none
  else (readExponent? w).map fun e => ⟨negative, whole, fraction, e⟩

def Literal.value (x : Literal) : Decimal :=
  ⟨x.negative, natOfDigits (x.whole ++ x.fraction), x.power - (x.fraction.length : Int)⟩

def read? (t : Text) : Option Decimal := (Literal.read? t).map Literal.value

end Decimal

end Textbase
