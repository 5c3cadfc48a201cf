import Textbase.Number.Double
import Textbase.Text.Whitespace

/-! Values of cells and literals. A value is text; two values are compared as numbers when both
read as numbers, and as text otherwise. -/
namespace Textbase.Value

def isQuote (c : Char) : Bool := c == '"' || c == '\''

/-- The text without one pair of equal quotes around it; any other text as it is. -/
def unquote : Text → Text
  | [] => []
  | c :: t => if isQuote c && t.getLast? == some c then t.dropLast else c :: t

@[simp] theorem unquote_nil : unquote [] = [] := rfl
theorem unquote_wrapped (q : Char) (t : Text) (h : isQuote q = true) :
    unquote (q :: t ++ [q]) = t := by
  simp [unquote, h]

/-- The number that a value stands for; words for infinity and the like are none. -/
def number? (t : Text) : Option Double := (Decimal.read? (Text.trim t)).map Double.ofDecimal

protected def compare (s t : Text) : Ordering :=
  match number? s, number? t with
  | some x, some y => x.compare y
  | _, _ => Text.order s t

def same (s t : Text) : Bool :=
  match number? s, number? t with
  | some x, some y => x.key == y.key
  | _, _ => s == t

end Textbase.Value
