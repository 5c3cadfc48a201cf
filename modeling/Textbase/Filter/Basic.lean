import Textbase.Relation
import Textbase.Store.Schema

/-! Filters on rows, and which rows they let through. -/
namespace Textbase

structure Comparison where
  column : Text
  relation : Relation
  literal : Text
  deriving DecidableEq, Repr

inductive Filter
  | compare (c : Comparison)
  /-- Text that is no comparison; it lets every row through. -/
  | unmatched (text : Text)
  | and (left right : Filter)
  | or (left right : Filter)
  deriving DecidableEq, Repr

/-- A column that the table does not have compares with nothing. -/
def Comparison.holds (c : Comparison) (schema : Schema) (row : Row) : Bool :=
  match schema.find? c.column with
  | none => false
  | some i => c.relation.holds (Schema.cell row i) c.literal

namespace Filter

def holds (schema : Schema) (row : Row) : Filter → Bool
  | compare c => c.holds schema row
  | unmatched _ => true
  | and f g => holds schema row f && holds schema row g
  | or f g => holds schema row f || holds schema row g

@[simp] theorem holds_compare (s : Schema) (r : Row) (c : Comparison) :
    (compare c).holds s r = c.holds s r := rfl
@[simp] theorem holds_unmatched (s : Schema) (r : Row) (t : Text) :
    (unmatched t).holds s r = true := rfl
@[simp] theorem holds_and (s : Schema) (r : Row) (f g : Filter) :
    (f.and g).holds s r = (f.holds s r && g.holds s r) := rfl
@[simp] theorem holds_or (s : Schema) (r : Row) (f g : Filter) :
    (f.or g).holds s r = (f.holds s r || g.holds s r) := rfl

end Filter

end Textbase
