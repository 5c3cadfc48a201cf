import Textbase.Value

/-! The six relations between a cell and a literal. -/
namespace Textbase

inductive Relation
  | eq | ne | gt | lt | ge | le
  deriving DecidableEq, Repr

namespace Relation

def symbol : Relation → Text
  | eq => ['=']
  | ne => ['!', '=']
  | gt => ['>']
  | lt => ['<']
  | ge => ['>', '=']
  | le => ['<', '=']

/-- The relation whose symbol starts the text, the longer of two, and the text after it. -/
def read? : Text → Option (Relation × Text)
  | '!' :: '=' :: t => some (ne, t)
  | '>' :: '=' :: t => some (ge, t)
  | '<' :: '=' :: t => some (le, t)
  | '=' :: t => some (eq, t)
  | '>' :: t => some (gt, t)
  | '<' :: t => some (lt, t)
  | _ => none

theorem read?_symbol (r : Relation) : read? r.symbol = some (r, []) := by cases r <;> rfl

theorem symbol_append_of_read? {t u : Text} {r : Relation} (h : read? t = some (r, u)) :
    r.symbol ++ u = t := by
  unfold read? at h
  split at h <;> simp only [Option.some.injEq, Prod.mk.injEq, reduceCtorEq] at h
  all_goals
    obtain ⟨rfl, rfl⟩ := h
    rfl

theorem symbol_ne_nil (r : Relation) : r.symbol ≠ [] := by cases r <;> simp [symbol]

def holds (r : Relation) (cell literal : Text) : Bool :=
  match r with
  | eq => Value.same cell literal
  | ne => !Value.same cell literal
  | gt => Value.compare cell literal == .gt
  | lt => Value.compare cell literal == .lt
  | ge => Value.compare cell literal != .lt
  | le => Value.compare cell literal != .gt

end Relation

end Textbase
