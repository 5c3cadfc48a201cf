import Textbase.Error
import Textbase.Store.Keyed

/-! The catalog: schemas by table name and, apart from them, the names in the order in which the
tables were first created. -/
namespace Textbase

structure Catalog where
  names : List Text
  schemas : Keyed Schema
  deriving DecidableEq, Repr

namespace Catalog

def empty : Catalog := ⟨[], .empty⟩

def get? (c : Catalog) (table : Text) : Option Schema := c.schemas.get? table

def contains (c : Catalog) (table : Text) : Bool := c.schemas.contains table

def schema (c : Catalog) (table : Text) : Except Error Schema :=
  match c.get? table with
  | some s => .ok s
  | none => .error (.tableNotFound table)

/-- A table that is known gets the new schema in place of its old one. -/
def put (c : Catalog) (table : Text) (s : Schema) : Catalog :=
  ⟨if c.contains table then c.names else c.names ++ [table], c.schemas.put table s⟩

def entries (c : Catalog) : List (Text × Schema) :=
  c.names.filterMap fun n => (c.get? n).map (n, ·)

@[simp] theorem names_empty : empty.names = [] := rfl
@[simp] theorem get?_empty (table : Text) : empty.get? table = none := rfl

@[simp] theorem get?_put (c : Catalog) (table other : Text) (s : Schema) :
    (c.put table s).get? other = if other = table then some s else c.get? other :=
  Keyed.get?_put c.schemas table other s

theorem names_put_of_contains {c : Catalog} {table : Text} (h : c.contains table = true)
    (s : Schema) : (c.put table s).names = c.names := by
  simp [put, h]

theorem names_put_of_not_contains {c : Catalog} {table : Text} (h : c.contains table = false)
    (s : Schema) : (c.put table s).names = c.names ++ [table] := by
  simp [put, h]

end Catalog

end Textbase
