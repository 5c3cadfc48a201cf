import Textbase.Text.Lowercase

/-! Columns of a table. A column is found by its name whatever the case; where several columns
have the name, the first one counts. -/
namespace Textbase

/-- Cells by column; a row may be shorter or longer than its table is wide. -/
abbrev Row := List Text

structure Schema where
  columns : List Text
  deriving DecidableEq, Repr

namespace Schema

def columnType : Text := "TEXT".toList

def width (s : Schema) : Nat := s.columns.length

def find? (s : Schema) (name : Text) : Option Nat :=
  s.columns.findIdx? fun c => Text.lower c == Text.lower name

/-- The cell of a row at a position; a short row has empty cells at its end. -/
def cell (row : Row) (i : Nat) : Text := row[i]?.getD []

/-- The position of the first column of a name, whatever the case of either. -/
structure IsFirstColumn (s : Schema) (name : Text) (i : Nat) : Prop where
  lower_eq : s.columns[i]?.map Text.lower = some (Text.lower name)
  lower_ne : ∀ j < i, s.columns[j]?.map Text.lower ≠ some (Text.lower name)

theorem find?_eq_some_iff {s : Schema} {name : Text} {i : Nat} :
    s.find? name = some i ↔ s.IsFirstColumn name i := by
  rw [find?, List.findIdx?_eq_some_iff_getElem]
  constructor
  · rintro ⟨hi, he, hn⟩
    refine ⟨by simpa [hi] using he, fun j hj => ?_⟩
    have hlt : j < s.columns.length := by omega
    simpa [hlt] using hn j hj
  · rintro ⟨he, hn⟩
    obtain ⟨c, hc, he⟩ := Option.map_eq_some_iff.1 he
    obtain ⟨hi, rfl⟩ := List.getElem?_eq_some_iff.1 hc
    refine ⟨hi, by simpa using he, fun j hj => ?_⟩
    have hlt : j < s.columns.length := by omega
    simpa [hlt] using hn j hj

theorem find?_lt {s : Schema} {name : Text} {i : Nat} (h : s.find? name = some i) :
    i < s.width := by
  obtain ⟨hi, -⟩ := List.findIdx?_eq_some_iff_getElem.1 h
  exact hi

end Schema

end Textbase
