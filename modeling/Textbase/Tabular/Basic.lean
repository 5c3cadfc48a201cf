import Textbase.Store.Schema
import Textbase.Text.Whitespace

/-! Tabular text: a line of column names and a line for every row, cells separated by tabs. -/
namespace Textbase

/-- Rows under named columns; a short row lacks its last columns. -/
structure Tabular where
  columns : List Text
  rows : List Row
  deriving DecidableEq, Repr

namespace Tabular

def line (cells : List Text) : Text := Text.joinWith ['\t'] cells

def encode (columns : List Text) (rows : List Row) : Text :=
  Text.joinWith ['\n'] (line columns :: rows.map line)

theorem encode_nil (columns : List Text) : encode columns [] = line columns := by
  simp [encode]

/-- A line of spaces and carriage returns stands for nothing; a lone tab is a row of empty cells. -/
def isBlank (l : Text) : Bool := l.all fun c => c == ' ' || c == '\r'

def cells (l : Text) : List Text := (l.splitOn '\t').map Text.trim

/-- The columns and rows of tabular text. Cells are trimmed, and a row has none beyond the last
column. -/
def decode (t : Text) : Tabular :=
  match (t.splitOn '\n').filter fun l => !isBlank l with
  | [] => ⟨[], []⟩
  | header :: ls => ⟨cells header, ls.map fun l => (cells l).take (cells header).length⟩

def get? (d : Tabular) (row : Nat) (column : Text) : Option Text :=
  (d.columns.findIdx? (· == column)).bind fun i => d.rows[row]?.bind (·[i]?)

def record? (d : Tabular) (row : Nat) : Option (List (Text × Text)) :=
  d.rows[row]?.map d.columns.zip

end Tabular

end Textbase
