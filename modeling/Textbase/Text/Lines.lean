import Textbase.Text.Basic

/-! Lines of a text. -/
namespace Textbase.Text

def dropReturn (l : Text) : Text := if l.getLast? == some '\r' then l.dropLast else l

/-- A line feed ends a line, with a carriage return before it or not; the last line need not be
ended. -/
def linesOfPieces : List Text → List Text
  | [] => []
  | [l] => if l.isEmpty then [] else [l]
  | l :: m :: ls => dropReturn l :: linesOfPieces (m :: ls)

def lines (t : Text) : List Text := linesOfPieces (t.splitOn '\n')

end Textbase.Text
