import Textbase.Tabular.Basic

/-! Tables as they are shown: every column as wide as its widest cell, counted in characters. -/
namespace Textbase.Tabular

def columnWidth (d : Tabular) (i : Nat) (name : Text) : Nat :=
  d.rows.foldl (fun w row => max w (Schema.cell row i).length) name.length

def widths (d : Tabular) : List Nat := d.columns.zipIdx.map fun (name, i) => d.columnWidth i name

def pad (w : Nat) (t : Text) : Text := t ++ List.replicate (w - t.length) ' '

@[simp] theorem length_pad (w : Nat) (t : Text) : (pad w t).length = max t.length w := by
  simp [pad]
  omega

/-- The cells of a row in columns of the given widths, without spaces at the end. -/
def layoutRow (ws : List Nat) (row : Row) : Text :=
  Text.trimEnd (Text.joinWith " | ".toList
    (ws.zipIdx.map fun (w, i) => pad w (Schema.cell row i)))

def rule (ws : List Nat) : Text :=
  Text.joinWith "-+-".toList (ws.map fun w => List.replicate w '-')

def layoutLines (d : Tabular) : List Text :=
  layoutRow d.widths d.columns :: rule d.widths :: d.rows.map (layoutRow d.widths)

def layout (d : Tabular) : Text := Text.joinWith ['\n'] d.layoutLines

/-- The greatest width that text can be padded to; it has sixteen bits. -/
def widthLimit : Nat := 65535

def layout? (d : Tabular) : Option Text :=
  if d.widths.all (· ≤ widthLimit) then some d.layout else none

theorem layout?_eq_some_iff {d : Tabular} {t : Text} :
    d.layout? = some t ↔ (∀ w ∈ d.widths, w ≤ widthLimit) ∧ d.layout = t := by
  simp [layout?]

theorem layout?_eq_none_iff {d : Tabular} :
    d.layout? = none ↔ ∃ w ∈ d.widths, widthLimit < w := by
  simp [layout?]

end Textbase.Tabular
