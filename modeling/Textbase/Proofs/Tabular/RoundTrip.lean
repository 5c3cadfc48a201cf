import Textbase.Proofs.Store.Reachable

/-! Tabular text read back. What is lost on the way is told exactly: lines that look blank, cells
beyond the last column and the whitespace around cells. A selection from a table therefore comes
back as it is, but for rows whose only cell is empty. -/
namespace Textbase

theorem Text.not_mem_joinWith {c : Char} {gap : Text} {ps : List Text} (hg : c ∉ gap)
    (hp : ∀ p ∈ ps, c ∉ p) : c ∉ joinWith gap ps := by
  induction ps with
  | nil => simp
  | cons p ps ih =>
    have hfirst : c ∉ p := hp p List.mem_cons_self
    have hrest := ih fun q hq => hp q (List.mem_cons_of_mem p hq)
    cases ps with
    | nil => simpa using hfirst
    | cons q ps => simp [hfirst, hg, hrest]

namespace Tabular

def Plain (cells : List Text) : Prop := ∀ c ∈ cells, '\t' ∉ c ∧ '\n' ∉ c

instance (cells : List Text) : Decidable (Plain cells) :=
  inferInstanceAs (Decidable (∀ c ∈ cells, '\t' ∉ c ∧ '\n' ∉ c))

/-- The line of the cells is not taken for a blank one. -/
def IsShown (cells : List Text) : Prop := ∃ c ∈ line cells, c ≠ ' ' ∧ c ≠ '\r'

instance (cells : List Text) : Decidable (IsShown cells) :=
  decidable_of_iff ((line cells).any fun c => c != ' ' && c != '\r') (by simp [IsShown])

theorem filter_map_line (rows : List Row) :
    (rows.map line).filter (fun l => !isBlank l) = (rows.filter fun row => IsShown row).map line := by
  have h : ∀ row : Row, (!isBlank (line row)) = decide (IsShown row) := by
    intro row
    rw [Bool.eq_iff_iff, decide_eq_true_iff]
    simp [isBlank, IsShown]
  simp only [List.filter_map, Function.comp_def, h]

theorem IsShown.ne_nil {cells : List Text} (h : IsShown cells) : cells ≠ [] := by
  rintro rfl
  obtain ⟨c, hc, -⟩ := h
  simp [line] at hc

theorem cells_line {row : List Text} (hr : row ≠ []) (hp : Plain row) :
    cells (line row) = row.map Text.trim := by
  rw [cells, line, Text.joinWith, List.splitOn_intercalate '\t' (fun c hc => (hp c hc).1) hr]

theorem splitOn_encode {columns : List Text} {rows : List Row}
    (hp : ∀ cells ∈ columns :: rows, Plain cells) :
    (encode columns rows).splitOn '\n' = (columns :: rows).map line := by
  have hline : ∀ l ∈ line columns :: rows.map line, '\n' ∉ l := by
    rw [← List.map_cons]
    intro l hl
    obtain ⟨cells, hc, rfl⟩ := List.mem_map.1 hl
    exact Text.not_mem_joinWith (by decide) fun c h => (hp cells hc c h).2
  rw [encode, Text.joinWith, List.splitOn_intercalate '\n' hline (List.cons_ne_nil _ _),
    List.map_cons]

/-- Reading back what was written gives the trimmed columns, and of the rows that are shown as many
trimmed cells as there are columns. -/
theorem decode_encode {columns : List Text} {rows : List Row}
    (hp : ∀ cells ∈ columns :: rows, Plain cells) (hs : IsShown columns) :
    decode (encode columns rows) = ⟨columns.map Text.trim,
      (rows.filter fun row => IsShown row).map fun row =>
        (row.take columns.length).map Text.trim⟩ := by
  have hlines : ((encode columns rows).splitOn '\n').filter (fun l => !isBlank l) =
      line columns :: (rows.filter fun row => IsShown row).map line := by
    have hc : decide (IsShown columns) = true := decide_eq_true hs
    rw [splitOn_encode hp, filter_map_line, List.filter_cons, if_pos hc, List.map_cons]
  have hcolumns : cells (line columns) = columns.map Text.trim :=
    cells_line hs.ne_nil (hp columns List.mem_cons_self)
  have hrow : ∀ row ∈ rows.filter fun row => IsShown row,
      (cells (line row)).take (columns.map Text.trim).length =
        (row.take columns.length).map Text.trim := by
    intro row hr
    obtain ⟨hm, hshown⟩ := List.mem_filter.1 hr
    rw [cells_line (of_decide_eq_true hshown).ne_nil (hp row (List.mem_cons_of_mem _ hm)),
      List.length_map, List.map_take]
  rw [decode, hlines]
  simp only [hcolumns, List.map_map]
  exact congrArg (Tabular.mk _) (List.map_congr_left hrow)

/-- A short row stays short, a long one loses its last cell and an empty one is skipped. So is a row
of spaces, unless a tab shows that it has two cells. -/
theorem decode_encode_ragged :
    let columns : List Text := [" a".toList, ['b']]
    let rows : List Row := [["1 ".toList, ['2'], ['3']], [['4']], [], [[' ']], [[' '], []]]
    (∀ cells ∈ columns :: rows, Plain cells) ∧ IsShown columns ∧
      decode (encode columns rows) =
        ⟨[['a'], ['b']], [[['1'], ['2']], [['4']], [[], []]]⟩ := by
  intro columns rows
  have hp : ∀ cells ∈ columns :: rows, Plain cells := by decide +kernel
  have hs : IsShown columns := by decide +kernel
  have hd := decode_encode hp hs
  have hcolumns : columns.map Text.trim = [['a'], ['b']] := by decide +kernel
  have hrows : ((rows.filter fun row => IsShown row).map fun row =>
      (row.take columns.length).map Text.trim) = [[['1'], ['2']], [['4']], [[], []]] := by
    decide +kernel
  rw [hcolumns, hrows] at hd
  exact ⟨hp, hs, hd⟩

theorem isShown_iff_of_trimmed {row : List Text} (ht : ∀ c ∈ row, c.Trimmed) :
    IsShown row ↔ row ≠ [] ∧ row ≠ [[]] := by
  constructor
  · intro h
    refine ⟨h.ne_nil, ?_⟩
    rintro rfl
    exact absurd h (by decide)
  · rintro ⟨hr, he⟩
    match row, hr, he with
    | [[]], _, he => exact absurd rfl he
    | [d :: cs], _, _ =>
      have hd : Text.isSpace d = false := (ht _ List.mem_cons_self).head d rfl
      refine ⟨d, by simp [line], ?_, ?_⟩ <;> rintro rfl <;> exact absurd hd (by decide)
    | c :: c' :: cs, _, _ => exact ⟨'\t', by simp [line], by decide, by decide⟩

theorem decode_encode_of_trimmed {columns : List Text} {rows : List Row}
    (hp : ∀ cells ∈ columns :: rows, Plain cells)
    (ht : ∀ cells ∈ columns :: rows, ∀ c ∈ cells, c.Trimmed) (hs : IsShown columns)
    (hw : ∀ row ∈ rows, row.length ≤ columns.length) :
    decode (encode columns rows) = ⟨columns, rows.filter fun row => IsShown row⟩ := by
  have htrim : ∀ cells ∈ columns :: rows, cells.map Text.trim = cells := by
    intro cells hc
    calc cells.map Text.trim
      _ = cells.map id := List.map_congr_left fun c h => (ht cells hc c h).trim_eq
      _ = cells := List.map_id cells
  have hrow : ∀ row ∈ rows.filter fun row => IsShown row,
      (row.take columns.length).map Text.trim = id row := by
    intro row hr
    have hm : row ∈ rows := List.mem_of_mem_filter hr
    rw [List.take_of_length_le (hw row hm), htrim row (List.mem_cons_of_mem _ hm), id]
  rw [decode_encode hp hs, htrim columns List.mem_cons_self, List.map_congr_left hrow, List.map_id]

end Tabular

namespace Database

open Tabular

theorem Reachable.of_selected {db : Database} (h : db.Reachable) {t table : Text}
    {columns : List Text} {rows : List Row}
    (he : (db.execute t).2 = .ok (.selected table columns rows)) :
    columns ≠ [] ∧ (∀ c ∈ columns, c ≠ []) ∧ ∀ row ∈ rows, row.length = columns.length := by
  have hx := executed db t
  generalize db.execute t = result at hx he
  cases hx with
  | failed | created | inserted => cases he
  | selected hp hs =>
    cases he
    obtain ⟨all, ht, hsub⟩ := exists_table?_of_select hs
    obtain ⟨hcatalog, hstore⟩ := table?_eq_some_iff.1 ht
    obtain ⟨hne, hc⟩ := h.wellFormed.columns _ _ hcatalog
    exact ⟨hne, fun c hm => (hc c hm).1,
      fun row hm => h.wellFormed.rows _ _ _ hcatalog hstore row (hsub hm)⟩

/-- A selection is read back as it was, but for the rows whose only cell is empty: the line of such
a row looks blank. -/
theorem Reachable.decode_output {db : Database} (h : db.Reachable) {t table : Text}
    {columns : List Text} {rows : List Row}
    (he : (db.execute t).2 = .ok (.selected table columns rows))
    (hp : ∀ cells ∈ columns :: rows, Plain cells)
    (ht : ∀ cells ∈ columns :: rows, ∀ c ∈ cells, c.Trimmed) :
    ∃ text, (Outcome.selected table columns rows).output = some text ∧
      (Outcome.selected table columns rows).rowCount = some rows.length ∧
      decode text = ⟨columns, rows.filter fun row => row ≠ [[]]⟩ ∧
      (decode text = ⟨columns, rows⟩ ↔ [[]] ∉ rows) ∧
      (columns.length ≠ 1 → decode text = ⟨columns, rows⟩) := by
  obtain ⟨hne, hnames, hw⟩ := h.of_selected he
  have hshown : IsShown columns := by
    refine (isShown_iff_of_trimmed (ht columns List.mem_cons_self)).2 ⟨hne, ?_⟩
    rintro rfl
    exact hnames [] List.mem_cons_self rfl
  have hfilter : (rows.filter fun row => IsShown row) = rows.filter fun row => row ≠ [[]] := by
    refine List.filter_congr fun row hm => ?_
    have hr : row ≠ [] := by
      rintro rfl
      exact hne (List.length_eq_zero_iff.1 (hw [] hm).symm)
    have hi := isShown_iff_of_trimmed (ht row (List.mem_cons_of_mem _ hm))
    simp [hi, hr]
  have hd : decode (encode columns rows) = ⟨columns, rows.filter fun row => row ≠ [[]]⟩ := by
    rw [decode_encode_of_trimmed hp ht hshown fun row hm => Nat.le_of_eq (hw row hm), hfilter]
  have hiff : decode (encode columns rows) = ⟨columns, rows⟩ ↔ [[]] ∉ rows := by
    rw [hd, Tabular.mk.injEq, List.filter_eq_self]
    constructor
    · rintro ⟨-, hall⟩ hm
      exact of_decide_eq_true (hall _ hm) rfl
    · intro hm
      exact ⟨rfl, fun row hr => decide_eq_true fun hc => hm (hc ▸ hr)⟩
  refine ⟨_, rfl, rfl, hd, hiff, fun hl => hiff.2 fun hm => hl (hw _ hm).symm⟩

/-- The row with a value comes back, and the one with the empty value does not. -/
theorem decode_output_mixed :
    let db := (empty.runScript
      "make table t fields a\ninsert into t values ''\ninsert into t values x".toList).1
    let columns : List Text := [['a']]
    let rows : List Row := [[[]], [['x']]]
    db.Reachable ∧
      (db.execute "select * from t".toList).2 = .ok (.selected ['t'] columns rows) ∧
      (∀ cells ∈ columns :: rows, Plain cells) ∧
      (∀ cells ∈ columns :: rows, ∀ c ∈ cells, c.Trimmed) ∧
      ∃ text, (Outcome.selected ['t'] columns rows).output = some text ∧
        (Outcome.selected ['t'] columns rows).rowCount = some 2 ∧
        decode text = ⟨columns, [[['x']]]⟩ := by
  intro db columns rows
  have h : db.Reachable := .runScript .empty _
  have he : (db.execute "select * from t".toList).2 = .ok (.selected ['t'] columns rows) := by
    decide +kernel
  have hp : ∀ cells ∈ columns :: rows, Plain cells := by decide
  have ht : ∀ cells ∈ columns :: rows, ∀ c ∈ cells, c.Trimmed := by decide
  obtain ⟨text, ho, hn, hd, -⟩ := Reachable.decode_output h he hp ht
  exact ⟨h, he, hp, ht, text, ho, hn, hd⟩

/-- The empty value of an only column is written as an empty line, and the row is not read back. -/
theorem decode_output_lost :
    let db := (empty.runScript "make table t fields a\ninsert into t values ''".toList).1
    let outcome := Outcome.selected ['t'] [['a']] [[[]]]
    db.Reachable ∧ (db.execute "select * from t".toList).2 = .ok outcome ∧
      (∀ c ∈ [['a'], []], '\t' ∉ c ∧ '\n' ∉ c ∧ Text.Trimmed c) ∧
      outcome.rowCount = some 1 ∧ outcome.output = some ['a', '\n'] ∧
      decode ['a', '\n'] = ⟨[['a']], []⟩ ∧ decode ['a', '\n'] ≠ ⟨[['a']], [[[]]]⟩ := by
  intro db outcome
  have h : db.Reachable := .runScript .empty _
  have he : (db.execute "select * from t".toList).2 = .ok outcome := by decide +kernel
  exact ⟨h, he, by decide, rfl, by decide, by decide, by decide⟩

end Database

end Textbase
