import Textbase.Proofs.Filter.Selection
import Textbase.Proofs.Filter.Writing
import Textbase.Proofs.Value.Coherence

/-! A stored value can be found again. A comparison of a column with a literal, written out in a
selection, selects the rows whose cell in that column stands in the relation to the literal; with
`=` these are the rows with the value, with `!=` all others. -/
namespace Textbase

/-- Whether a row has a cell at position `k` that is the same value as `v`. -/
def Value.isIn (v : Text) (k : Nat) (row : Row) : Bool := row[k]?.any (Value.same · v)

theorem Clause.parse_text {w : Clause}
    (hw : Text.sameFolded w.column "where".toList = false) :
    Filter.parse w.text = .ok (.compare w.comparison) :=
  Filter.parse_of_alternates w.conjoins_text.alternates rfl w.isName_column hw

namespace Database

theorem Reachable.exists_cell {db : Database} (h : db.Reachable) {table : Text} {d : Tabular}
    (ht : db.table? table = some d) {k : Nat} (hk : k < d.columns.length) :
    ∀ row ∈ d.rows, ∃ cell, row[k]? = some cell := by
  intro row hr
  obtain ⟨hs, hrows⟩ := table?_eq_some_iff.1 ht
  have hw : row.length = d.columns.length := h.wellFormed.rows table _ _ hs hrows row hr
  exact ⟨row[k], List.getElem?_eq_getElem (by omega)⟩

/-- A comparison that is written out selects by the cells of its column, the first one of that
name. -/
theorem Reachable.execute_clause {db : Database} (h : db.Reachable) {table : Text} {d : Tabular}
    (ht : db.table? table = some d) {w : Clause} {k : Nat}
    (hw : Text.sameFolded w.column "where".toList = false)
    (hk : Schema.IsFirstColumn ⟨d.columns⟩ w.column k) :
    db.execute (Command.selection table w.text) = (db, .ok (.selected table d.columns
      (d.rows.filter fun row => row[k]?.any (w.relation.holds · w.literal.value)))) := by
  have hfind := Schema.find?_eq_some_iff.2 hk
  have hcell := h.exists_cell ht (Schema.find?_lt hfind)
  have hp := Command.parse_selection_of_parse (h.isName_of_table? ht) (Clause.parse_text hw)
  have hfilter : (d.rows.filter fun row => (Filter.compare w.comparison).holds ⟨d.columns⟩ row) =
      d.rows.filter fun row => row[k]?.any (w.relation.holds · w.literal.value) := by
    refine List.filter_congr fun row hr => ?_
    obtain ⟨cell, hc⟩ := hcell row hr
    have hfind' : Schema.find? ⟨d.columns⟩ w.comparison.column = some k := hfind
    simp only [Filter.holds_compare, Comparison.holds, hfind', Schema.cell, hc, Option.getD_some,
      Option.any_some]
    rfl
  rw [execute_of_parse_ok hp, run, select_eq_ok_of_table? ht]
  simp only [hfilter]

/-- A value that leaves one of the two marks unused can be written as a literal, and however it is,
comparing a column with it by `=` finds the rows whose cell is the same value, those among them
where it is literally stored, and by `!=` the rows that are left. The column is called by a name
that is no word of filters and that no column before it has, whatever the case. -/
theorem Reachable.execute_search {db : Database} (h : db.Reachable) {table : Text} {d : Tabular}
    (ht : db.table? table = some d) {k : Nat} {c : Text} (hc : d.columns[k]? = some c)
    (hn : c.IsName) (hand : Text.sameFolded c "and".toList = false)
    (hor : Text.sameFolded c "or".toList = false)
    (hwhere : Text.sameFolded c "where".toList = false)
    (hfirst : ∀ j < k, d.columns[j]?.map Text.lower ≠ some (Text.lower c)) {v : Text}
    (hv : '"' ∉ v ∨ '\'' ∉ v) :
    (∃ l : Literal, l.value = v) ∧
    ∀ l : Literal, l.value = v →
      db.execute (Command.selection table (c ++ " = ".toList ++ l.text)) =
        (db, .ok (.selected table d.columns (d.rows.filter (Value.isIn v k)))) ∧
      db.execute (Command.selection table (c ++ " != ".toList ++ l.text)) =
        (db, .ok (.selected table d.columns (d.rows.filter fun row => !Value.isIn v k row))) ∧
      (∀ row ∈ d.rows, ∃ cell, row[k]? = some cell) ∧
      ∀ row ∈ d.rows, row[k]? = some v → row ∈ d.rows.filter (Value.isIn v k) := by
  refine ⟨Literal.exists_value_eq_iff.2 hv, ?_⟩
  rintro l rfl
  have hk : Schema.IsFirstColumn ⟨d.columns⟩ c k := ⟨by rw [hc]; rfl, hfirst⟩
  have hcell := h.exists_cell ht (Schema.find?_lt (Schema.find?_eq_some_iff.2 hk))
  let equal : Clause := ⟨c, .eq, l, hn, hand, hor⟩
  let unequal : Clause := ⟨c, .ne, l, hn, hand, hor⟩
  have hequal : equal.text = c ++ " = ".toList ++ l.text := by
    have hgap : " = ".toList = [' ', '=', ' '] := by decide +kernel
    simp [equal, Clause.text, Relation.symbol, hgap]
  have hunequal : unequal.text = c ++ " != ".toList ++ l.text := by
    have hgap : " != ".toList = [' ', '!', '=', ' '] := by decide +kernel
    simp [unequal, Clause.text, Relation.symbol, hgap]
  refine ⟨?_, ?_, hcell, ?_⟩
  · rw [← hequal]
    exact h.execute_clause ht (w := equal) hwhere hk
  · have hleft : (d.rows.filter fun row => row[k]?.any (Relation.ne.holds · l.value)) =
        d.rows.filter fun row => !Value.isIn l.value k row := by
      refine List.filter_congr fun row hr => ?_
      obtain ⟨cell, hcell⟩ := hcell row hr
      simp only [Value.isIn, hcell, Option.any_some, Relation.holds]
    rw [← hunequal, ← hleft]
    exact h.execute_clause ht (w := unequal) hwhere hk
  · intro row hr hv
    refine List.mem_filter.2 ⟨hr, ?_⟩
    rw [Value.isIn, hv, Option.any_some, Value.same_self]

/-- The same number in another spelling is found, and a later column of the same name is not looked
at. -/
theorem execute_search_number :
    let db := (empty.runScript ("make table t fields x y, N, n\n".toList ++
      "insert into t values a, 2e1, 1\n".toList ++ "insert into t values b, ' or', 20".toList)).1
    let columns := ["x y".toList, ['N'], ['n']]
    let first : Row := [['a'], "2e1".toList, ['1']]
    let second : Row := [['b'], " or".toList, "20".toList]
    db.Reachable ∧ db.table? ['t'] = some ⟨columns, [first, second]⟩ ∧
      (∃ l : Literal, l.value = "20".toList) ∧
      ∀ l : Literal, l.value = "20".toList →
        db.execute (Command.selection ['t'] (['N'] ++ " = ".toList ++ l.text)) =
          (db, .ok (.selected ['t'] columns [first])) ∧
        db.execute (Command.selection ['t'] (['N'] ++ " != ".toList ++ l.text)) =
          (db, .ok (.selected ['t'] columns [second])) := by
  intro db columns first second
  have h : db.Reachable := .runScript .empty _
  have ht : db.table? ['t'] = some ⟨columns, [first, second]⟩ := by decide +kernel
  have hfound : [first, second].filter (Value.isIn "20".toList 1) = [first] := by decide +kernel
  have hleft : ([first, second].filter fun row => !Value.isIn "20".toList 1 row) = [second] := by
    decide +kernel
  obtain ⟨hwritten, hsearch⟩ := Reachable.execute_search h ht (k := 1) (c := ['N']) rfl (by decide)
    (by decide) (by decide) (by decide) (by decide) (v := "20".toList) (by decide)
  refine ⟨h, ht, hwritten, fun l hl => ?_⟩
  obtain ⟨hequal, hunequal, -⟩ := hsearch l hl
  rw [hfound] at hequal
  rw [hleft] at hunequal
  exact ⟨hequal, hunequal⟩

end Database

end Textbase
