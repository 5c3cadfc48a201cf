import Textbase.Proofs.Command.Listing
import Textbase.Proofs.Store.Reachable

/-! Any row can be added to a table: every value that leaves one of the two marks unused can be
written as a literal, and it is stored as it is. -/
namespace Textbase.Database

theorem run_insert_of_table? {db : Database} {table : Text} {d : Tabular} {row : Row}
    (ht : db.table? table = some d) (hw : row.length = d.columns.length) :
    db.run (.insert table row) =
      (⟨db.catalog, db.store.put table (d.rows ++ [row])⟩, .ok (.inserted table)) := by
  obtain ⟨hs, hr⟩ := table?_eq_some_iff.1 ht
  have hi : db.insert table row = .ok ⟨db.catalog, db.store.put table (d.rows ++ [row])⟩ :=
    insert_eq_ok_iff.2 ⟨_, _, hs, hr, hw, rfl⟩
  simp only [run, hi]

/-- Values as many as a table has columns, each without one of the two marks, can be written as
literals, and however they are, inserting them adds exactly that row at the end of the table. -/
theorem Reachable.execute_insertion {db : Database} (h : db.Reachable) {table : Text} {d : Tabular}
    (ht : db.table? table = some d) {values : Row} (hw : values.length = d.columns.length)
    (hv : ∀ v ∈ values, '"' ∉ v ∨ '\'' ∉ v) :
    (∃ ls : List Literal, ls.map Literal.value = values) ∧
    ∀ ls : List Literal, ls.map Literal.value = values →
      ∃ after, db.execute (Command.insertion table (Literal.joined ls)) =
          (after, .ok (.inserted table)) ∧
        after.table? table = some ⟨d.columns, d.rows ++ [values]⟩ ∧
        after.catalog = db.catalog ∧
        ∀ other, other ≠ table → after.store.get? other = db.store.get? other := by
  refine ⟨Literal.exists_map_value_eq_iff.2 hv, ?_⟩
  rintro ls rfl
  obtain ⟨l, ls, rfl⟩ : ∃ l rest, ls = l :: rest := by
    refine List.exists_cons_of_ne_nil ?_
    rintro rfl
    exact h.columns_ne_nil ht (List.length_eq_zero_iff.1 hw.symm)
  have hp := Command.parse_insertion (h.isName_of_table? ht)
    (Literal.lists_joined (List.cons_ne_nil l ls)) ⟨l.mark, l.mark_mem_joined ls, l.isSpace_mark⟩
  have hr : ((l :: ls).map Literal.text).map Value.unquote = (l :: ls).map Literal.value := by
    rw [List.map_map]
    exact List.map_congr_left fun m _ => m.unquote_text
  rw [hr] at hp
  refine ⟨_, (execute_of_parse_ok hp db).trans (run_insert_of_table? ht hw), ?_, rfl, ?_⟩
  · rw [table?_eq_some_iff, Keyed.get?_put, if_pos rfl]
    exact ⟨(table?_eq_some_iff.1 ht).1, rfl⟩
  · intro other ho
    rw [Keyed.get?_put, if_neg ho]

/-- Commas, a line feed, marks of the other kind, words of commands and spaces at the ends are all
kept. -/
theorem execute_insertion_marks :
    let db := (empty.runScript "make table t fields a, b, c, d".toList).1
    let values : Row := ["it's, or".toList, " \"\n".toList, "values *=".toList, []]
    db.Reachable ∧ db.table? ['t'] = some ⟨[['a'], ['b'], ['c'], ['d']], []⟩ ∧
      (∃ ls : List Literal, ls.map Literal.value = values) ∧
      ∀ ls : List Literal, ls.map Literal.value = values →
        ∃ after, db.execute (Command.insertion ['t'] (Literal.joined ls)) =
            (after, .ok (.inserted ['t'])) ∧
          after.table? ['t'] = some ⟨[['a'], ['b'], ['c'], ['d']], [values]⟩ ∧
          after.catalog = db.catalog ∧
          ∀ other, other ≠ ['t'] → after.store.get? other = db.store.get? other := by
  intro db values
  have h : db.Reachable := .runScript .empty _
  have ht : db.table? ['t'] = some ⟨[['a'], ['b'], ['c'], ['d']], []⟩ := by decide +kernel
  have hv : ∀ v ∈ values, '"' ∉ v ∨ '\'' ∉ v := by decide
  exact ⟨h, ht, Reachable.execute_insertion h ht rfl hv⟩

end Textbase.Database
