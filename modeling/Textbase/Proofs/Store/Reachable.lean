import Textbase.Proofs.Store.Step
import Textbase.Script
import Mathlib.Data.List.Basic

/-! The databases that can come about, and what holds of all of them: the order of the catalog, its
schemas and the store know the same tables, tables and columns are named as the reader of commands
lets them be, and every row is as wide as its table. -/
namespace Textbase

namespace Database

inductive Reachable : Database → Prop
  | empty : Reachable empty
  | execute {db : Database} (h : Reachable db) (t : Text) : Reachable (db.execute t).1
  | respond {db : Database} (h : Reachable db) (t : Text) : Reachable (db.respond t).1
  | runCommands {db : Database} (h : Reachable db) (ts : List Text) :
      Reachable (db.runCommands ts).1
  | runScript {db : Database} (h : Reachable db) (t : Text) : Reachable (db.runScript t).1
  | reset {db : Database} (h : Reachable db) : Reachable db.reset

structure WellFormed (db : Database) : Prop where
  nodup_names : db.catalog.names.Nodup
  mem_schemas_iff : ∀ n, n ∈ db.catalog.schemas.names ↔ n ∈ db.catalog.names
  mem_store_iff : ∀ n, n ∈ db.store.names ↔ n ∈ db.catalog.names
  isName : ∀ n ∈ db.catalog.names, n.IsName
  columns : ∀ n s, db.catalog.get? n = some s → s.columns ≠ [] ∧ ∀ c ∈ s.columns, c ≠ [] ∧ c.Trimmed
  rows : ∀ n s rows, db.catalog.get? n = some s → db.store.get? n = some rows →
    ∀ row ∈ rows, row.length = s.width

namespace WellFormed

variable {db : Database}

theorem contains_iff (h : db.WellFormed) {n : Text} :
    db.catalog.contains n = true ↔ n ∈ db.catalog.names := by
  rw [Catalog.contains, Keyed.contains_iff, h.mem_schemas_iff]

theorem names_create (h : db.WellFormed) (table : Text) (columns : List Text) :
    (db.create table columns).catalog.names =
      if table ∈ db.catalog.names then db.catalog.names else db.catalog.names ++ [table] := by
  by_cases hn : table ∈ db.catalog.names
  · simp [Database.create, Catalog.names_put_of_contains (h.contains_iff.2 hn), hn]
  · have hc : db.catalog.contains table = false := by
      rw [Bool.eq_false_iff]
      exact fun hc => hn (h.contains_iff.1 hc)
    simp [Database.create, Catalog.names_put_of_not_contains hc, hn]

theorem mem_names_create (h : db.WellFormed) {table n : Text} {columns : List Text} :
    n ∈ (db.create table columns).catalog.names ↔ n = table ∨ n ∈ db.catalog.names := by
  rw [h.names_create]
  split
  · rename_i hm
    exact ⟨.inr, fun hc => hc.elim (fun he => he ▸ hm) id⟩
  · rw [List.mem_append, List.mem_singleton, or_comm]

theorem isSome_table?_iff (h : db.WellFormed) {n : Text} :
    (db.table? n).isSome = true ↔ n ∈ db.tableNames := by
  have hs : (db.catalog.get? n).isSome = true ↔ n ∈ db.catalog.names := by
    rw [Catalog.get?, Keyed.isSome_get?_iff, h.mem_schemas_iff]
  have hr : (db.store.get? n).isSome = true ↔ n ∈ db.catalog.names := by
    rw [Keyed.isSome_get?_iff, h.mem_store_iff]
  rw [tableNames, ← hs]
  cases hg : db.catalog.get? n with
  | none => simp [table?, hg]
  | some s =>
    have hn : n ∈ db.catalog.names := hs.1 (by simp [hg])
    obtain ⟨rows, hrows⟩ := Option.isSome_iff_exists.1 (hr.2 hn)
    simp [table?, hg, hrows]

theorem map_fst_schemas (h : db.WellFormed) : db.schemas.map (·.1) = db.tableNames := by
  have hs : ∀ n ∈ db.catalog.names, ((db.catalog.get? n).map (n, ·)).map (·.1) = some n := by
    intro n hn
    obtain ⟨s, hg⟩ := Option.isSome_iff_exists.1
      (Keyed.isSome_get?_iff.2 ((h.mem_schemas_iff n).2 hn))
    simp [Catalog.get?, hg]
  calc db.schemas.map (·.1)
    _ = db.catalog.names.filterMap fun n => ((db.catalog.get? n).map (n, ·)).map (·.1) := by
      rw [schemas, Catalog.entries, List.map_filterMap]
    _ = db.catalog.names.filterMap some := List.filterMap_congr hs
    _ = db.tableNames := List.filterMap_some

theorem lookup_schemas (h : db.WellFormed) (table : Text) :
    db.schemas.lookup table = db.schema? table := by
  have hlisted : ∀ names : List Text,
      (names.filterMap fun n => (db.catalog.get? n).map (n, ·)).lookup table =
        if table ∈ names then db.catalog.get? table else none := by
    intro names
    induction names with
    | nil => rfl
    | cons n names ih =>
      cases hg : db.catalog.get? n with
      | none =>
        rw [List.filterMap_cons_none (by rw [hg]; rfl), ih]
        by_cases he : table = n <;> simp [he, hg]
      | some s =>
        rw [List.filterMap_cons_some (by rw [hg]; rfl), Keyed.lookup_cons_eq, ih]
        by_cases he : table = n <;> simp [he, hg]
  rw [schemas, Catalog.entries, hlisted, schema?]
  split
  · rfl
  · rename_i hn
    have hs : (db.catalog.get? table).isSome ≠ true := by
      rwa [Catalog.get?, ne_eq, Keyed.isSome_get?_iff, h.mem_schemas_iff]
    exact (Option.not_isSome_iff_eq_none.1 hs).symm

theorem empty : WellFormed .empty where
  nodup_names := .nil
  mem_schemas_iff := fun _ => .rfl
  mem_store_iff := fun _ => .rfl
  isName := by simp [Database.empty]
  columns := by simp [Database.empty]
  rows := by simp [Database.empty]

theorem create (h : db.WellFormed) {table : Text} {columns : List Text}
    (hc : (Command.create table columns).WellFormed) : (db.create table columns).WellFormed where
  nodup_names := by
    rw [h.names_create]
    split
    · exact h.nodup_names
    · rename_i hm
      exact List.nodup_append.2 ⟨h.nodup_names, by simp, by rintro x hx y hy rfl; simp_all⟩
  mem_schemas_iff := fun n => by
    rw [h.mem_names_create, ← h.mem_schemas_iff]
    exact Keyed.mem_names_put
  mem_store_iff := fun n => by
    rw [h.mem_names_create, ← h.mem_store_iff]
    exact Keyed.mem_names_put
  isName := by
    intro n hn
    rcases h.mem_names_create.1 hn with rfl | hn
    · exact hc.1
    · exact h.isName n hn
  columns := by
    intro n s hs
    rw [Database.create, Catalog.get?_put] at hs
    split at hs
    · cases hs
      exact hc.2
    · exact h.columns n s hs
  rows := by
    intro n s rows hs hr
    rw [Database.create, Catalog.get?_put] at hs
    rw [Database.create, Keyed.get?_put] at hr
    split at hs
    · rename_i he
      rw [if_pos he] at hr
      cases hr
      simp
    · rename_i he
      rw [if_neg he] at hr
      exact h.rows n s rows hs hr

theorem insert (h : db.WellFormed) {table : Text} {row : Row} {after : Database}
    (hi : db.insert table row = .ok after) : after.WellFormed := by
  obtain ⟨s, rows, hs, hr, hw, rfl⟩ := insert_eq_ok_iff.1 hi
  have hm : table ∈ db.store.names := Keyed.isSome_get?_iff.1 (by simp [hr])
  refine ⟨h.nodup_names, h.mem_schemas_iff, fun n => ?_, h.isName, h.columns, ?_⟩
  · rw [Keyed.names_put, if_pos hm, h.mem_store_iff]
  · intro n s' rows' hs' hr' row' hrow'
    rw [Keyed.get?_put] at hr'
    split at hr'
    · rename_i he
      subst he
      have hse : s = s' := Option.some.inj (hs.symm.trans hs')
      cases hr'
      rcases List.mem_append.1 hrow' with hrow' | hrow'
      · exact h.rows n s' rows hs' hr row' hrow'
      · rw [List.mem_singleton.1 hrow', hw, hse]
    · exact h.rows n s' rows' hs' hr' row' hrow'

theorem execute (h : db.WellFormed) (t : Text) : (db.execute t).1.WellFormed := by
  have hs := db.executed t
  generalize db.execute t = step at hs ⊢
  cases hs with
  | failed e => exact h
  | created hp => exact h.create (Command.wellFormed_of_parse hp)
  | inserted _ hi => exact h.insert hi
  | selected => exact h

theorem runFrom (h : db.WellFormed) (index : Nat) (ts : List Text) :
    (db.runFrom index ts).1.WellFormed := by
  induction ts generalizing db index with
  | nil => exact h
  | cons t ts ih => exact ih (h.execute (Text.trim t)) (index + 1)

end WellFormed

theorem Reachable.wellFormed {db : Database} (h : db.Reachable) : db.WellFormed := by
  induction h with
  | empty => exact .empty
  | execute _ t ih => exact ih.execute t
  | respond _ t ih => exact ih.execute t
  | runCommands _ ts ih => exact ih.runFrom 1 ts
  | runScript _ t ih => exact ih.runFrom 1 (Script.commands t)
  | reset => exact .empty

theorem Reachable.isName_of_table? {db : Database} (h : db.Reachable) {table : Text} {d : Tabular}
    (ht : db.table? table = some d) : table.IsName := by
  refine h.wellFormed.isName table (h.wellFormed.isSome_table?_iff.1 ?_)
  rw [ht]
  rfl

theorem Reachable.columns_ne_nil {db : Database} (h : db.Reachable) {table : Text} {d : Tabular}
    (ht : db.table? table = some d) : d.columns ≠ [] :=
  (h.wellFormed.columns table _ (table?_eq_some_iff.1 ht).1).1

/-- Order, schemas and store agree on the tables, which are well-formed with rows as wide as their
columns, and the listings of the database show exactly these tables. -/
theorem Reachable.tables_agree {db : Database} (h : db.Reachable) :
    db.WellFormed ∧ db.schemas.map (·.1) = db.tableNames ∧
      ∀ n, (db.table? n).isSome = true ↔ n ∈ db.tableNames :=
  ⟨h.wellFormed, h.wellFormed.map_fst_schemas, fun _ => h.wellFormed.isSome_table?_iff⟩

/-- A table that is created again with another width has lost its rows. -/
theorem tables_agree_recreated :
    let db := (empty.runScript
      "make table t fields a, b\ninsert into t values 1, 2\nmake table t fields c".toList).1
    db.Reachable ∧ db.WellFormed ∧ db.schemas.map (·.1) = db.tableNames ∧
      ∀ n, (db.table? n).isSome = true ↔ n ∈ db.tableNames :=
  ⟨.runScript .empty _, Reachable.tables_agree (.runScript .empty _)⟩

end Database

end Textbase
