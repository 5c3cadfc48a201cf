import Textbase.Proofs.Command.Faults
import Textbase.Proofs.Store.Atomicity
import Textbase.Proofs.Store.Reachable

/-! When a command fails, and with which error. There are four causes: the text has no verb, its
form is at fault, the table is not there, or the row has another width than the table. The first two
are in the text alone. Each error is returned just for its own cause, and without a cause the
command succeeds. -/
namespace Textbase

namespace Database

variable {db : Database}

/-- The command needs a table that is not there. -/
def Misses (db : Database) (c : Command) : Prop := c.verb ≠ .create ∧ c.table ∉ db.tableNames

/-- The command adds a row to a table with another number of columns: to one with `expected` a row
of `got` values. -/
inductive Mismatches (db : Database) : Command → Nat → Nat → Prop
  | insert {table : Text} {values : Row} {s : Schema} (hn : table ∈ db.tableNames)
      (hs : db.schema? table = some s) (hw : values.length ≠ s.width) :
      Mismatches db (.insert table values) s.width values.length

namespace WellFormed

theorem schema_of_not_mem (h : db.WellFormed) {table : Text} (hn : table ∉ db.tableNames) :
    db.catalog.schema table = .error (.tableNotFound table) := by
  have hs : (db.catalog.get? table).isSome ≠ true := by
    rwa [Catalog.get?, ne_eq, Keyed.isSome_get?_iff, h.mem_schemas_iff]
  rw [Catalog.schema, Option.not_isSome_iff_eq_none.1 hs]

theorem exists_lookups (h : db.WellFormed) {table : Text} (hn : table ∈ db.tableNames) :
    ∃ s rows, db.schema? table = some s ∧ db.catalog.schema table = .ok s ∧
      db.store.scan table = .ok rows := by
  obtain ⟨d, hd⟩ := Option.isSome_iff_exists.1 (h.isSome_table?_iff.2 hn)
  obtain ⟨hs, hr⟩ := table?_eq_some_iff.1 hd
  exact ⟨⟨d.columns⟩, d.rows, hs, by rw [Catalog.schema, hs], by rw [RowStore.scan, hr]⟩

theorem exists_scan_of_schema (h : db.WellFormed) {table : Text} {s : Schema}
    (hs : db.catalog.schema table = .ok s) :
    ∃ rows, db.store.scan table = .ok rows ∧
      ∀ row, db.store.append table row = .ok (db.store.put table (rows ++ [row])) := by
  have hn : table ∈ db.tableNames := by
    by_contra hn
    rw [h.schema_of_not_mem hn] at hs
    cases hs
  obtain ⟨_, rows, -, -, hr⟩ := h.exists_lookups hn
  refine ⟨rows, hr, fun row => ?_⟩
  rw [RowStore.append, hr]
  rfl

open Command Steps in
theorem run_of_misses (h : db.WellFormed) {c : Command} (hm : db.Misses c) :
    (db.run c).2 = .error (.tableNotFound c.table) := by
  obtain ⟨hv, hn⟩ := hm
  have hc : db.catalog.schema c.table = .error (.tableNotFound c.table) := h.schema_of_not_mem hn
  rw [run_eq_exec_steps]
  cases c with
  | create table columns => exact absurd rfl hv
  | insert table values | select table filter =>
    simp only [Command.table] at hc
    simp only [steps, exec_bind, exec_read, hc, Command.table]

open Command Steps in
theorem run_of_mismatches (h : db.WellFormed) {c : Command} {expected got : Nat}
    (hm : db.Mismatches c expected got) :
    (db.run c).2 = .error (.arityMismatch c.table expected got) := by
  rw [run_eq_exec_steps]
  cases hm with
  | insert hn hs hw =>
    obtain ⟨s, _, hs', hc, -⟩ := h.exists_lookups hn
    obtain rfl := Option.some.inj (hs.symm.trans hs')
    simp only [steps, exec_bind, exec_read, hc, hw, ne_eq, not_false_iff, if_true, exec_throw,
      Command.table]

open Command Steps in
theorem exists_run_eq_ok (h : db.WellFormed) {c : Command} (hm : ¬db.Misses c)
    (hw : ∀ expected got, ¬db.Mismatches c expected got) :
    ∃ outcome, (db.run c).2 = .ok outcome := by
  have hlookups : c.verb ≠ .create → ∃ s rows, db.schema? c.table = some s ∧
      db.catalog.schema c.table = .ok s ∧ db.store.scan c.table = .ok rows := fun hv =>
    h.exists_lookups (by_contra fun hn => hm ⟨hv, hn⟩)
  rw [run_eq_exec_steps]
  cases c with
  | create table columns => exact ⟨_, rfl⟩
  | insert table values =>
    have hv : (Command.insert table values).verb ≠ .create := by simp [Command.verb]
    obtain ⟨s, rows, hs, hc, hr⟩ := hlookups hv
    have hn : table ∈ db.tableNames := by_contra fun hn => hm ⟨hv, hn⟩
    have hwidth : values.length = s.width := by_contra fun hl => hw _ _ (.insert hn hs hl)
    refine ⟨.inserted table, ?_⟩
    simp only [Command.table] at hc hr
    simp only [steps, exec_bind, exec_read, hc, hwidth, ne_eq, not_true, if_false, hr, exec_write,
      exec_pure]
  | select table filter =>
    obtain ⟨s, rows, hs, hc, hr⟩ := hlookups (by simp [Command.verb])
    simp only [Command.table] at hc hr
    simp only [steps, exec_bind, exec_read, hc, hr, exec_pure]
    exact ⟨_, rfl⟩

/-- A command that was read fails for want of its table or for the width of its row. -/
theorem run_eq_error_iff (h : db.WellFormed) {c : Command} {e : Error} :
    (db.run c).2 = .error e ↔
      (db.Misses c ∧ e = .tableNotFound c.table) ∨
        ∃ expected got, db.Mismatches c expected got ∧
          e = .arityMismatch c.table expected got := by
  constructor
  · intro he
    by_cases hm : db.Misses c
    · rw [h.run_of_misses hm] at he
      cases he
      exact .inl ⟨hm, rfl⟩
    · by_cases hw : ∃ expected got, db.Mismatches c expected got
      · obtain ⟨expected, got, hw⟩ := hw
        rw [h.run_of_mismatches hw] at he
        cases he
        exact .inr ⟨expected, got, hw, rfl⟩
      · obtain ⟨outcome, ho⟩ := h.exists_run_eq_ok hm (by simpa using hw)
        rw [ho] at he
        cases he
  · rintro (⟨hm, rfl⟩ | ⟨expected, got, hm, rfl⟩)
    · exact h.run_of_misses hm
    · exact h.run_of_mismatches hm

end WellFormed

/-- The error has its cause: no verb, a form at fault, no table, or a row of another width. -/
inductive Due (db : Database) (t : Text) : Error → Prop
  | verb (hv : Verb.of? (Text.trim t) = none) : Due db t (.unrecognized ((Text.trim t).take 50))
  | form {v : Verb} {e : Error} (hv : Verb.of? (Text.trim t) = some v)
      (hp : Command.parse t = .error e) (hb : e.Blames v) : Due db t e
  | table {c : Command} (hp : Command.parse t = .ok c) (hm : db.Misses c) :
      Due db t (.tableNotFound c.table)
  | width {c : Command} {expected got : Nat} (hp : Command.parse t = .ok c)
      (hm : db.Mismatches c expected got) : Due db t (.arityMismatch c.table expected got)

theorem WellFormed.execute_eq_error_iff (h : db.WellFormed) {t : Text} {e : Error} :
    (db.execute t).2 = .error e ↔ db.Due t e := by
  constructor
  · intro he
    cases hp : Command.parse t with
    | error e' =>
      rw [execute_of_parse_error hp] at he
      cases he
      rcases Command.parse_eq_error hp with ⟨hv, rfl⟩ | ⟨v, hv, hb⟩
      · exact .verb hv
      · exact .form hv hp hb
    | ok c =>
      rw [execute_of_parse_ok hp, h.run_eq_error_iff] at he
      rcases he with ⟨hm, rfl⟩ | ⟨expected, got, hm, rfl⟩
      · exact .table hp hm
      · exact .width hp hm
  · intro hd
    cases hd with
    | verb hv => rw [execute_of_parse_error (Command.parse_of_no_verb hv)]
    | form hv hp hb => rw [execute_of_parse_error hp]
    | table hp hm => rw [execute_of_parse_ok hp, h.run_of_misses hm]
    | width hp hm => rw [execute_of_parse_ok hp, h.run_of_mismatches hm]

theorem WellFormed.execute_eq_ok_iff (h : db.WellFormed) {t : Text} :
    (∃ outcome, (db.execute t).2 = .ok outcome) ↔
      ∃ c, Command.parse t = .ok c ∧ ¬db.Misses c ∧
        ∀ expected got, ¬db.Mismatches c expected got := by
  constructor
  · rintro ⟨outcome, ho⟩
    have hnot : ∀ e, ¬db.Due t e := by
      intro e hd
      rw [h.execute_eq_error_iff.2 hd] at ho
      cases ho
    cases hp : Command.parse t with
    | error e =>
      rw [execute_of_parse_error hp] at ho
      cases ho
    | ok c =>
      exact ⟨c, rfl, fun hm => hnot _ (.table hp hm), fun _ _ hm => hnot _ (.width hp hm)⟩
  · rintro ⟨c, hp, hm, hw⟩
    rw [execute_of_parse_ok hp]
    exact h.exists_run_eq_ok hm hw

/-- A command fails as unrecognized just when it has no verb, and then tells its first fifty
characters; as malformed just when it has a verb and cannot be read, and then in every database;
for want of a table or for the width of a row just when it was read and the table is not there or
has another number of columns. Else it succeeds, since the store has the rows of every table that
the catalog knows. -/
theorem Reachable.execute_failures (h : db.Reachable) (t : Text) :
    let result := (db.execute t).2
    (∀ head, result = .error (.unrecognized head) ↔
      Verb.of? (Text.trim t) = none ∧ head = (Text.trim t).take 50) ∧
    ((∃ e, result = .error e ∧ e.kind = "malformed_command".toList) ↔
      (Verb.of? (Text.trim t)).isSome = true ∧ ∃ e, Command.parse t = .error e) ∧
    (∀ v e, Verb.of? (Text.trim t) = some v → Command.parse t = .error e →
      e.Blames v ∧ ∀ other : Database, other.execute t = (other, .error e)) ∧
    (∀ table, result = .error (.tableNotFound table) ↔
      ∃ c, Command.parse t = .ok c ∧ db.Misses c ∧ c.table = table) ∧
    (∀ table expected got, result = .error (.arityMismatch table expected got) ↔
      ∃ c, Command.parse t = .ok c ∧ db.Mismatches c expected got ∧ c.table = table) ∧
    ((∃ outcome, result = .ok outcome) ↔
      ∃ c, Command.parse t = .ok c ∧ ¬db.Misses c ∧
        ∀ expected got, ¬db.Mismatches c expected got) ∧
    ∀ table s, db.catalog.schema table = .ok s →
      ∃ rows, db.store.scan table = .ok rows ∧
        ∀ row, db.store.append table row = .ok (db.store.put table (rows ++ [row])) := by
  intro result
  have hw := h.wellFormed
  have herror : ∀ e, result = .error e ↔ db.Due t e := fun e => hw.execute_eq_error_iff
  simp only [herror]
  refine ⟨fun head => ⟨?_, ?_⟩, ⟨?_, ?_⟩, ?_, fun table => ⟨?_, ?_⟩,
    fun table expected got => ⟨?_, ?_⟩, hw.execute_eq_ok_iff,
    fun table s => hw.exists_scan_of_schema⟩
  · intro hd
    cases hd with
    | verb hv => exact ⟨hv, rfl⟩
    | form _ _ hb => cases hb
  · rintro ⟨hv, rfl⟩
    exact .verb hv
  · rintro ⟨e, hd, hk⟩
    obtain ⟨v, hb⟩ := Error.kind_eq_malformed_iff.1 hk
    cases hd with
    | form hv hp _ => exact ⟨by rw [hv]; rfl, e, hp⟩
    | verb | table | width => cases hb
  · rintro ⟨hv, e, hp⟩
    obtain ⟨v, hv⟩ := Option.isSome_iff_exists.1 hv
    have hb := Command.blamesOnly_parse hv e hp
    exact ⟨e, .form hv hp hb, Error.kind_eq_malformed_iff.2 ⟨v, hb⟩⟩
  · intro v e hv hp
    exact ⟨Command.blamesOnly_parse hv e hp, fun other => execute_of_parse_error hp other⟩
  · intro hd
    cases hd with
    | table hp hm => exact ⟨_, hp, hm, rfl⟩
    | form _ _ hb => cases hb
  · rintro ⟨c, hp, hm, rfl⟩
    exact .table hp hm
  · intro hd
    cases hd with
    | width hp hm => exact ⟨_, hp, hm, rfl⟩
    | form _ _ hb => cases hb
  · rintro ⟨c, hp, hm, rfl⟩
    exact .width hp hm

/-- A table that a reset took away, and one that was created again with fewer columns. -/
theorem execute_failures_recreated :
    let before := (empty.runScript "make table u fields a".toList).1.reset
    let db := (before.runScript "make table t fields a, b\nmake table t fields c".toList).1
    db.Reachable ∧
      (db.execute "drop table t".toList).2 = .error (.unrecognized "drop table t".toList) ∧
      (∃ e, (db.execute "insert into u values".toList).2 = .error e ∧
        e.kind = "malformed_command".toList) ∧
      (db.execute "select * from u".toList).2 = .error (.tableNotFound ['u']) ∧
      (db.execute "insert into t values 1, 2".toList).2 = .error (.arityMismatch ['t'] 1 2) ∧
      (∃ outcome, (db.execute "insert into t values 1".toList).2 = .ok outcome) := by
  intro before db
  have h : db.Reachable := .runScript (.reset (.runScript .empty _)) _
  have hn : ['t'] ∈ db.tableNames := by decide +kernel
  have hs : db.schema? ['t'] = some ⟨[['c']]⟩ := by decide +kernel
  obtain ⟨hverb, -⟩ := Reachable.execute_failures h "drop table t".toList
  obtain ⟨-, hform, -⟩ := Reachable.execute_failures h "insert into u values".toList
  obtain ⟨-, -, -, htable, -⟩ := Reachable.execute_failures h "select * from u".toList
  obtain ⟨-, -, -, -, hwidth, -⟩ := Reachable.execute_failures h "insert into t values 1, 2".toList
  obtain ⟨-, -, -, -, -, hok, -⟩ := Reachable.execute_failures h "insert into t values 1".toList
  refine ⟨h, (hverb _).2 ⟨by decide +kernel, by decide +kernel⟩,
    hform.2 ⟨by decide +kernel, .malformed .insert .usage, by decide +kernel⟩,
    (htable _).2 ⟨.select ['u'] none, by decide +kernel, ⟨nofun, by decide +kernel⟩, rfl⟩,
    (hwidth _ _ _).2 ⟨.insert ['t'] [['1'], ['2']], by decide +kernel,
      .insert hn hs (by decide), rfl⟩,
    hok.2 ⟨.insert ['t'] [['1']], by decide +kernel, fun hm => hm.2 hn, ?_⟩⟩
  rintro _ _ ⟨-, hs', hw⟩
  cases hs.symm.trans hs'
  exact hw rfl

end Database

end Textbase
