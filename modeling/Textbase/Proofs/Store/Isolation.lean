import Textbase.Proofs.Store.Atomicity
import Textbase.Proofs.Store.History

/-! Tables do not interfere. What the operations on a table come to, and what the table is after
them, depends on these operations alone: commands on other tables and rejected texts may come
between them in any way. -/
namespace Textbase

namespace Steps

variable {α β : Type} {R : Database → Database → Prop}

/-- From databases that are related the steps come to the same, and they leave related databases. -/
def Respects (R : Database → Database → Prop) (m : Steps α) : Prop :=
  ∀ db db', R db db' → (m.exec db).2 = (m.exec db').2 ∧ R (m.exec db).1 (m.exec db').1

theorem respects_pure (a : α) : Respects R (pure a) := fun _ _ h => ⟨rfl, h⟩

theorem respects_throw (e : Error) : Respects R (throw e : Steps α) := fun _ _ h => ⟨rfl, h⟩

theorem respects_read {f : Database → Except Error α} (hf : ∀ db db', R db db' → f db = f db') :
    Respects R (read f) := by
  intro db db' h
  rw [exec_read, exec_read]
  exact ⟨hf db db' h, h⟩

theorem respects_write {f : Database → Database} (hf : ∀ db db', R db db' → R (f db) (f db')) :
    Respects R (write f) := by
  intro db db' h
  rw [exec_write, exec_write]
  exact ⟨rfl, hf db db' h⟩

theorem Respects.bind {m : Steps α} {k : α → Steps β} (hm : m.Respects R)
    (hk : ∀ a, (k a).Respects R) : (m >>= k).Respects R := by
  intro db db' h
  obtain ⟨hresult, hafter⟩ := hm db db' h
  rw [exec_bind, exec_bind]
  rcases hx : m.exec db with ⟨middle, e | a⟩ <;> rcases hy : m.exec db' with ⟨middle', e' | a'⟩ <;>
    rw [hx, hy] at hresult hafter
  · exact ⟨congrArg Except.error (Except.error.inj hresult), hafter⟩
  · cases hresult
  · cases hresult
  · cases hresult
    exact hk a middle middle' hafter

end Steps

namespace Database

/-- The two databases know the same of one table. -/
structure AgreesOn (table : Text) (db db' : Database) : Prop where
  schema : db.catalog.get? table = db'.catalog.get? table
  rows : db.store.get? table = db'.store.get? table

namespace AgreesOn

variable {table : Text} {db db' : Database}

theorem refl (table : Text) (db : Database) : AgreesOn table db db := ⟨rfl, rfl⟩

theorem symm (h : AgreesOn table db db') : AgreesOn table db' db := ⟨h.schema.symm, h.rows.symm⟩

theorem trans {a b c : Database} (h : AgreesOn table a b) (h' : AgreesOn table b c) :
    AgreesOn table a c :=
  ⟨h.schema.trans h'.schema, h.rows.trans h'.rows⟩

theorem of_agreesOff {other : Text} (h : AgreesOff other db db') (hne : table ≠ other) :
    AgreesOn table db db' :=
  ⟨(h.schema table hne).symm, (h.rows table hne).symm⟩

theorem table?_eq (h : AgreesOn table db db') : db.table? table = db'.table? table := by
  rw [table?, table?, h.schema, h.rows]

theorem catalog_schema_eq (h : AgreesOn table db db') :
    db.catalog.schema table = db'.catalog.schema table := by
  rw [Catalog.schema, Catalog.schema, h.schema]

theorem scan_eq (h : AgreesOn table db db') : db.store.scan table = db'.store.scan table := by
  rw [RowStore.scan, RowStore.scan, h.rows]

theorem put_schema (h : AgreesOn table db db') (s : Schema) :
    AgreesOn table { db with catalog := db.catalog.put table s }
      { db' with catalog := db'.catalog.put table s } where
  schema := by rw [Catalog.get?_put, Catalog.get?_put, if_pos rfl, if_pos rfl]
  rows := h.rows

theorem put_rows (h : AgreesOn table db db') (rows : List Row) :
    AgreesOn table { db with store := db.store.put table rows }
      { db' with store := db'.store.put table rows } where
  schema := h.schema
  rows := by rw [Keyed.get?_put, Keyed.get?_put, if_pos rfl, if_pos rfl]

end AgreesOn

theorem respects_agreesOn (c : Command) : c.steps.Respects (AgreesOn c.table) := by
  cases c with
  | create table columns =>
    refine (Steps.respects_write fun _ _ h => h.put_schema _).bind fun _ => ?_
    refine (Steps.respects_write fun _ _ h => h.put_rows _).bind fun _ => ?_
    exact Steps.respects_pure _
  | insert table values =>
    refine (Steps.respects_read fun _ _ h => h.catalog_schema_eq).bind fun schema => ?_
    split
    · exact Steps.respects_throw _
    · refine (Steps.respects_read fun _ _ h => h.scan_eq).bind fun rows => ?_
      refine (Steps.respects_write fun _ _ h => h.put_rows _).bind fun _ => ?_
      exact Steps.respects_pure _
  | select table filter =>
    refine (Steps.respects_read fun _ _ h => h.catalog_schema_eq).bind fun schema => ?_
    refine (Steps.respects_read fun _ _ h => h.scan_eq).bind fun rows => ?_
    exact Steps.respects_pure _

end Database

/-- Whether an operation bears on a table: a reset does, and so does a command that names it. A
rejected text bears on no table. -/
def Operation.concerns (table : Text) : Operation → Bool
  | execute t =>
    match Command.parse t with
    | .ok c => c.table == table
    | .error _ => false
  | reset => true

def Event.operation : Event → Operation
  | executed t _ => .execute t
  | reset => .reset

namespace Database

variable {table : Text}

theorem map_operation_performAll (db : Database) (ops : List Operation) :
    (db.performAll ops).2.map Event.operation = ops := by
  induction ops generalizing db with
  | nil => rfl
  | cons op ops ih =>
    have hop : (db.perform op).2.operation = op := by cases op <;> rfl
    simp [performAll, ih, hop]

theorem AgreesOn.perform {db db' : Database} (h : AgreesOn table db db') {op : Operation}
    (hop : op.concerns table = true) :
    (db.perform op).2 = (db'.perform op).2 ∧
      AgreesOn table (db.perform op).1 (db'.perform op).1 := by
  cases op with
  | reset => exact ⟨rfl, .refl table _⟩
  | execute t =>
    simp only [Operation.concerns] at hop
    split at hop
    · rename_i c hp
      obtain rfl : c.table = table := eq_of_beq hop
      have hc := respects_agreesOn c db db' h
      rw [← c.run_eq_exec_steps, ← c.run_eq_exec_steps] at hc
      simp only [Database.perform, execute_of_parse_ok hp]
      exact ⟨congrArg (Event.executed t) hc.1, hc.2⟩
    · cases hop

theorem agreesOn_perform (db : Database) {op : Operation} (hop : op.concerns table = false) :
    AgreesOn table (db.perform op).1 db := by
  cases op with
  | reset => cases hop
  | execute t =>
    simp only [Operation.concerns] at hop
    split at hop
    · rename_i c hp
      have hne : table ≠ c.table := fun he => by simp [he] at hop
      have hc := within_agreesOff c db
      rw [← c.run_eq_exec_steps] at hc
      simp only [Database.perform, execute_of_parse_ok hp]
      exact (AgreesOn.of_agreesOff hc hne).symm
    · rename_i e hp
      simpa only [Database.perform, execute_of_parse_error hp] using AgreesOn.refl table db

/-- A run shows of a table what the run of those operations shows that bear on it. -/
theorem AgreesOn.performAll {db db' : Database} (h : AgreesOn table db db') (ops : List Operation) :
    let run := db.performAll ops
    let own := db'.performAll (ops.filter (·.concerns table))
    run.2.filter (·.operation.concerns table) = own.2 ∧ AgreesOn table run.1 own.1 := by
  induction ops generalizing db db' with
  | nil => exact ⟨rfl, h⟩
  | cons op ops ih =>
    have hop : (db.perform op).2.operation = op := by cases op <;> rfl
    cases hc : op.concerns table with
    | true =>
      obtain ⟨hevent, hafter⟩ := h.perform hc
      obtain ⟨hevents, hlater⟩ := ih hafter
      simp only [Database.performAll, List.filter_cons, hc, hop, if_true]
      exact ⟨List.cons_eq_cons.2 ⟨hevent, hevents⟩, hlater⟩
    | false =>
      obtain ⟨hevents, hlater⟩ := ih ((agreesOn_perform db hc).trans h)
      simp only [Database.performAll, List.filter_cons, hc, hop, Bool.false_eq_true, if_false]
      exact ⟨hevents, hlater⟩

/-- Two runs whose operations on a table and resets are the same show the same of that table: each
of these operations comes to the same in both, an error, a creation, a row or a selection with all
its rows, and the table is the same at the end. -/
theorem performAll_isolated (table : Text) {xs ys : List Operation}
    (h : xs.filter (·.concerns table) = ys.filter (·.concerns table)) :
    let run := empty.performAll xs
    let other := empty.performAll ys
    run.2.map Event.operation = xs ∧ other.2.map Event.operation = ys ∧
      run.2.filter (·.operation.concerns table) = other.2.filter (·.operation.concerns table) ∧
      run.1.table? table = other.1.table? table ∧ run.1.schema? table = other.1.schema? table := by
  obtain ⟨hxs, hx⟩ := (AgreesOn.refl table empty).performAll xs
  obtain ⟨hys, hy⟩ := (AgreesOn.refl table empty).performAll ys
  rw [h] at hxs hx
  have hends := hx.trans hy.symm
  exact ⟨map_operation_performAll empty xs, map_operation_performAll empty ys, hxs.trans hys.symm,
    hends.table?_eq, hends.schema⟩

/-- The other table is created, filled and created again between the commands on the first one. -/
theorem performAll_isolated_mixed :
    let own : List Operation := [.execute "insert into t values 1".toList, .reset,
      .execute "make table t fields a".toList, .execute "insert into t values 1".toList,
      .execute "select * from t where a = 1".toList]
    let mixed : List Operation := [.execute "make table u fields a, b".toList,
      .execute "insert into t values 1".toList, .reset, .execute "insert into u values t, 2".toList,
      .execute "make table t fields a".toList, .execute "make table u fields t".toList,
      .execute "insert into t".toList, .execute "insert into t values 1".toList,
      .execute "insert into u values 1".toList, .execute "select * from t where a = 1".toList]
    let run := empty.performAll own
    let other := empty.performAll mixed
    own.filter (·.concerns ['t']) = mixed.filter (·.concerns ['t']) ∧
      run.2.filter (·.operation.concerns ['t']) = other.2.filter (·.operation.concerns ['t']) ∧
      run.1.table? ['t'] = other.1.table? ['t'] ∧ run.1.schema? ['t'] = other.1.schema? ['t'] := by
  intro own mixed
  have h : own.filter (·.concerns ['t']) = mixed.filter (·.concerns ['t']) := by decide +kernel
  exact ⟨h, (performAll_isolated ['t'] h).2.2⟩

end Database

end Textbase
