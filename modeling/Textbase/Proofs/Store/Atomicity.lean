import Textbase.Store.Database
import Mathlib.Data.List.Basic

/-! A command that fails leaves no trace, and one that succeeds touches no table but its own. A
command is taken apart into its reads and writes, where a write would stay made if a later step
failed: every step that can fail comes before the first write. Nothing is assumed of the database,
so its catalog and its store may disagree. -/
namespace Textbase

/-- Reads and writes one after another. What was written stays written when a later step fails. -/
abbrev Steps := ExceptT Error (StateM Database)

namespace Steps

variable {α β : Type}

def exec (m : Steps α) (db : Database) : Database × Except Error α := (m.run.run db).swap

def read (f : Database → Except Error α) : Steps α := do
  liftExcept (f (← get))

def write (f : Database → Database) : Steps Unit := modify f

@[simp] theorem exec_pure (a : α) (db : Database) : exec (pure a) db = (db, .ok a) := rfl
@[simp] theorem exec_throw (e : Error) (db : Database) :
    exec (throw e : Steps α) db = (db, .error e) := rfl
@[simp] theorem exec_write (f : Database → Database) (db : Database) :
    exec (write f) db = (f db, .ok ()) := rfl

theorem exec_bind (m : Steps α) (k : α → Steps β) (db : Database) :
    exec (m >>= k) db = match exec m db with
      | (after, .ok a) => exec (k a) after
      | (after, .error e) => (after, .error e) := by
  rcases h : m.run.run db with ⟨result, after⟩
  have hm : exec m db = (after, result) := by
    rw [exec, h]
    rfl
  rw [hm, exec, ExceptT.run_bind, StateT.run_bind, h]
  cases result <;> rfl

@[simp] theorem exec_read (f : Database → Except Error α) (db : Database) :
    exec (read f) db = (db, f db) := by
  have hget : exec (get : Steps Database) db = (db, .ok db) := rfl
  rw [read, exec_bind, hget]
  cases h : f db <;> simp [h, liftExcept]

/-- However the steps end, the database afterwards stands in the relation to the one before. -/
def Within (R : Database → Database → Prop) (m : Steps α) : Prop := ∀ db, R db (m.exec db).1

def Atomic (m : Steps α) : Prop := ∀ db after e, m.exec db = (after, .error e) → after = db

def Succeeds (m : Steps α) : Prop := ∀ db, ∃ after a, m.exec db = (after, .ok a)

section

variable {R : Database → Database → Prop} (refl : ∀ db, R db db)
include refl

theorem within_pure (a : α) : Within R (pure a) := refl

theorem within_throw (e : Error) : Within R (throw e : Steps α) := refl

theorem within_read (f : Database → Except Error α) : Within R (read f) := by
  intro db
  rw [exec_read]
  exact refl db

end

theorem Within.bind {R : Database → Database → Prop} (trans : ∀ a b c, R a b → R b c → R a c)
    {m : Steps α} {k : α → Steps β} (hm : m.Within R) (hk : ∀ a, (k a).Within R) :
    (m >>= k).Within R := by
  intro db
  have hdb := hm db
  rw [exec_bind]
  rcases hr : m.exec db with ⟨middle, e | a⟩
  · rw [hr] at hdb
    exact hdb
  · rw [hr] at hdb
    exact trans _ _ _ hdb (hk a middle)

theorem Within.atomic {m : Steps α} (h : m.Within Eq) : m.Atomic := by
  intro db after e he
  have hdb := h db
  rw [he] at hdb
  exact hdb.symm

theorem Succeeds.atomic {m : Steps α} (h : m.Succeeds) : m.Atomic := by
  intro db after e he
  obtain ⟨after', a, ha⟩ := h db
  rw [ha] at he
  cases he

/-- Reads may come before steps that leave no trace when they fail. -/
theorem Within.atomic_bind {m : Steps α} {k : α → Steps β} (hm : m.Within Eq)
    (hk : ∀ a, (k a).Atomic) : (m >>= k).Atomic := by
  intro db after e he
  have hdb : db = (m.exec db).1 := hm db
  rw [exec_bind] at he
  rcases hr : m.exec db with ⟨middle, e' | a⟩
  · rw [hr] at he hdb
    cases he
    exact hdb.symm
  · rw [hr] at he hdb
    rw [hk a middle after e he]
    exact hdb.symm

theorem succeeds_pure (a : α) : Succeeds (pure a) := fun db => ⟨db, a, exec_pure a db⟩
theorem succeeds_write (f : Database → Database) : Succeeds (write f) :=
  fun db => ⟨f db, (), exec_write f db⟩

theorem Succeeds.bind {m : Steps α} {k : α → Steps β} (hm : m.Succeeds)
    (hk : ∀ a, (k a).Succeeds) : (m >>= k).Succeeds := by
  intro db
  obtain ⟨middle, a, hr⟩ := hm db
  obtain ⟨after, b, hb⟩ := hk a middle
  refine ⟨after, b, ?_⟩
  rw [exec_bind, hr]
  exact hb

end Steps

namespace Command

open Steps

/-- A command in the order of its reads and writes. -/
def steps : Command → Steps Outcome
  | create table columns => do
    write fun db => { db with catalog := db.catalog.put table ⟨columns⟩ }
    write fun db => { db with store := db.store.put table [] }
    return .created table columns
  | insert table values => do
    let schema ← read fun db => db.catalog.schema table
    if values.length ≠ schema.width then
      throw (.arityMismatch table schema.width values.length)
    else do
      let rows ← read fun db => db.store.scan table
      write fun db => { db with store := db.store.put table (rows ++ [values]) }
      return .inserted table
  | select table filter => do
    let schema ← read fun db => db.catalog.schema table
    let rows ← read fun db => db.store.scan table
    return .selected table schema.columns
      (match filter with
        | none => rows
        | some f => rows.filter fun row => f.holds schema row)

theorem run_eq_exec_steps (db : Database) (c : Command) : db.run c = c.steps.exec db := by
  cases c with
  | create table columns => rfl
  | insert table values =>
    simp only [Database.run, steps, exec_bind, exec_read]
    cases hs : db.catalog.schema table with
    | error e =>
      have hi : db.insert table values = .error e := by rw [Database.insert, hs]; rfl
      rw [hi]
    | ok schema =>
      by_cases hw : values.length = schema.width
      · have hi : db.insert table values = (db.store.scan table).map fun rows =>
            { db with store := db.store.put table (rows ++ [values]) } := by
          cases hr : db.store.scan table <;>
            simp [Database.insert, RowStore.append, hs, hw, hr, bind, Except.bind, Except.map]
        simp only [hi, hw, ne_eq, not_true, if_false, exec_bind, exec_read]
        cases db.store.scan table <;> rfl
      · have hi : db.insert table values =
            .error (.arityMismatch table schema.width values.length) := by
          simp [Database.insert, hs, hw, bind, Except.bind]
        rw [hi]
        simp only [hw, ne_eq, not_false_iff, if_true, exec_throw]
  | select table filter =>
    simp only [Database.run, steps, exec_bind, exec_read]
    cases hs : db.catalog.schema table with
    | error e =>
      have hd : db.select table filter = .error e := by rw [Database.select, hs]; rfl
      rw [hd]
    | ok schema =>
      have hd : db.select table filter = (db.store.scan table).map fun rows =>
          ⟨schema.columns, match filter with
            | none => rows
            | some f => rows.filter fun row => f.holds schema row⟩ := by
        cases hr : db.store.scan table <;> cases filter <;>
          simp [Database.select, hs, hr, bind, Except.bind, Except.map]
      simp only [hd]
      cases db.store.scan table <;> rfl

theorem within_steps_select (table : Text) (filter : Option Filter) :
    (select table filter).steps.Within Eq := by
  refine Within.bind (R := Eq) (fun _ _ _ => Eq.trans) (within_read Eq.refl _) fun schema => ?_
  refine Within.bind (R := Eq) (fun _ _ _ => Eq.trans) (within_read Eq.refl _) fun rows => ?_
  exact within_pure Eq.refl _

/-- A command checks all it needs before it writes. -/
theorem atomic_steps (c : Command) : c.steps.Atomic := by
  cases c with
  | create table columns =>
    have hs : (create table columns).steps.Succeeds :=
      (succeeds_write _).bind fun _ => (succeeds_write _).bind fun _ => succeeds_pure _
    exact hs.atomic
  | insert table values =>
    refine (within_read Eq.refl _).atomic_bind fun schema => ?_
    split
    · exact (within_throw Eq.refl _).atomic
    · refine (within_read Eq.refl _).atomic_bind fun rows => ?_
      exact ((succeeds_write _).bind fun _ => succeeds_pure _).atomic
  | select table filter => exact (within_steps_select table filter).atomic

end Command

namespace Database

/-- The two databases differ at most in one table. -/
structure AgreesOff (table : Text) (db after : Database) : Prop where
  names : after.catalog.names.filter (· ≠ table) = db.catalog.names.filter (· ≠ table)
  schema : ∀ other, other ≠ table → after.catalog.get? other = db.catalog.get? other
  rows : ∀ other, other ≠ table → after.store.get? other = db.store.get? other

namespace AgreesOff

variable {table : Text}

theorem refl (db : Database) : AgreesOff table db db := ⟨rfl, fun _ _ => rfl, fun _ _ => rfl⟩

theorem trans (a b c : Database) (h : AgreesOff table a b) (h' : AgreesOff table b c) :
    AgreesOff table a c where
  names := h'.names.trans h.names
  schema other ho := (h'.schema other ho).trans (h.schema other ho)
  rows other ho := (h'.rows other ho).trans (h.rows other ho)

theorem put_catalog (db : Database) (s : Schema) :
    AgreesOff table db { db with catalog := db.catalog.put table s } where
  names := by
    cases hc : db.catalog.contains table with
    | false => simp [Catalog.names_put_of_not_contains hc]
    | true => rw [Catalog.names_put_of_contains hc]
  schema other ho := by rw [Catalog.get?_put, if_neg ho]
  rows _ _ := rfl

theorem put_store (db : Database) (rows : List Row) :
    AgreesOff table db { db with store := db.store.put table rows } where
  names := rfl
  schema _ _ := rfl
  rows other ho := by rw [Keyed.get?_put, if_neg ho]

end AgreesOff

theorem within_agreesOff (c : Command) : c.steps.Within (AgreesOff c.table) := by
  cases c with
  | create table columns =>
    refine Steps.Within.bind AgreesOff.trans (fun db => .put_catalog db _) fun _ => ?_
    refine Steps.Within.bind AgreesOff.trans (fun db => .put_store db _) fun _ => ?_
    exact Steps.within_pure .refl _
  | insert table values =>
    refine Steps.Within.bind AgreesOff.trans (Steps.within_read .refl _) fun schema => ?_
    split
    · exact Steps.within_throw .refl _
    · refine Steps.Within.bind AgreesOff.trans (Steps.within_read .refl _) fun rows => ?_
      refine Steps.Within.bind AgreesOff.trans (fun db => .put_store db _) fun _ => ?_
      exact Steps.within_pure .refl _
  | select table filter =>
    refine Steps.Within.bind AgreesOff.trans (Steps.within_read .refl _) fun schema => ?_
    refine Steps.Within.bind AgreesOff.trans (Steps.within_read .refl _) fun rows => ?_
    exact Steps.within_pure .refl _

theorem run_of_error {db : Database} {c : Command} {e : Error} (h : (db.run c).2 = .error e) :
    (db.run c).1 = db := by
  rw [c.run_eq_exec_steps] at h ⊢
  exact c.atomic_steps db _ e (Prod.ext rfl h)

theorem execute_of_error {db : Database} {t : Text} {e : Error} (h : (db.execute t).2 = .error e) :
    (db.execute t).1 = db := by
  cases hp : Command.parse t with
  | error _ => rw [execute_of_parse_error hp]
  | ok c =>
    rw [execute_of_parse_ok hp] at h ⊢
    exact run_of_error h

/-- Whatever the catalog and the store hold, a command amounts to its reads and writes one after
another, it leaves both alone when it fails or selects, and it never touches a table that it does
not name. -/
theorem run_leaves_alone (db : Database) :
    (∀ c : Command, db.run c = c.steps.exec db) ∧
    (∀ c e, (db.run c).2 = .error e → (db.run c).1 = db) ∧
    (∀ table filter, (db.run (.select table filter)).1 = db) ∧
    (∀ c : Command, db.AgreesOff c.table (db.run c).1) ∧
    ∀ t e, (db.execute t).2 = .error e → (db.execute t).1 = db := by
  refine ⟨fun c => c.run_eq_exec_steps db, fun _ _ => run_of_error, ?_, ?_,
    fun _ _ => execute_of_error⟩
  · intro table filter
    rw [Command.run_eq_exec_steps]
    exact (Command.within_steps_select table filter db).symm
  · intro c
    rw [c.run_eq_exec_steps]
    exact within_agreesOff c db

/-- A table that only the catalog knows: the row is as wide as it must be, and the store is the
first to refuse it. -/
theorem run_leaves_alone_unstored :
    let db : Database := ⟨Catalog.empty.put ['t'] ⟨[['a']]⟩, .empty⟩
    let t := "insert into t values x".toList
    (db.run (.insert ['t'] [['x']])).2 = .error (.tableNotFound ['t']) ∧
      (db.execute t).2 = .error (.tableNotFound ['t']) ∧
      (db.run (.insert ['t'] [['x']])).1 = db ∧ (db.execute t).1 = db := by
  intro db t
  have hr : (db.run (.insert ['t'] [['x']])).2 = .error (.tableNotFound ['t']) := by decide +kernel
  have he : (db.execute t).2 = .error (.tableNotFound ['t']) := by decide +kernel
  obtain ⟨-, hrun, -, -, hexecute⟩ := run_leaves_alone db
  exact ⟨hr, he, hrun _ _ hr, hexecute _ _ he⟩

end Database

end Textbase
