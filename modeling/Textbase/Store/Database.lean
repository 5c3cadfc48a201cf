import Textbase.Command.Reading
import Textbase.Store.Catalog
import Textbase.Store.Outcome

/-! The database: a catalog of schemas and, apart from it, rows by table name. A command that fails
changes neither. -/
namespace Textbase

abbrev RowStore := Keyed (List Row)

namespace RowStore

def scan (s : RowStore) (table : Text) : Except Error (List Row) :=
  match s.get? table with
  | some rows => .ok rows
  | none => .error (.tableNotFound table)

def append (s : RowStore) (table : Text) (row : Row) : Except Error RowStore :=
  (s.scan table).map fun rows => s.put table (rows ++ [row])

def rowCount? (s : RowStore) (table : Text) : Option Nat := (s.get? table).map List.length

end RowStore

structure Database where
  catalog : Catalog
  store : RowStore
  deriving DecidableEq, Repr

namespace Database

def empty : Database := ⟨.empty, .empty⟩

def reset (_ : Database) : Database := empty

/-- A table that is created again loses its rows. -/
def create (db : Database) (table : Text) (columns : List Text) : Database :=
  ⟨db.catalog.put table ⟨columns⟩, db.store.put table []⟩

def insert (db : Database) (table : Text) (row : Row) : Except Error Database := do
  let schema ← db.catalog.schema table
  if row.length ≠ schema.width then
    .error (.arityMismatch table schema.width row.length)
  else
    let store ← db.store.append table row
    .ok ⟨db.catalog, store⟩

def select (db : Database) (table : Text) (filter : Option Filter) : Except Error Tabular := do
  let schema ← db.catalog.schema table
  let rows ← db.store.scan table
  match filter with
  | none => .ok ⟨schema.columns, rows⟩
  | some f => .ok ⟨schema.columns, rows.filter fun row => f.holds schema row⟩

def run (db : Database) : Command → Database × Except Error Outcome
  | .create table columns => (db.create table columns, .ok (.created table columns))
  | .insert table values =>
    match db.insert table values with
    | .ok after => (after, .ok (.inserted table))
    | .error e => (db, .error e)
  | .select table filter =>
    match db.select table filter with
    | .ok d => (db, .ok (.selected table d.columns d.rows))
    | .error e => (db, .error e)

def execute (db : Database) (t : Text) : Database × Except Error Outcome :=
  match Command.parse t with
  | .ok c => db.run c
  | .error e => (db, .error e)

/-- Names in the order in which the tables were first created. -/
def tableNames (db : Database) : List Text := db.catalog.names

def schema? (db : Database) (table : Text) : Option Schema := db.catalog.get? table

def schemas (db : Database) : List (Text × Schema) := db.catalog.entries

def table? (db : Database) (table : Text) : Option Tabular :=
  (db.catalog.get? table).bind fun s => (db.store.get? table).map fun rows => ⟨s.columns, rows⟩

@[simp] theorem tableNames_empty : empty.tableNames = [] := rfl
@[simp] theorem table?_empty (table : Text) : empty.table? table = none := rfl

@[simp] theorem table?_create (db : Database) (table other : Text) (columns : List Text) :
    (db.create table columns).table? other =
      if other = table then some ⟨columns, []⟩ else db.table? other := by
  by_cases h : other = table <;> simp [table?, create, h]

/-- A row is added exactly when the table is known to the catalog and to the store and the row is
as wide as the schema; the catalog stays as it is. -/
theorem insert_eq_ok_iff {db after : Database} {table : Text} {row : Row} :
    db.insert table row = .ok after ↔
      ∃ s rows, db.catalog.get? table = some s ∧ db.store.get? table = some rows ∧
        row.length = s.width ∧ ⟨db.catalog, db.store.put table (rows ++ [row])⟩ = after := by
  cases hs : db.catalog.get? table with
  | none => simp [insert, Catalog.schema, hs, bind, Except.bind]
  | some s =>
    by_cases hw : row.length = s.width
    · cases hr : db.store.get? table <;>
        simp [insert, Catalog.schema, RowStore.append, RowStore.scan, hs, hr, hw, bind,
          Except.bind, Except.map]
    · simp [insert, Catalog.schema, hs, hw, bind, Except.bind]

theorem table?_eq_some_iff {db : Database} {table : Text} {d : Tabular} :
    db.table? table = some d ↔
      db.catalog.get? table = some ⟨d.columns⟩ ∧ db.store.get? table = some d.rows := by
  obtain ⟨columns, rows⟩ := d
  simp only [table?, Option.bind_eq_some_iff, Option.map_eq_some_iff, Tabular.mk.injEq]
  constructor
  · rintro ⟨⟨_⟩, hs, _, hr, rfl, rfl⟩
    exact ⟨hs, hr⟩
  · rintro ⟨hs, hr⟩
    exact ⟨⟨columns⟩, hs, rows, hr, rfl, rfl⟩

theorem table?_of_insert {db after : Database} {table : Text} {row : Row}
    (h : db.insert table row = .ok after) (other : Text) :
    after.table? other =
      if other = table then (db.table? table).map fun d => ⟨d.columns, d.rows ++ [row]⟩
      else db.table? other := by
  obtain ⟨s, rows, hs, hr, -, rfl⟩ := insert_eq_ok_iff.1 h
  by_cases ho : other = table <;> simp [table?, ho, hs, hr]

theorem select_eq_ok_of_table? {db : Database} {table : Text} {d : Tabular}
    (h : db.table? table = some d) (filter : Option Filter) :
    db.select table filter = .ok ⟨d.columns, match filter with
      | none => d.rows
      | some f => d.rows.filter fun row => f.holds ⟨d.columns⟩ row⟩ := by
  obtain ⟨hs, hr⟩ := table?_eq_some_iff.1 h
  cases filter <;> simp [select, Catalog.schema, RowStore.scan, hs, hr, bind, Except.bind]

theorem exists_table?_of_select {db : Database} {table : Text} {filter : Option Filter}
    {d : Tabular} (h : db.select table filter = .ok d) :
    ∃ rows, db.table? table = some ⟨d.columns, rows⟩ ∧ d.rows ⊆ rows := by
  cases hs : db.catalog.get? table with
  | none => simp [select, Catalog.schema, hs, bind, Except.bind] at h
  | some s =>
    cases hr : db.store.get? table with
    | none => simp [select, Catalog.schema, RowStore.scan, hs, hr, bind, Except.bind] at h
    | some rows =>
      have ht : db.table? table = some ⟨s.columns, rows⟩ := table?_eq_some_iff.2 ⟨hs, hr⟩
      rw [select_eq_ok_of_table? ht, Except.ok.injEq] at h
      subst h
      refine ⟨rows, ht, ?_⟩
      cases filter with
      | none => exact fun _ => id
      | some f => exact List.filter_sublist.subset

theorem execute_of_parse_error {t : Text} {e : Error} (h : Command.parse t = .error e)
    (db : Database) : db.execute t = (db, .error e) := by
  simp [execute, h]

theorem execute_of_parse_ok {t : Text} {c : Command} (h : Command.parse t = .ok c)
    (db : Database) : db.execute t = db.run c := by
  simp [execute, h]

end Database

end Textbase
