import Textbase.Proofs.Store.Reachable
import Mathlib.Data.List.DropRight

/-! What a run of operations leaves behind, told from the commands that succeeded in it. A table has
the columns of its last creation and the rows that were added to it since; the tables are listed in
the order in which they were first created. What happened before the last reset does not count. -/
namespace Textbase

inductive Operation
  | execute (command : Text)
  | reset
  deriving DecidableEq

inductive Event
  | executed (command : Text) (result : Except Error Outcome)
  | reset

namespace Event

def isReset : Event → Bool
  | reset => true
  | executed .. => false

def sinceReset (es : List Event) : List Event := es.rtakeWhile fun e => !e.isReset

def created? : Event → Option Text
  | executed _ (.ok (.created table _)) => some table
  | _ => none

def columns? : Event → Option (List Text)
  | executed command (.ok (.created ..)) =>
    match Command.parse command with
    | .ok (.create _ columns) => some columns
    | _ => none
  | _ => none

def row? (table : Text) : Event → Option Row
  | executed command (.ok (.inserted _)) =>
    match Command.parse command with
    | .ok (.insert t values) => if table = t then some values else none
    | _ => none
  | _ => none

/-- What the events since a reset tell about a table. -/
inductive Tells (table : Text) : List Event → Option Tabular → Prop
  | absent {es : List Event} (h : ∀ e ∈ es, e.created? ≠ some table) : Tells table es none
  | present {before later : List Event} {e : Event} {columns : List Text}
      (ht : e.created? = some table) (hc : e.columns? = some columns)
      (hl : ∀ x ∈ later, x.created? ≠ some table) :
      Tells table (before ++ e :: later) (some ⟨columns, later.filterMap (row? table)⟩)

/-- A creation makes all that happened before it irrelevant. -/
theorem tells_of_creation {table : Text} {e : Event} {columns : List Text}
    (ht : e.created? = some table) (hc : e.columns? = some columns) (es : List Event) :
    Tells table (es ++ [e]) (some ⟨columns, []⟩) :=
  .present ht hc (by simp)

/-- Any other event adds its row, if it has one for the table. -/
theorem Tells.concat {table : Text} {es : List Event} {d : Option Tabular} (h : Tells table es d)
    {e : Event} (he : e.created? ≠ some table) :
    Tells table (es ++ [e]) (d.map fun d => ⟨d.columns, d.rows ++ (e.row? table).toList⟩) := by
  cases h with
  | absent h =>
    refine .absent fun x hx => ?_
    rcases List.mem_append.1 hx with hx | hx
    · exact h x hx
    · rwa [List.mem_singleton.1 hx]
  | @present before later c columns ht hc hl =>
    have hl' : ∀ x ∈ later ++ [e], x.created? ≠ some table := by
      intro x hx
      rcases List.mem_append.1 hx with hx | hx
      · exact hl x hx
      · rwa [List.mem_singleton.1 hx]
    have h' := @Tells.present table before _ _ _ ht hc hl'
    have hr : [e].filterMap (row? table) = (e.row? table).toList := by
      cases hr : e.row? table <;> simp [hr]
    simpa [List.filterMap_append, hr] using h'

end Event

namespace Database

def perform (db : Database) : Operation → Database × Event
  | .execute t =>
    let step := db.execute t
    (step.1, .executed t step.2)
  | .reset => (db.reset, .reset)

def performAll (db : Database) : List Operation → Database × List Event
  | [] => (db, [])
  | op :: ops =>
    let step := db.perform op
    let later := performAll step.1 ops
    (later.1, step.2 :: later.2)

theorem performAll_append (db : Database) (xs ys : List Operation) :
    db.performAll (xs ++ ys) =
      let first := db.performAll xs
      let second := first.1.performAll ys
      (second.1, first.2 ++ second.2) := by
  induction xs generalizing db with
  | nil => rfl
  | cons x xs ih => simp [performAll, ih]

theorem Reachable.perform {db : Database} (h : db.Reachable) (op : Operation) :
    (db.perform op).1.Reachable := by
  cases op with
  | execute t => exact h.execute t
  | reset => exact h.reset

theorem Reachable.performAll {db : Database} (h : db.Reachable) (ops : List Operation) :
    (db.performAll ops).1.Reachable := by
  induction ops generalizing db with
  | nil => exact h
  | cons op ops ih => exact ih (h.perform op)

theorem table?_execute (db : Database) (t table : Text) :
    let step := db.execute t
    let e := Event.executed t step.2
    (e.created? = some table ∧ ∃ columns, e.columns? = some columns ∧
      step.1.table? table = some ⟨columns, []⟩) ∨
    (e.created? ≠ some table ∧ step.1.table? table =
      (db.table? table).map fun d => ⟨d.columns, d.rows ++ (e.row? table).toList⟩) := by
  have hs := db.executed t
  generalize db.execute t = step at hs ⊢
  cases hs with
  | failed e => simp [Event.created?, Event.row?]
  | @created name columns hp =>
    by_cases hn : table = name
    · simp [Event.created?, Event.columns?, hp, hn]
    · simp [Event.created?, Event.row?, hn, Ne.symm hn]
  | @inserted name values after hp hi =>
    by_cases hn : table = name <;>
      simp [table?_of_insert hi, Event.created?, Event.row?, hp, hn]
  | selected hp hs => simp [Event.created?, Event.row?]

theorem tableNames_execute {db : Database} (h : db.WellFormed) (t : Text) :
    let step := db.execute t
    step.1.tableNames =
      match (Event.executed t step.2).created? with
      | some table => if table ∈ db.tableNames then db.tableNames else db.tableNames ++ [table]
      | none => db.tableNames := by
  have hs := db.executed t
  generalize db.execute t = step at hs ⊢
  cases hs with
  | failed e => rfl
  | created hp => exact h.names_create _ _
  | inserted hp hi =>
    obtain ⟨s, rows, -, -, -, rfl⟩ := insert_eq_ok_iff.1 hi
    rfl
  | selected hp hs => rfl

theorem eraseDups_concat (names : List Text) (n : Text) :
    (names ++ [n]).eraseDups =
      if n ∈ names.eraseDups then names.eraseDups else names.eraseDups ++ [n] := by
  rw [List.eraseDups_append]
  by_cases h : n ∈ names <;> simp [List.removeAll, List.eraseDups_cons, h]

/-- What the events since a reset tell about the whole database. -/
structure Recorded (es : List Event) (db : Database) : Prop where
  tables : ∀ table, Event.Tells table es (db.table? table)
  tableNames : db.tableNames = (es.filterMap Event.created?).eraseDups

theorem recorded_empty : Recorded [] empty where
  tables := fun _ => .absent (by simp)
  tableNames := rfl

theorem Recorded.execute {es : List Event} {db : Database} (h : Recorded es db)
    (hw : db.WellFormed) (t : Text) :
    Recorded (es ++ [.executed t (db.execute t).2]) (db.execute t).1 where
  tables := fun table => by
    rcases db.table?_execute t table with ⟨ht, columns, hc, hs⟩ | ⟨ht, hs⟩
    · rw [hs]
      exact Event.tells_of_creation ht hc es
    · rw [hs]
      exact (h.tables table).concat ht
  tableNames := by
    have hs := tableNames_execute hw t
    dsimp only at hs
    rw [hs, h.tableNames, List.filterMap_append]
    split
    · rename_i table hc
      rw [List.filterMap_cons_some hc, List.filterMap_nil, eraseDups_concat]
    · rename_i hc
      rw [List.filterMap_cons_none hc, List.filterMap_nil, List.append_nil]

theorem recorded_performAll (ops : List Operation) :
    Recorded (Event.sinceReset (empty.performAll ops).2) (empty.performAll ops).1 := by
  induction ops using List.reverseRecOn with
  | nil => exact recorded_empty
  | append_singleton ops op ih =>
    have hw := (Reachable.empty.performAll ops).wellFormed
    rw [performAll_append]
    cases op with
    | execute t =>
      have hs := List.rtakeWhile_concat_pos (fun e : Event => !e.isReset)
        (empty.performAll ops).2 (.executed t ((empty.performAll ops).1.execute t).2) rfl
      simpa only [performAll, perform, Event.sinceReset, hs] using ih.execute hw t
    | reset =>
      have hs := List.rtakeWhile_concat_neg (fun e : Event => !e.isReset)
        (empty.performAll ops).2 .reset (by simp [Event.isReset])
      simpa only [performAll, perform, reset, Event.sinceReset, hs] using recorded_empty

/-- After any run of operations a table is what the events since the last reset tell: absent without
a creation, else with the columns of its last creation and the rows added to it since, in order.
Each table that was created since is listed once, in the order of the first creations. -/
theorem performAll_history (ops : List Operation) :
    let run := empty.performAll ops
    let es := Event.sinceReset run.2
    (∀ table, Event.Tells table es (run.1.table? table)) ∧ run.1.tableNames.Nodup ∧
      run.1.tableNames = (es.filterMap Event.created?).eraseDups :=
  have h := recorded_performAll ops
  ⟨h.tables, (Reachable.empty.performAll ops).wellFormed.nodup_names, h.tableNames⟩

end Database

end Textbase
