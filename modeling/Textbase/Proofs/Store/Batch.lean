import Textbase.Proofs.Store.Atomicity
import Textbase.Proofs.Store.Step
import Textbase.Script

/-! Commands that are run together. Each comes to what it comes to after the ones before it, and a
run over two lists is the one run and then the other. Commands that fail could as well be left out:
without them the others come to the same, and the same database is left. -/
namespace Textbase

namespace Script

namespace Entry

def succeeded (e : Entry) : Bool := e.result.isOk

def later (n : Nat) (e : Entry) : Entry := { e with index := n + e.index }

/-- The command and what became of it, wherever it stands. -/
def told (e : Entry) : Text × Except Error Outcome := (e.command, e.result)

theorem failed_eq_not_succeeded (e : Entry) : e.failed = !e.succeeded := by
  obtain ⟨index, command, result⟩ := e
  cases result <;> rfl

end Entry

def accepted (ts : List Text) (es : List Entry) : List Text :=
  ((ts.zip es).filter fun p => p.2.succeeded).map Prod.fst

theorem accepted_cons (t : Text) (ts : List Text) (e : Entry) (es : List Entry) :
    accepted (t :: ts) (e :: es) =
      if e.succeeded then t :: accepted ts es else accepted ts es := by
  rw [accepted, List.zip_cons_cons, List.filter_cons]
  split <;> rfl

namespace Report

theorem succeeded_eq_countP (r : Report) : r.succeeded = r.entries.countP Entry.succeeded := by
  simp [succeeded, Entry.failed_eq_not_succeeded]

theorem errors_eq_filter (r : Report) : r.errors = r.entries.filter fun e => !e.succeeded := by
  simp [errors, funext Entry.failed_eq_not_succeeded]

end Report

end Script

namespace Database

open Script

def executeAll (db : Database) (ts : List Text) : Database :=
  ts.foldl (fun db t => (db.execute t).1) db

@[simp] theorem executeAll_nil (db : Database) : db.executeAll [] = db := rfl
@[simp] theorem executeAll_cons (db : Database) (t : Text) (ts : List Text) :
    db.executeAll (t :: ts) = (db.execute t).1.executeAll ts := rfl

theorem runFrom_eq_mapIdx (index : Nat) (db : Database) (ts : List Text) :
    db.runFrom index ts = (db.executeAll ts, ts.mapIdx fun i t =>
      ⟨index + i, Text.trim t, ((db.executeAll (ts.take i)).execute t).2⟩) := by
  induction ts generalizing index db with
  | nil => rfl
  | cons t ts ih =>
    rw [runFrom, execute_trim]
    simp only [ih, List.mapIdx_cons, executeAll_cons, List.take_zero, executeAll_nil,
      List.take_succ_cons, Nat.add_zero, Nat.add_assoc, Nat.add_comm 1]

theorem runFrom_later (n index : Nat) (db : Database) (ts : List Text) :
    db.runFrom (n + index) ts =
      ((db.runFrom index ts).1, (db.runFrom index ts).2.map (Entry.later n)) := by
  induction ts generalizing index db with
  | nil => rfl
  | cons t ts ih =>
    simp only [runFrom, Nat.add_assoc, ih, List.map_cons]
    rfl

/-- Without the commands that failed the others come to the same, from wherever they are counted,
and leave the same. -/
theorem runFrom_accepted (index index' : Nat) (db : Database) (ts : List Text) :
    let run := db.runFrom index ts
    let again := db.runFrom index' (accepted ts run.2)
    again.1 = run.1 ∧ again.2.map Entry.told = (run.2.filter Entry.succeeded).map Entry.told := by
  induction ts generalizing index index' db with
  | nil => exact ⟨rfl, rfl⟩
  | cons t ts ih =>
    dsimp only
    rw [runFrom, accepted_cons, List.filter_cons]
    cases hr : (db.execute (Text.trim t)).2 with
    | error e =>
      -- The command that is left out has changed nothing.
      have hdb := execute_of_error hr
      simp only [Entry.succeeded, Except.isOk, Except.toBool, Bool.false_eq_true, if_false, hdb]
      exact ih (index + 1) index' db
    | ok o =>
      obtain ⟨hafter, hentries⟩ := ih (index + 1) (index' + 1) (db.execute (Text.trim t)).1
      simp only [Entry.succeeded, Except.isOk, Except.toBool, if_true]
      rw [runFrom]
      refine ⟨hafter, ?_⟩
      rw [List.map_cons, List.map_cons, hr]
      exact List.cons_eq_cons.2 ⟨rfl, hentries⟩

/-- Commands that are run together are numbered from one on, and each has the outcome that it has
after the ones before it. The run of those that succeeded leaves the same database and comes to the
same for each of them, and a longer list is run as its first part and then the rest. A report counts
its successes and its failures, and these are its errors. -/
theorem runCommands_traceless (db : Database) (ts : List Text) :
    let run := db.runCommands ts
    let again := db.runCommands (accepted ts run.2.entries)
    run.1 = db.executeAll ts ∧
      run.2.entries = (ts.mapIdx fun i t =>
        ⟨i + 1, Text.trim t, ((db.executeAll (ts.take i)).execute (Text.trim t)).2⟩) ∧
      again.1 = run.1 ∧
      again.2.entries.map Entry.told = (run.2.entries.filter Entry.succeeded).map Entry.told ∧
      (∀ more, db.runCommands (ts ++ more) =
        let rest := run.1.runCommands more
        (rest.1, ⟨run.2.entries ++ rest.2.entries.map (Entry.later ts.length)⟩)) ∧
      ∀ r : Report, r.succeeded + r.failed = r.entries.length ∧
        r.succeeded = r.entries.countP Entry.succeeded ∧
        r.errors = r.entries.filter fun e => !e.succeeded := by
  have hrun := runFrom_eq_mapIdx 1 db ts
  obtain ⟨hafter, hentries⟩ := runFrom_accepted 1 1 db ts
  refine ⟨congrArg Prod.fst hrun, ?_, hafter, hentries, fun more => ?_, fun r =>
    ⟨r.succeeded_add_failed, r.succeeded_eq_countP, r.errors_eq_filter⟩⟩
  · simp only [execute_trim, Nat.add_comm _ 1]
    exact congrArg Prod.snd hrun
  · simp only [runCommands, runFrom_append, Nat.add_comm 1, runFrom_later]

end Database

end Textbase
