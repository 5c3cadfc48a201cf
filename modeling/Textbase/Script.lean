import Textbase.Response
import Textbase.Store.Database
import Textbase.Text.Lines

/-! Scripts: text with one command on a line. A line that cannot start a command is a comment, and
a command that fails does not stop the ones after it. -/
namespace Textbase

inductive ScriptLine
  | command (text : Text)
  | comment (text : Text)
  deriving DecidableEq, Repr

/-- Whether a trimmed line could start with a verb. -/
def ScriptLine.startsCommand : Text → Bool
  | [] => false
  | c :: _ => c.toLower == 'm' || c.toLower == 'c' || c.toLower == 'i' || c.toLower == 's'

def ScriptLine.ofLine (l : Text) : ScriptLine :=
  if startsCommand (Text.trim l) then command (Text.trim l) else comment (Text.trimEnd l)

def ScriptLine.command? : ScriptLine → Option Text
  | command t => some t
  | comment _ => none

namespace Script

def lines (t : Text) : List ScriptLine := (Text.lines t).map .ofLine

def commands (t : Text) : List Text := (lines t).filterMap ScriptLine.command?

/-- One command of a run: its position from 1 on, its text, and what became of it. -/
structure Entry where
  index : Nat
  command : Text
  result : Except Error Outcome

def Entry.response (e : Entry) : Response := .ofResult e.result

def Entry.failed (e : Entry) : Bool := e.response.isError

structure Report where
  entries : List Entry

namespace Report

def succeeded (r : Report) : Nat := r.entries.countP fun e => !e.failed

def failed (r : Report) : Nat := r.entries.length - r.succeeded

def errors (r : Report) : List Entry := r.entries.filter Entry.failed

theorem succeeded_add_failed (r : Report) : r.succeeded + r.failed = r.entries.length :=
  Nat.add_sub_of_le List.countP_le_length

theorem failed_eq_countP (r : Report) : r.failed = r.entries.countP Entry.failed := by
  have h := List.length_eq_countP_add_countP Entry.failed (l := r.entries)
  simp only [Bool.not_eq_true, Bool.decide_eq_false] at h
  rw [failed, h, succeeded, Nat.add_sub_cancel]

end Report

end Script

namespace Database

def respond (db : Database) (t : Text) : Database × Response :=
  let step := db.execute t
  (step.1, .ofResult step.2)

/-- Runs commands one after another; the first one has position `index`. -/
def runFrom (index : Nat) (db : Database) : List Text → Database × List Script.Entry
  | [] => (db, [])
  | t :: ts =>
    let step := db.execute (Text.trim t)
    let later := runFrom (index + 1) step.1 ts
    (later.1, ⟨index, Text.trim t, step.2⟩ :: later.2)

def runCommands (db : Database) (ts : List Text) : Database × Script.Report :=
  ((db.runFrom 1 ts).1, ⟨(db.runFrom 1 ts).2⟩)

def runScript (db : Database) (t : Text) : Database × Script.Report :=
  db.runCommands (Script.commands t)

@[simp] theorem runFrom_nil (index : Nat) (db : Database) : db.runFrom index [] = (db, []) := rfl

@[simp] theorem length_runFrom (index : Nat) (db : Database) (ts : List Text) :
    (db.runFrom index ts).2.length = ts.length := by
  induction ts generalizing index db with
  | nil => rfl
  | cons t ts ih => simp [runFrom, ih]

theorem map_index_runFrom (index : Nat) (db : Database) (ts : List Text) :
    (db.runFrom index ts).2.map Script.Entry.index = List.range' index ts.length := by
  induction ts generalizing index db with
  | nil => rfl
  | cons t ts ih => simp [runFrom, ih, List.range'_succ]

theorem runFrom_append (index : Nat) (db : Database) (xs ys : List Text) :
    db.runFrom index (xs ++ ys) =
      let first := db.runFrom index xs
      let second := first.1.runFrom (index + xs.length) ys
      (second.1, first.2 ++ second.2) := by
  induction xs generalizing index db with
  | nil => simp
  | cons x xs ih => simp [runFrom, ih, Nat.add_assoc, Nat.add_comm 1]

end Database

end Textbase
