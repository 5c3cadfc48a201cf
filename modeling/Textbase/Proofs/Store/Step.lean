import Textbase.Proofs.Command.Reading
import Textbase.Store.Database

/-! What executing a command text can come to. -/
namespace Textbase

theorem Command.parse_trim (t : Text) : Command.parse (Text.trim t) = Command.parse t := by
  rw [Command.parse, Command.parse, (Text.trimmed_trim t).trim_eq]

namespace Database

theorem execute_trim (db : Database) (t : Text) : db.execute (Text.trim t) = db.execute t := by
  rw [execute, execute, Command.parse_trim]

/-- The database afterwards and the outcome: a text fails and changes nothing, or it is a command
that creates a table, adds a row or selects rows. -/
inductive Executed (db : Database) (t : Text) : Database × Except Error Outcome → Prop
  | failed (e : Error) : Executed db t (db, .error e)
  | created {table : Text} {columns : List Text}
      (h : Command.parse t = .ok (.create table columns)) :
      Executed db t (db.create table columns, .ok (.created table columns))
  | inserted {table : Text} {values : Row} {after : Database}
      (h : Command.parse t = .ok (.insert table values)) (hi : db.insert table values = .ok after) :
      Executed db t (after, .ok (.inserted table))
  | selected {table : Text} {filter : Option Filter} {d : Tabular}
      (h : Command.parse t = .ok (.select table filter)) (hs : db.select table filter = .ok d) :
      Executed db t (db, .ok (.selected table d.columns d.rows))

theorem executed (db : Database) (t : Text) : Executed db t (db.execute t) := by
  cases hp : Command.parse t with
  | error e =>
    rw [execute_of_parse_error hp]
    exact .failed e
  | ok c =>
    rw [execute_of_parse_ok hp]
    cases c with
    | create table columns => exact .created hp
    | insert table values =>
      cases hi : db.insert table values with
      | error e => simpa [run, hi] using Executed.failed e
      | ok after => simpa [run, hi] using Executed.inserted hp hi
    | select table filter =>
      cases hs : db.select table filter with
      | error e => simpa [run, hs] using Executed.failed e
      | ok d => simpa [run, hs] using Executed.selected hp hs

end Database

end Textbase
