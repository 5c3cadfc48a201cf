import Textbase.Shell.Link

/-! Where the commands of a session are run: in a database of its own, or by a service. -/
namespace Textbase.Shell

inductive TargetError
  | link (e : LinkError)
  /-- A command that was not sent; the service is named too. -/
  | command (base : Text) (e : LinkError)
  /-- A reply to a command that cannot be read. -/
  | unreadable (e : LinkError)
  deriving DecidableEq, Repr

def TargetError.message : TargetError → Text
  | link e => e.message
  | command base e => "failed to reach ".toList ++ base ++ ": ".toList ++ e.message
  | unreadable e => "server returned an unreadable response: ".toList ++ e.message

abbrev Columns := List (Text × Text)

def columnsOf (s : Schema) : Columns := s.columns.map fun c => (c, Schema.columnType)

/-- What a reply says; one that does not read as wanted is unexpected. -/
def readReply {α : Type} (read : Json → Option α) (reply : Service.Reply) : Except LinkError α :=
  match (Json.read? reply.body).bind read with
  | some a => .ok a
  | none => .error .unexpectedReply

def accepted (shown : Text) (reply : Service.Reply) : Except LinkError Service.Reply :=
  if 400 ≤ reply.status then .error (.refused shown reply.status) else .ok reply

def commandJson (command : Text) : Json := .object [("command".toList, .string command)]

def readColumn? (x : Json) : Option (Text × Text) := do
  let name ← (x.only? "name".toList).bind Json.text?
  let type ← (x.only? "type".toList).bind Json.text?
  some (name, type)

def readTable? (x : Json) : Option (Text × Columns) := do
  let name ← (x.only? "name".toList).bind Json.text?
  let columns ← (x.only? "columns".toList).bind Json.items?
  (columns.mapM readColumn?).map (name, ·)

def readTables? (x : Json) : Option (List (Text × Columns)) := x.items?.bind (·.mapM readTable?)

def readNames? (x : Json) : Option (List Text) := (x.only? "tables".toList).bind Json.texts?

/-- A database of the session's own, or the service at a base address. -/
inductive Target
  | own (db : Database)
  | service (base : Text) (link : Link)

namespace Target

/-- An error of the database comes as a reply like any other. -/
def execute (t : Target) (command : Text) : Target × Except TargetError Response :=
  match t with
  | own db =>
    let (after, r) := db.execute command
    (own after, .ok (.ofResult r))
  | service base l =>
    let (after, reply) := l.send base .execute (some (commandJson command))
    (service base after,
      match reply with
      | .error e => .error (.command base e)
      | .ok (_, r) => (readReply Response.ofJson? r).mapError .unreadable)

/-- What a call brings, as `read` takes it from the reply. -/
def ask {α : Type} (base : Text) (l : Link) (c : Call) (read : Service.Reply → Except LinkError α) :
    Target × Except TargetError α :=
  let (after, reply) := l.send base c none
  (service base after,
    ((reply.bind fun (shown, r) => accepted shown r).bind read).mapError .link)

def tables (t : Target) : Target × Except TargetError (List Text) :=
  match t with
  | own db => (t, .ok db.tableNames)
  | service base l => ask base l .tables (readReply readNames?)

def schema (t : Target) (table : Text) : Target × Except TargetError (Option Columns) :=
  match t with
  | own db => (t, .ok ((db.schema? table).map columnsOf))
  | service base l =>
    let (after, schemas) := ask base l .schemas (readReply readTables?)
    (after, schemas.map (·.lookup table))

def reset (t : Target) : Target × Except TargetError Unit :=
  match t with
  | own db => (own db.reset, .ok ())
  | service base l => ask base l .reset fun _ => .ok ()

@[simp] theorem execute_own (db : Database) (t : Text) :
    (own db).execute t = (own (db.execute t).1, .ok (.ofResult (db.execute t).2)) := rfl
@[simp] theorem tables_own (db : Database) : (own db).tables = (own db, .ok db.tableNames) := rfl
@[simp] theorem schema_own (db : Database) (t : Text) :
    (own db).schema t = (own db, .ok ((db.schema? t).map columnsOf)) := rfl
@[simp] theorem reset_own (db : Database) : (own db).reset = (own db.reset, .ok ()) := rfl

end Target

end Textbase.Shell
