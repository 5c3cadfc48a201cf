import Textbase.Script
import Textbase.Service.Body
import Textbase.Service.MediaType
import Textbase.Service.RequestTarget

/-! The service: requests by method and target over one database. -/
namespace Textbase.Service

inductive Method
  | get | head | post
  | other (name : Text)
  deriving DecidableEq

def Method.ofText (t : Text) : Method :=
  if t = "GET".toList then get
  else if t = "HEAD".toList then head
  else if t = "POST".toList then post
  else other t

structure Request where
  method : Method
  target : Text
  contentType : Option Text
  body : Text

structure Reply where
  status : Nat
  body : Text
  deriving DecidableEq

namespace Reply

def json (status : Nat) (x : Json) : Reply := ⟨status, x.write⟩

def refusal (status : Nat) : Reply := ⟨status, []⟩

end Reply

def statusLine (status : Nat) : Text :=
  Text.ofNat status ++ ' ' :: match status with
    | 400 => "Bad Request".toList
    | 404 => "Not Found".toList
    | 405 => "Method Not Allowed".toList
    | 413 => "Payload Too Large".toList
    | 415 => "Unsupported Media Type".toList
    | 422 => "Unprocessable Entity".toList
    | _ => "<unknown status code>".toList

inductive Route
  | health | execute | batch | tables | schemas | reset
  deriving DecidableEq

namespace Route

def path : Route → Text
  | health => "/api/health".toList
  | execute => "/api/execute".toList
  | batch => "/api/batch".toList
  | tables => "/api/tables".toList
  | schemas => "/api/schemas".toList
  | reset => "/api/reset".toList

def all : List Route := [health, execute, batch, tables, schemas, reset]

def ofPath? (t : Text) : Option Route := all.find? fun r => r.path == t

def ofTarget? (t : Text) : Option Route := (RequestTarget.path? t).bind ofPath?

def isReport : Route → Bool
  | health | tables | schemas => true
  | execute | batch | reset => false

def allows (r : Route) : Method → Bool
  | .get | .head => r.isReport
  | .post => !r.isReport
  | .other _ => false

end Route

def schemaJson (name : Text) (s : Schema) : Json :=
  .object [("name".toList, .string name), ("columns".toList, .array (s.columns.map fun c =>
    .object [("name".toList, .string c), ("type".toList, .string Schema.columnType)]))]

def tablesJson (names : List Text) : Json := .object [("tables".toList, .ofTexts names)]

def schemasJson (ss : List (Text × Schema)) : Json := .array (ss.map fun (n, s) => schemaJson n s)

def reportJson (r : Script.Report) : Json :=
  .object [("results".toList, .array (r.entries.map fun e => e.response.toJson)),
    ("succeeded".toList, .ofNat r.succeeded), ("failed".toList, .ofNat r.failed)]

def okJson : Json := .object [("status".toList, .string "ok".toList)]

def healthJson (tables : Nat) : Json :=
  .object [("status".toList, .string "ok".toList), ("tables".toList, .ofNat tables)]

def bodyLimit : Nat := 2097152

/-- What a route that needs a body does with it, or the status it is refused with: the announced
type is looked at first, then the size, then the text. -/
def withBody {α : Type} (read : Text → Except BodyFault α) (q : Request)
    (act : α → Database × Reply) (db : Database) : Database × Reply :=
  if !announcesJson q.contentType then (db, .refusal 415)
  else if !Text.fitsBytes bodyLimit q.body then (db, .refusal 413)
  else
    match read q.body with
    | .ok a => act a
    | .error .notJson => (db, .refusal 400)
    | .error .otherShape => (db, .refusal 422)

/-- Runs one command; an error of the database is the caller's. -/
def executeReply (db : Database) (command : Text) : Database × Reply :=
  let (after, response) := db.respond command
  (after, .json (if response.isError then 400 else 200) response.toJson)

def batchReply (db : Database) (commands : List Text) : Database × Reply :=
  let (after, report) := db.runCommands commands
  (after, .json 200 (reportJson report))

def serve (db : Database) (q : Request) : Route → Database × Reply
  | .health => (db, .json 200 (healthJson db.tableNames.length))
  | .tables => (db, .json 200 (tablesJson db.tableNames))
  | .schemas => (db, .json 200 (schemasJson db.schemas))
  | .reset => (db.reset, .json 200 okJson)
  | .execute => withBody readCommand q (executeReply db) db
  | .batch => withBody readCommands q (batchReply db) db

def answer (db : Database) (q : Request) : Database × Reply :=
  match Route.ofTarget? q.target with
  | none => (db, .refusal 404)
  | some r =>
    if r.allows q.method then
      let (after, reply) := serve db q r
      (after, if q.method = .head then ⟨reply.status, []⟩ else reply)
    else (db, .refusal 405)

end Textbase.Service
