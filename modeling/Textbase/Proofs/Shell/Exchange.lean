import Textbase.Proofs.Response.RoundTrip
import Textbase.Proofs.Service.Refinement
import Textbase.Proofs.Url.Plain
import Textbase.Shell.Target

/-! A session and its service understand each other: what one writes the other reads as it was
meant. So a service whose way is open answers as a database of the session's own would. -/
namespace Textbase.Shell

open Service

theorem allNatural_commandJson (t : Text) : (commandJson t).AllNatural := by
  simp [commandJson, Json.AllNatural, Json.FieldsNatural]

theorem readCommand_commandJson (t : Text) : readCommand (commandJson t).write = .ok t := by
  have hs : Json.symbols (commandJson t).write =
      [.openBrace, .string "command".toList, .colon, .string t, .closeBrace] :=
    Json.symbols_write_self (allNatural_commandJson t)
  rw [readCommand, Reader.run, hs]
  simp [Reader.single, Reader.fieldsFrom, Reader.text]

/-- A reader of items reads what was written item by item. -/
theorem mapM_map_of_read {α β γ : Type} {read : β → Option γ} {write : α → β} {f : α → γ}
    (h : ∀ a, read (write a) = some (f a)) (as : List α) :
    (as.map write).mapM read = some (as.map f) := by
  induction as with
  | nil => rfl
  | cons a as ih => simp [List.mapM_cons, h, ih]

theorem allNatural_tablesJson (names : List Text) : (tablesJson names).AllNatural := by
  simp [tablesJson, Json.ofTexts, Json.AllNatural, Json.FieldsNatural, Json.itemsNatural_iff]

theorem readNames?_tablesJson (names : List Text) : readNames? (tablesJson names) = some names := by
  have htext : ∀ n, Json.text? (.string n) = some (id n) := fun _ => rfl
  have hnames := mapM_map_of_read htext names
  rw [List.map_id] at hnames
  have hfield : (tablesJson names).only? "tables".toList = some (.array (names.map .string)) := rfl
  rw [readNames?, hfield, Option.bind_some, Json.texts?, Json.items?, Option.bind_some, hnames]

theorem allNatural_schemasJson (ss : List (Text × Schema)) : (schemasJson ss).AllNatural := by
  have hcolumn : ∀ c, (Json.object [("name".toList, .string c),
      ("type".toList, .string Schema.columnType)]).AllNatural := by
    simp [Json.AllNatural, Json.FieldsNatural]
  have hschema : ∀ n s, (schemaJson n s).AllNatural := by
    intro n s
    refine ⟨trivial, ?_, trivial⟩
    rw [Json.AllNatural, Json.itemsNatural_iff]
    intro x hx
    obtain ⟨c, -, rfl⟩ := List.mem_map.1 hx
    exact hcolumn c
  rw [schemasJson, Json.AllNatural, Json.itemsNatural_iff]
  intro x hx
  obtain ⟨⟨n, s⟩, -, rfl⟩ := List.mem_map.1 hx
  exact hschema n s

theorem readTable?_schemaJson (name : Text) (s : Schema) :
    readTable? (schemaJson name s) = some (name, columnsOf s) := by
  have hcolumn : ∀ c, readColumn? (.object [("name".toList, .string c),
      ("type".toList, .string Schema.columnType)]) = some (c, Schema.columnType) := fun _ => rfl
  have hcolumns := mapM_map_of_read hcolumn s.columns
  have hname : ((schemaJson name s).only? "name".toList).bind Json.text? = some name := rfl
  have hitems : ((schemaJson name s).only? "columns".toList).bind Json.items? =
      some (s.columns.map fun c => .object [("name".toList, .string c),
        ("type".toList, .string Schema.columnType)]) := rfl
  rw [readTable?]
  simp only [hname, hitems, Option.bind_eq_bind, Option.bind_some, hcolumns, Option.map_some,
    columnsOf]

theorem readTables?_schemasJson (ss : List (Text × Schema)) :
    readTables? (schemasJson ss) = some (ss.map fun (n, s) => (n, columnsOf s)) :=
  mapM_map_of_read (fun (n, s) => readTable?_schemaJson n s) ss

/-! ### Over a way that leads to the service -/

theorem readReply_json {α : Type} {read : Json → Option α} {x : Json} (hx : x.AllNatural) {a : α}
    (hread : read x = some a) (status : Nat) : readReply read (Reply.json status x) = .ok a := by
  rw [readReply, Reply.json, Json.read?_write hx, Option.bind_some, hread]

def Call.route : Call → Route
  | execute => .execute
  | tables => .tables
  | schemas => .schemas
  | reset => .reset

/-- The methods and paths of a session are those that the service knows. -/
theorem Call.ofTarget?_path (c : Call) :
    Route.ofTarget? c.path = some c.route ∧ c.route.allows c.method = true := by
  cases c <;> decide

theorem Call.reaches_request (c : Call) (body : Option Json) :
    (c.request c.path body).Reaches c.route :=
  ⟨c.ofTarget?_path.1, c.ofTarget?_path.2⟩

theorem Call.answer_request (c : Call) (body : Option Json) (db : Database) :
    answer db (c.request c.path body) = serve db (c.request c.path body) c.route := by
  have hmethod : (c.request c.path body).method ≠ .head := by
    cases c <;> simp [request, method]
  rw [answer_of_reaches (c.reaches_request body), if_neg hmethod]

/-- The addresses of all calls lead to the service, each to its own path there. -/
def Link.Leads (l : Link) (base : Text) : Prop :=
  ∀ c : Call, ∃ shown, l.route (base ++ c.path) = .ok ⟨shown, c.path⟩

def Link.over (l : Link) (db : Database) : Link := ⟨l.route, db⟩

@[simp] theorem Link.db_over (l : Link) (db : Database) : (l.over db).db = db := rfl
@[simp] theorem Link.over_over (l : Link) (db db' : Database) :
    (l.over db).over db' = l.over db' := rfl

theorem Link.Leads.over {l : Link} {base : Text} (h : l.Leads base) (db : Database) :
    (l.over db).Leads base := h

theorem Link.Leads.send {l : Link} {base : Text} (h : l.Leads base) (c : Call)
    (body : Option Json) :
    let served := serve l.db (c.request c.path body) c.route
    ∃ shown, l.send base c body = (l.over served.1, .ok (shown, served.2)) := by
  obtain ⟨shown, hroute⟩ := h c
  refine ⟨shown, ?_⟩
  simp only [Link.send, hroute, c.answer_request]
  rfl

theorem Call.isPlain_path (c : Call) : ∀ x ∈ c.path, Url.isPlain x = true :=
  List.all_eq_true.1 (by cases c <;> decide)

theorem Call.readPath_path (c : Call) : Url.readPath .web c.path = c.path := by
  cases c <;> decide +kernel

theorem Link.routeTo_of_read (listens : Url.Host → Nat → Bool) (reason : Text) {address : Text}
    {u : Url} (hu : Url.read address = .ok u) (hscheme : u.scheme = "http".toList)
    (hlistens : u.authority.any (fun a => listens a.host (a.portNumber.getD 80)) = true) :
    routeTo listens reason address =
      .ok ⟨u.withoutCredentials.write, u.path ++ Url.writePart '?' u.query⟩ := by
  have hsent : ¬(u.scheme ≠ "http".toList ∧ u.scheme ≠ "https".toList) := fun h => h.1 hscheme
  simp only [routeTo, hu, if_neg hsent, if_pos (And.intro hscheme hlistens)]

/-- The address of a host and port leads to the service that listens there. -/
theorem Link.leads_listening {hostText : Text} (hne : hostText ≠ [])
    (hplain : ∀ c ∈ hostText, Url.isHostChar c = true) {host : Url.Host}
    (hhost : Url.readHost .web hostText = .ok host) {n : Nat} (hn : n < UInt16.size)
    (reason : Text) (db : Database) :
    (Link.listening host n reason db).Leads
      ("http://".toList ++ hostText ++ ':' :: Text.ofNat n) := by
  intro c
  have hstart : c.path.head? = some '/' := by cases c <;> rfl
  have hread := Url.read_plain hne hplain hhost hn hstart c.isPlain_path c.readPath_path
  have hport : (if n = 80 then none else some n).getD 80 = n := by
    split
    · exact Eq.symm ‹n = 80›
    · rfl
  have hroute := Link.routeTo_of_read (fun h m => h == host && m == n) reason hread rfl
    (by simp [hport])
  rw [Url.writePart, List.append_nil] at hroute
  exact ⟨_, hroute⟩

namespace Target

variable {l : Link} {base : Text} (h : l.Leads base)

include h

/-- Only the size of a command can keep a service from running it. -/
theorem execute_service {t : Text}
    (ht : Text.byteLength (commandJson t).write ≤ bodyLimit) :
    (service base l).execute t =
      (service base (l.over (l.db.execute t).1), .ok (.ofResult (l.db.execute t).2)) := by
  let q := Call.execute.request Call.execute.path (some (commandJson t))
  have htype : announcesJson (some "application/json".toList) = true := by decide
  have hj : q.OffersJson := ⟨htype, ht⟩
  have hserve : serve l.db q .execute = executeReply l.db t :=
    withBody_ok hj (readCommand_commandJson t) l.db
  have hread := readReply_json (Response.ofResult (l.db.execute t).2).allNatural_toJson
    (Response.ofResult (l.db.execute t).2).ofJson?_toJson
  obtain ⟨shown, hsend⟩ := h.send .execute (some (commandJson t))
  simp only [q, Call.route] at hserve hsend
  simp only [execute, hsend, hserve, executeReply, Database.respond, hread, Except.mapError]

theorem ask_json {α : Type} {c : Call} {after : Database} {x : Json}
    (hserve : serve l.db (c.request c.path none) c.route = (after, .json 200 x))
    {read : Reply → Except LinkError α} {a : α} (hread : read (.json 200 x) = .ok a) :
    ask base l c read = (service base (l.over after), .ok a) := by
  obtain ⟨shown, hsend⟩ := h.send c none
  have hok : accepted shown (Reply.json 200 x) = .ok (Reply.json 200 x) := rfl
  simp only [ask, hsend, hserve, Except.bind, hok, hread, Except.mapError]

theorem tables_service :
    (service base l).tables = (service base l, .ok l.db.tableNames) :=
  ask_json (c := .tables) h rfl
    (readReply_json (allNatural_tablesJson l.db.tableNames) (readNames?_tablesJson _) 200)

/-- The service tells of one table by listing all. -/
theorem schema_service (hw : l.db.WellFormed) (table : Text) :
    (service base l).schema table =
      (service base l, .ok ((l.db.schema? table).map columnsOf)) := by
  have hask : ask base l .schemas (readReply readTables?) =
      (service base l, .ok (l.db.schemas.map fun (n, s) => (n, columnsOf s))) :=
    ask_json (c := .schemas) h rfl
      (readReply_json (allNatural_schemasJson l.db.schemas) (readTables?_schemasJson _) 200)
  have hlookup : ∀ ss : List (Text × Schema), (ss.map fun (n, s) => (n, columnsOf s)).lookup table =
      (ss.lookup table).map columnsOf := by
    intro ss
    induction ss with
    | nil => rfl
    | cons s ss ih =>
      obtain ⟨n, s⟩ := s
      simp only [List.map_cons, Keyed.lookup_cons_eq, ih]
      split <;> rfl
  simp only [schema, hask, Except.map, hlookup, hw.lookup_schemas]

theorem reset_service : (service base l).reset = (service base (l.over l.db.reset), .ok ()) :=
  ask_json (c := .reset) h rfl rfl

end Target

end Textbase.Shell
