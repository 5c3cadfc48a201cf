import Textbase.Json.Read
import Textbase.Store.Outcome
import Textbase.Error
import Textbase.Tabular.Layout

/-! What a caller is told about one command: fields of the outcome, or the words of the error. -/
namespace Textbase

structure Response where
  kind : Option Text
  table : Option Text
  message : Option Text
  output : Option Text
  rowCount : Option UInt64
  error : Option Text
  deriving DecidableEq, Repr

namespace Response

def ofOutcome (o : Outcome) : Response :=
  ⟨some o.kind, some o.table, some o.message, o.output, o.rowCount.map .ofNat, none⟩

def ofError (e : Error) : Response := ⟨none, none, none, none, none, some e.message⟩

def ofResult : Except Error Outcome → Response
  | .ok o => ofOutcome o
  | .error e => ofError e

def isError (r : Response) : Bool := r.error.isSome

theorem ofResult_eq (r : Except Error Outcome) : ofResult r =
    match r with
    | .error e => ⟨none, none, none, none, none, some e.message⟩
    | .ok (.created table columns) =>
      ⟨some "create".toList, some table, some ("Table ".toList ++ table ++
        " created with fields: ".toList ++ Text.joinWith ", ".toList columns), none, none, none⟩
    | .ok (.inserted table) =>
      ⟨some "insert".toList, some table, some ("1 row inserted into ".toList ++ table), none, none,
        none⟩
    | .ok (.selected table columns rows) =>
      ⟨some "select".toList, some table, some (Text.ofNat rows.length ++
        " row(s) selected from ".toList ++ table), some (Tabular.encode columns rows),
        some (.ofNat rows.length), none⟩ := by
  cases r with
  | error e => rfl
  | ok o => cases o <;> rfl

@[simp] theorem isError_ofResult_ok (o : Outcome) : (ofResult (.ok o)).isError = false := rfl
@[simp] theorem isError_ofResult_error (e : Error) : (ofResult (.error e)).isError = true := rfl

/-- The names of the fields, in the order in which they are written. -/
def fieldNames : List Text :=
  ["type".toList, "table".toList, "message".toList, "output".toList, "row_count".toList,
    "error".toList]

def toJson (r : Response) : Json :=
  .object ([("type".toList, r.kind.map .string), ("table".toList, r.table.map .string),
    ("message".toList, r.message.map .string), ("output".toList, r.output.map .string),
    ("row_count".toList, r.rowCount.map fun n => .ofNat n.toNat),
    ("error".toList, r.error.map .string)].filterMap fun (name, x) => x.map (name, ·))

/-- A larger integer than fits into 64 bits is refused. -/
def count? (x : Json) : Option UInt64 := (x.natural?.filter (· < UInt64.size)).map .ofNat

/-- A field that may be missing or null. -/
def optional {α : Type} (read : Json → Option α) : Option Json → Option (Option α)
  | none => some none
  | some .null => some none
  | some x => (read x).map some

def ofFields? (field : Text → Nat → Option Json) : Option Response := do
  let kind ← optional Json.text? (field "type".toList 0)
  let table ← optional Json.text? (field "table".toList 1)
  let message ← optional Json.text? (field "message".toList 2)
  let output ← optional Json.text? (field "output".toList 3)
  let rowCount ← optional count? (field "row_count".toList 4)
  let error ← optional Json.text? (field "error".toList 5)
  some ⟨kind, table, message, output, rowCount, error⟩

/-- Reads an object by field names, none of which may be repeated, or a list of at most six items by
position. -/
def ofJson? (x : Json) : Option Response :=
  match x with
  | .object _ =>
    if fieldNames.any fun name => x.repeats name then none else ofFields? fun name _ => x.get? name
  | .array xs => if xs.length ≤ 6 then ofFields? fun _ i => xs[i]? else none
  | _ => none

def write (r : Response) : Text := r.toJson.write

def read? (t : Text) : Option Response := (Json.read? t).bind ofJson?

/-- The response as it is shown: the error, or the table under its output and the message. There is
none when the table has a column that no text can be padded to. -/
def render? (r : Response) : Option Text :=
  match r.error, r.output with
  | some e, _ => some ("Error: ".toList ++ e)
  | none, none => some (r.message.getD [])
  | none, some output =>
    (Tabular.decode output).layout?.map fun table => table ++ '\n' :: r.message.getD []

theorem render?_eq_none_iff {r : Response} : r.render? = none ↔
    r.error = none ∧ ∃ output ∈ r.output, ∃ w ∈ (Tabular.decode output).widths,
      Tabular.widthLimit < w := by
  unfold render?
  split <;> simp_all [Tabular.layout?_eq_none_iff]

end Response

end Textbase
