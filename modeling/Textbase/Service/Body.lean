import Textbase.Json.Magnitude
import Textbase.Json.Read

/-! Request bodies. A body is read from front to back and refused at its first fault: where the
text is no JSON, or where it is JSON of another shape than the one wanted. -/
namespace Textbase.Service

open Json (Symbol)

inductive BodyFault
  | notJson | otherShape
  deriving DecidableEq, Repr

abbrev Reader (α : Type) := List Symbol → Except BodyFault (α × List Symbol)

/-- The fault of a value that is not of the wanted kind. -/
def faultOf : List Symbol → BodyFault
  | .null :: _ => .otherShape
  | .bool _ :: _ => .otherShape
  | .string _ :: _ => .otherShape
  | .openBrace :: _ => .otherShape
  | .openBracket :: _ => .otherShape
  | .number literal :: _ => if Json.exceedsRange literal then .notJson else .otherShape
  | _ => .notJson

namespace Reader

def text : Reader Text
  | .string s :: ss => .ok (s, ss)
  | ss => .error (faultOf ss)

/-- Texts up to the end of the list, whose first item is at the front. -/
def textsFrom : Reader (List Text)
  | .string s :: .comma :: ss =>
    match textsFrom ss with
    | .ok (ts, r) => .ok (s :: ts, r)
    | .error e => .error e
  | .string s :: .closeBracket :: ss => .ok ([s], ss)
  | .string _ :: _ => .error .notJson
  | ss => .error (faultOf ss)

def texts : Reader (List Text)
  | .openBracket :: .closeBracket :: ss => .ok ([], ss)
  | .openBracket :: ss => textsFrom ss
  | ss => .error (faultOf ss)

variable {α : Type}

/-- The fields of an object from its next field on; only the field `name` is kept, and it must not
come twice. Fields of other names may hold anything. -/
def fieldsFrom (name : Text) (value : Reader α) : Nat → Option α → Reader α
  | 0, _, _ => .error .notJson
  | fuel + 1, found, ss =>
    let next (found : Option α) : Reader α
      | .comma :: r => fieldsFrom name value fuel found r
      | .closeBrace :: r =>
        match found with
        | some a => .ok (a, r)
        | none => .error .otherShape
      | _ => .error .notJson
    match ss with
    | .string k :: r =>
      if k = name ∧ found.isSome then .error .otherShape
      else
        match r with
        | .colon :: r =>
          if k = name then
            match value r with
            | .ok (a, r) => next (some a) r
            | .error e => .error e
          else
            match Json.pass? r with
            | some r => next found r
            | none => .error .notJson
        | _ => .error .notJson
    | _ => .error .notJson

/-- One value, as the field `name` of an object or as the only item of a list. -/
def single (name : Text) (value : Reader α) : Reader α
  | .openBracket :: .closeBracket :: _ => .error .otherShape
  | .openBracket :: ss =>
    match value ss with
    | .ok (a, .closeBracket :: r) => .ok (a, r)
    | .ok _ => .error .notJson
    | .error e => .error e
  | .openBrace :: .closeBrace :: _ => .error .otherShape
  | .openBrace :: ss => fieldsFrom name value ss.length none ss
  | ss => .error (faultOf ss)

def run (read : Reader α) (body : Text) : Except BodyFault α :=
  match read (Json.symbols body) with
  | .ok (a, []) => .ok a
  | .ok _ => .error .notJson
  | .error e => .error e

end Reader

def readCommand (body : Text) : Except BodyFault Text :=
  (Reader.single "command".toList Reader.text).run body

def readCommands (body : Text) : Except BodyFault (List Text) :=
  (Reader.single "commands".toList Reader.texts).run body

end Textbase.Service
