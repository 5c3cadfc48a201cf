import Textbase.Json.Quoted
import Textbase.Number.Decimal

/-! JSON values and their compact text. -/
namespace Textbase

/-- A number keeps its literal, since a reader may care whether it has a fraction; an object keeps
its fields in order. -/
inductive Json
  | null
  | bool (b : Bool)
  | number (literal : Text)
  | string (s : Text)
  | array (items : List Json)
  | object (fields : List (Text × Json))
  deriving Repr

namespace Json

def ofNat (n : Nat) : Json := .number (Text.ofNat n)

def ofTexts (ts : List Text) : Json := .array (ts.map .string)

mutual

def write : Json → Text
  | null => "null".toList
  | bool b => if b then "true".toList else "false".toList
  | number literal => literal
  | string s => quote s
  | array xs => '[' :: writeItems xs ++ [']']
  | object fs => '{' :: writeFields fs ++ ['}']

def writeItems : List Json → Text
  | [] => []
  | [x] => write x
  | x :: y :: xs => write x ++ ',' :: writeItems (y :: xs)

def writeFields : List (Text × Json) → Text
  | [] => []
  | [(k, x)] => quote k ++ ':' :: write x
  | (k, x) :: f :: fs => quote k ++ ':' :: write x ++ ',' :: writeFields (f :: fs)

end

/-- The field of that name; the last one where a name is repeated. -/
def get? (name : Text) : Json → Option Json
  | object fs => fs.reverse.lookup name
  | _ => none

def repeats (name : Text) : Json → Bool
  | object fs => 1 < fs.countP fun f => f.1 == name
  | _ => false

/-- The field of that name, unless the name is repeated. -/
def only? (name : Text) (x : Json) : Option Json := if x.repeats name then none else x.get? name

def text? : Json → Option Text
  | string s => some s
  | _ => none

def items? : Json → Option (List Json)
  | array xs => some xs
  | _ => none

def texts? (x : Json) : Option (List Text) := x.items?.bind (·.mapM text?)

/-- An integer literal without sign, fraction or exponent. -/
def natural? : Json → Option Nat
  | number literal => if literal.all Char.isDigit then some (Decimal.natOfDigits literal) else none
  | _ => none

end Json

end Textbase
