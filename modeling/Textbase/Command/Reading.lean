import Textbase.Filter.Reading

/-! Reading commands. -/
namespace Textbase

/-- The word at the start of a text, in lower case, and the text after it. -/
def Text.openingWord? (t : Text) : Option (Text × Text) :=
  let u := trimStart t
  let w := u.takeWhile isNameChar
  if w.isEmpty then none else some (lower w, u.dropWhile isNameChar)

/-- The verb of a command: its opening words decide, whatever follows. -/
def Verb.of? (t : Text) : Option Verb := do
  let (first, u) ← Text.openingWord? t
  let second := (Text.openingWord? u).map (·.1)
  if (first == "make".toList || first == "create".toList) && second == some "table".toList then
    some create
  else if first == "insert".toList && second == some "into".toList then some insert
  else if first == "select".toList then some select
  else none

namespace Token

def name? (t : Token) : Option Text :=
  match t.lexeme with
  | .word w => if !w.isEmpty && w.all Text.isNameChar then some w else none
  | _ => none

/-- The items between the commas of a run of tokens, as they are written; an item may be empty. -/
def items (source : Text) (ts : List Token) : List Text :=
  (ts.splitOnP fun t => t.lexeme == .comma).map fun item => Text.trim (sourceText source item)

end Token

namespace Command

def scan (verb : Verb) (t : Text) : Except Error (List Token) :=
  match Token.scan t with
  | .error e => .error (.malformed verb (.unclosedQuote e))
  | .ok ts => .ok ts

def tableName (verb : Verb) (t : Token) : Except Error Text :=
  match t.name? with
  | some n => .ok n
  | none => .error (.malformed verb (.badTableName t.text))

/-- A verb, the word `second`, a table, the word `fourth` and at least one token of a list: the
table and the items of the list. -/
def readList (verb : Verb) (second fourth : Text) (source : Text) (ts : List Token) :
    Except Error (Text × List Text) :=
  match ts with
  | _ :: joint :: name :: opener :: t :: rest =>
    if joint.isWord second then do
      let table ← tableName verb name
      if opener.isWord fourth then .ok (table, Token.items source (t :: rest))
      else .error (.malformed verb .usage)
    else .error (.malformed verb .usage)
  | _ => .error (.malformed verb .usage)

def readCreate (source : Text) : Except Error Command := do
  let ts ← scan .create source
  let (table, columns) ← readList .create "table".toList "fields".toList source ts
  if columns.any List.isEmpty then .error (.malformed .create .emptyField)
  else .ok (.create table columns)

def readInsert (source : Text) : Except Error Command := do
  let ts ← scan .insert source
  let (table, values) ← readList .insert "into".toList "values".toList source ts
  .ok (.insert table (values.map Value.unquote))

def readSelect (source : Text) : Except Error Command := do
  let ts ← scan .select source
  match ts with
  | _ :: star :: joint :: name :: rest =>
    if star.lexeme == .star && joint.isWord "from".toList then do
      let table ← tableName .select name
      match rest with
      | [] => .ok (.select table none)
      | t :: condition =>
        if t.isWord "where".toList then do
          let filter ← Filter.ofTokens source condition
          .ok (.select table (some filter))
        else .error (.malformed .select .usage)
    else .error (.malformed .select .usage)
  | _ => .error (.malformed .select .usage)

def parse (t : Text) : Except Error Command :=
  let source := Text.trim t
  match Verb.of? source with
  | none => .error (.ofUnrecognized source)
  | some .create => readCreate source
  | some .insert => readInsert source
  | some .select => readSelect source

end Command

end Textbase
