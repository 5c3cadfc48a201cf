import Textbase.Text.Basic

/-! Media types, as in a `Content-Type` header. -/
namespace Textbase.Service

/-- A type such as `application/problem+json`; case does not matter in any part. -/
structure MediaType where
  type : Text
  subtype : Text
  suffix : Option Text

namespace MediaType

def isTokenChar (c : Char) : Bool := c.isAlphanum || "!#$%&'*+-.^_\x60|~".toList.contains c

inductive Place
  | nameStart | name | valueStart | value | quotedStart | quoted | afterQuoted
  deriving DecidableEq

def Place.next? (p : Place) (c : Char) : Option Place :=
  let shown := ' ' ≤ c ∧ c ≤ '~'
  match p with
  | nameStart => if c = ' ' then some nameStart else if isTokenChar c then some name else none
  | name => if c = '=' then some valueStart else if isTokenChar c then some name else none
  | valueStart => if c = '"' then some quotedStart else if isTokenChar c then some value else none
  | value => if c = ';' then some nameStart else if isTokenChar c then some value else none
  | quotedStart => if shown then some quoted else none
  | quoted => if c = '"' then some afterQuoted else if shown then some quoted else none
  | afterQuoted => if c = ';' then some nameStart else if c = ' ' then some afterQuoted else none

def Place.isEnd : Place → Bool
  | nameStart | valueStart | value | afterQuoted => true
  | name | quotedStart | quoted => false

def validParameters (t : Text) : Bool :=
  ((t.foldlM Place.next? .nameStart).map Place.isEnd).getD false

/-- The subtype and the suffix after its last plus sign, unless that starts it. -/
def splitSuffix (t : Text) : Text × Option Text :=
  let suffix := (t.reverse.takeWhile (· != '+')).reverse
  if suffix.length + 1 < t.length then (t.take (t.length - suffix.length - 1), some suffix)
  else (t, none)

/-- The media type that is the whole text; its parameters must be well formed and are dropped. -/
def read? (t : Text) : Option MediaType :=
  let type := t.takeWhile isTokenChar
  match t.dropWhile isTokenChar with
  | '/' :: u =>
    let subtype := u.takeWhile isTokenChar
    let parameters := u.dropWhile isTokenChar
    if type.isEmpty || subtype.isEmpty then none
    else if parameters.isEmpty || parameters.head? == some ';' && validParameters parameters.tail then
      some ⟨type, (splitSuffix subtype).1, (splitSuffix subtype).2⟩
    else none
  | _ => none

def isJson (m : MediaType) : Bool :=
  Text.sameFolded m.type "application".toList &&
    (Text.sameFolded m.subtype "json".toList ||
      m.suffix.any fun s => Text.sameFolded s "json".toList)

end MediaType

def announcesJson (contentType : Option Text) : Bool :=
  (contentType.bind MediaType.read?).any MediaType.isJson

end Textbase.Service
