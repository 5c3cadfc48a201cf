import Textbase.Url.Basic
import Textbase.Url.Domain
import Textbase.Url.Path

/-! Reading addresses. An address starts with its scheme; what is not allowed in a part is encoded,
and what has several spellings is given one of them. -/
namespace Textbase.Url

inductive Fault
  | noScheme | emptyHost | badName | badCharacter | badPort | badIpv4 | badIpv6
  deriving DecidableEq, Repr

def Fault.message : Fault → Text
  | noScheme => "relative URL without a base".toList
  | emptyHost => "empty host".toList
  | badName => "invalid international domain name".toList
  | badCharacter => "invalid domain character".toList
  | badPort => "invalid port number".toList
  | badIpv4 => "invalid IPv4 address".toList
  | badIpv6 => "invalid IPv6 address".toList

/-- Schemes with rules of their own: files, and those of the web. -/
inductive Kind
  | file | web | other
  deriving DecidableEq, Repr

def Kind.ofScheme (scheme : Text) : Kind :=
  if scheme = "file".toList then file
  else if ["http", "https", "ws", "wss", "ftp"].any fun s => scheme == s.toList then web
  else other

def Kind.isSpecial (k : Kind) : Bool := k != .other

def usualPort? (scheme : Text) : Option Nat :=
  if scheme = "http".toList ∨ scheme = "ws".toList then some 80
  else if scheme = "https".toList ∨ scheme = "wss".toList then some 443
  else if scheme = "ftp".toList then some 21
  else none

def isSchemeChar (c : Char) : Bool := c.isAlphanum || c == '+' || c == '-' || c == '.'

def splitScheme? (t : Text) : Option (Text × Text) :=
  match t.takeWhile isSchemeChar, t.dropWhile isSchemeChar with
  | c :: s, ':' :: u => if c.isAlpha then some (Text.foldAscii (c :: s), u) else none
  | _, _ => none

def splitAt (stop : Char → Bool) (t : Text) : Text × Text :=
  (t.takeWhile fun c => !stop c, t.dropWhile fun c => !stop c)

def splitPart (mark : Char) (t : Text) : Text × Option Text :=
  match splitAt (· == mark) t with
  | (s, []) => (s, none)
  | (s, _ :: u) => (s, some u)

/-- Host and port of an authority: the host ends at the first colon outside of brackets. -/
def splitHost (bracketed : Bool) : Text → Text × Text
  | [] => ([], [])
  | c :: t =>
    if c = ':' ∧ ¬bracketed then ([], c :: t)
    else
      let later := splitHost (c == '[' || bracketed && c != ']') t
      (c :: later.1, later.2)

/-- The credentials before the last at sign, if there is one, and what follows it. -/
def splitCredentials (t : Text) : Option Text × Text :=
  match splitAt (· == '@') t.reverse with
  | (_, []) => (none, t)
  | (s, _ :: u) => (some u.reverse, s.reverse)

def readIpv6 (t : Text) : Except Fault Host :=
  if t.getLast? = some ']' then
    match Ipv6.read? (t.dropLast.drop 1) with
    | some gs => .ok (.ipv6 gs)
    | none => .error .badIpv6
  else .error .badIpv6

/-- The host of a scheme of the web or of a file: a name, or a number for one. -/
def readNamedHost (t : Text) : Except Fault Host :=
  match Domain.toAscii? (decode t) with
  | none => .error .badName
  | some n =>
    if n.isEmpty then .error .emptyHost
    else if Ipv4.endsInNumber n then
      match Ipv4.read? n with
      | some a => .ok (.ipv4 a)
      | none => .error .badIpv4
    else .ok (.name n)

/-- Characters that no host holds, of whatever scheme. -/
def isForbiddenInHost (c : Char) : Bool := "\x00\t\n\r #/:<>?@[\\]^|".toList.contains c

def readOtherHost (t : Text) : Except Fault Host :=
  if t.any isForbiddenInHost then .error .badCharacter else .ok (.name (encodeOpaque t))

def readHost (k : Kind) (t : Text) : Except Fault Host :=
  if t.head? = some '[' then readIpv6 t
  else if k = .other then readOtherHost t
  else readNamedHost t

/-- A port after its colon; the usual one of the scheme need not be written. -/
def readPort (scheme t : Text) : Except Fault (Option Nat) :=
  if t.all Char.isDigit then
    let n := t.foldl (fun n c => 10 * n + (c.toNat - 48)) 0
    if n < UInt16.size then .ok (if t.isEmpty ∨ usualPort? scheme = some n then none else some n)
    else .error .badPort
  else .error .badPort

/-- User and password of credentials; an empty password is none. -/
def readCredentials (t : Text) : Text × Option Text :=
  match splitPart ':' t with
  | (user, none) => (encodeUser user, none)
  | (user, some []) => (encodeUser user, none)
  | (user, some p) => (encodeUser user, some (encodeUser p))

def readServer (scheme : Text) (k : Kind) (user : Text) (password : Option Text) (t : Text) :
    Except Fault (Authority × Text) := do
  let (hostText, u) := splitHost false t
  if hostText.isEmpty ∧ k ≠ .other then .error .emptyHost
  else
    let host ← readHost k hostText
    match u with
    | [] =>
      if hostText.isEmpty ∧ (¬user.isEmpty ∨ password.isSome) then .error .emptyHost
      else .ok (⟨user, password, host, none⟩, [])
    | _ :: v =>
      if hostText.isEmpty then .error .emptyHost
      else
        let (digits, rest) := splitAt (· == '\\') v
        let portNumber ← readPort scheme digits
        .ok (⟨user, password, host, portNumber⟩, rest)

def readAuthority (scheme : Text) (k : Kind) (t : Text) : Except Fault (Authority × Text) :=
  match splitCredentials t with
  | (none, t) => readServer scheme k [] none t
  | (some c, t) =>
    if c.isEmpty ∧ t.isEmpty then .error .emptyHost
    else readServer scheme k (readCredentials c).1 (readCredentials c).2 t

def readPath (k : Kind) (t : Text) : Text :=
  match t with
  | [] => if k = .other then [] else ['/']
  | c :: u =>
    if c = '/' ∨ (c = '\\' ∧ k ≠ .other) then joinSegments (segments k.isSpecial false u)
    else joinSegments (segments k.isSpecial false (c :: u))

def isSlash (c : Char) : Bool := c == '/' || c == '\\'

def fileSegments (t : Text) : List Text :=
  match t with
  | [] => segments true true []
  | c :: u => segments true true (if isSlash c then u else c :: u)

def filePath (ss : List Text) : Text := '/' :: (Text.joinWith ['/'] ss).dropWhile (· == '/')

/-- Host and path of a file. The machine itself is no host, and a drive at the start of the path is
on it. -/
def readFile (t : Text) : Except Fault (Authority × Text) :=
  let onMachine (t : Text) : Authority × Text :=
    (⟨[], none, .name [], none⟩, filePath (fileSegments t))
  match t with
  | a :: b :: u =>
    if isSlash a && isSlash b then
      let (hostText, rest) := splitAt isSlash u
      if hostText.isEmpty || isDrive hostText then .ok (onMachine u)
      else
        match readHost .file hostText with
        | .error e => .error e
        | .ok host =>
          let ss := fileSegments rest
          if host = .name "localhost".toList ∨ (ss.head?.any isDrive) then .ok (onMachine rest)
          else .ok (⟨[], none, host, none⟩, filePath ss)
    else .ok (onMachine t)
  | _ => .ok (onMachine t)

def readBody (scheme : Text) (t : Text) : Except Fault (Option Authority × Text) :=
  let withAuthority (k : Kind) (t : Text) : Except Fault (Option Authority × Text) := do
    let (serverText, rest) := splitAt (fun c => c == '/' || k.isSpecial && c == '\\') t
    let (authority, u) ← readAuthority scheme k serverText
    .ok (some authority, readPath k (u ++ rest))
  match Kind.ofScheme scheme with
  | .file => (readFile t).map fun (a, p) => (some a, p)
  | .web => withAuthority .web (t.dropWhile isSlash)
  | .other =>
    match t with
    | '/' :: '/' :: u => withAuthority .other u
    | '/' :: u => .ok (none, joinSegments (segments false false u))
    | u => .ok (none, encodeOpaque u)

/-- Controls and spaces around an address, and tabs and line ends in it, do not count. -/
def clean (t : Text) : Text :=
  let trimmed := (t.dropWhile (· ≤ ' ')).reverse.dropWhile (· ≤ ' ')
  trimmed.reverse.filter fun c => c != '\t' && c != '\n' && c != '\r'

def read (t : Text) : Except Fault Url :=
  match splitScheme? (clean t) with
  | none => .error .noScheme
  | some (scheme, u) => do
    let (u, fragment) := splitPart '#' u
    let (u, query) := splitPart '?' u
    let (authority, path) ← readBody scheme u
    let encodeThis := if (Kind.ofScheme scheme).isSpecial then encodeSpecialQuery else encodeQuery
    .ok ⟨scheme, authority, path, query.map encodeThis, fragment.map encodeFragment⟩

end Textbase.Url
