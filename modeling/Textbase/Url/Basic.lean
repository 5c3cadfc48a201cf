import Textbase.Url.Encoding
import Textbase.Url.Ip

/-! Addresses of resources, in parts and as text. A session asks its service at an address that it
was given, and what it prints when nothing answers there is the fault of the address, or the address
in its one spelling. So all the rules for addresses have a place here, also those for names in other
scripts and for numbers in place of names. -/
namespace Textbase

inductive Url.Host
  | name (t : Text)
  | ipv4 (n : Nat)
  | ipv6 (groups : List Nat)
  deriving DecidableEq, Repr

structure Url.Authority where
  user : Text
  password : Option Text
  host : Url.Host
  portNumber : Option Nat
  deriving DecidableEq, Repr

structure Url where
  scheme : Text
  authority : Option Url.Authority
  path : Text
  query : Option Text
  fragment : Option Text
  deriving DecidableEq, Repr

namespace Url

def Host.write : Host → Text
  | name t => t
  | ipv4 n => Ipv4.write n
  | ipv6 gs => '[' :: Ipv6.write gs ++ [']']

namespace Authority

def hasCredentials (a : Authority) : Bool := !a.user.isEmpty || a.password.isSome

def credentials (a : Authority) : Text :=
  let password := match a.password with
    | some p => ':' :: p
    | none => []
  if a.hasCredentials then a.user ++ password ++ ['@'] else []

def write (a : Authority) : Text :=
  let portText := match a.portNumber with
    | some n => ':' :: Text.ofNat n
    | none => []
  a.credentials ++ a.host.write ++ portText

/-- The authority without credentials that can be sent in a header, because they are text. -/
def withoutCredentials (a : Authority) : Authority :=
  match decodeText? a.user with
  | none => a
  | some user =>
    if user.isEmpty && (a.password.bind decodeText?).isNone then a
    else ⟨[], none, a.host, a.portNumber⟩

end Authority

def withoutCredentials (u : Url) : Url :=
  ⟨u.scheme, u.authority.map Authority.withoutCredentials, u.path, u.query, u.fragment⟩

def writePart (mark : Char) : Option Text → Text
  | some t => mark :: t
  | none => []

/-- A path that would read as an authority is written after a dot. -/
def write (u : Url) : Text :=
  let front := match u.authority with
    | some a => "//".toList ++ a.write
    | none => if "//".toList.isPrefixOf u.path then "/.".toList else []
  u.scheme ++ ':' :: front ++ u.path ++ writePart '?' u.query ++ writePart '#' u.fragment

end Url

end Textbase
