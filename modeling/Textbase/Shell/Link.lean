import Textbase.Service.Basic
import Textbase.Url.Read

/-! The way to a service. A call is a request to an address, and the address decides whether it gets
to the service. When it does not, a session shows what is wrong with the address, or the address as
it was asked for in its one spelling; so addresses are read here by the rules for them. -/
namespace Textbase.Shell

inductive LinkError
  | badAddress (fault : Url.Fault)
  | foreignScheme (address : Text)
  | unresolved (address : Text)
  | unreachable (address reason : Text)
  | refused (address : Text) (status : Nat)
  | unexpectedReply
  deriving DecidableEq, Repr

namespace LinkError

def notSent (address detail : Text) : Text :=
  "error sending request for url (".toList ++ address ++ "): client error (Connect): ".toList ++
    detail

def message : LinkError → Text
  | badAddress fault => "builder error: ".toList ++ fault.message
  | foreignScheme address =>
    "builder error for url (".toList ++ address ++ "): URL scheme is not allowed".toList
  | unresolved address => notSent address
      ("dns error: failed to lookup address information: ".toList ++
        "Temporary failure in name resolution".toList)
  | unreachable address reason => notSent address ("tcp connect error: ".toList ++ reason)
  | refused address status =>
    "HTTP status client error (".toList ++ Service.statusLine status ++ ") for url (".toList ++
      address ++ ")".toList
  | unexpectedReply => "error decoding response body".toList

end LinkError

inductive Call
  | execute | tables | schemas | reset
  deriving DecidableEq, Repr

namespace Call

def method : Call → Service.Method
  | execute | reset => .post
  | tables | schemas => .get

def path : Call → Text
  | execute => "/api/execute".toList
  | tables => "/api/tables".toList
  | schemas => "/api/schemas".toList
  | reset => "/api/reset".toList

/-- The request that arrives when the address leads to `target`; a body is sent as JSON. -/
def request (c : Call) (target : Text) (body : Option Json) : Service.Request where
  method := c.method
  target := target
  contentType := body.map fun _ => "application/json".toList
  body := (body.map Json.write).getD []

end Call

/-- Where an address leads: what is asked for there, and how the address is shown. -/
structure Destination where
  shown : Text
  target : Text
  deriving DecidableEq, Repr

structure Link where
  route : Text → Except LinkError Destination
  db : Database

namespace Link

/-- A reply comes with its address as it is shown. -/
def send (l : Link) (base : Text) (c : Call) (body : Option Json) :
    Link × Except LinkError (Text × Service.Reply) :=
  match l.route (base ++ c.path) with
  | .error e => (l, .error e)
  | .ok d =>
    let (after, reply) := Service.answer l.db (c.request d.target body)
    (⟨l.route, after⟩, .ok (d.shown, reply))

/-- Whether a host is found without asking for its address. -/
def isNear : Url.Host → Bool
  | .name n => n == "localhost".toList
  | _ => true

/-- Where addresses lead when a service listens at some hosts and ports, and other machines cannot
be reached. Credentials in an address are not shown. -/
def routeTo (listens : Url.Host → Nat → Bool) (reason address : Text) :
    Except LinkError Destination :=
  match Url.read address with
  | .error e => .error (.badAddress e)
  | .ok u =>
    let shown := u.withoutCredentials.write
    if u.scheme ≠ "http".toList ∧ u.scheme ≠ "https".toList then .error (.foreignScheme shown)
    else if u.scheme = "http".toList ∧
        u.authority.any fun a => listens a.host (a.portNumber.getD 80) then
      .ok ⟨shown, u.path ++ Url.writePart '?' u.query⟩
    else if u.authority.any fun a => isNear a.host then .error (.unreachable shown reason)
    else .error (.unresolved shown)

def down (reason : Text) : Link := ⟨routeTo (fun _ _ => false) reason, .empty⟩

def listening (host : Url.Host) (portNumber : Nat) (reason : Text) (db : Database) : Link :=
  ⟨routeTo (fun h n => h == host && n == portNumber) reason, db⟩

end Link

end Textbase.Shell
