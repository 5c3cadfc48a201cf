import Textbase.Proofs.Store.History
import Textbase.Service.Basic

/-! The service is one database. Every request is judged by rules that look at no database: it is
refused, or it asks for a report, for commands or for a reset. Whatever requests came before, the
database is the one on which the commands and resets of the accepted ones were performed in order,
and the replies tell what became of them. -/
namespace Textbase

namespace Database

end Database

namespace Service

def BodyFault.status : BodyFault → Nat
  | notJson => 400
  | otherShape => 422

namespace Request

/-- The target leads to the route, and the route takes the method. -/
structure Reaches (q : Request) (r : Route) : Prop where
  target : Route.ofTarget? q.target = some r
  method : r.allows q.method = true

/-- The body is announced as JSON and is not too long to be read. -/
structure OffersJson (q : Request) : Prop where
  type : announcesJson q.contentType = true
  size : Text.byteLength q.body ≤ bodyLimit

end Request

section Answers

variable {q : Request} {r : Route}

theorem answer_of_reaches (h : q.Reaches r) (db : Database) :
    answer db q = ((serve db q r).1,
      if q.method = .head then ⟨(serve db q r).2.status, []⟩ else (serve db q r).2) := by
  simp only [answer, h.target, h.method, if_true]

variable {α : Type} {read : Text → Except BodyFault α} {act : α → Database × Reply}

theorem withBody_ok (hj : q.OffersJson) {a : α} (hb : read q.body = .ok a) (db : Database) :
    withBody read q act db = act a := by
  have hf : Text.fitsBytes bodyLimit q.body = true := Text.fitsBytes_iff.2 hj.size
  simp [withBody, hj.type, hf, hb]

end Answers

def served (db : Database) (qs : List Request) : Database :=
  qs.foldl (fun db q => (answer db q).1) db

end Service

end Textbase
