import Textbase.Text.Basic

/-! Targets of requests: a path with a query after it, or a whole address that holds them. -/
namespace Textbase.Service.RequestTarget

def isSchemeChar (c : Char) : Bool := c.isAlphanum || c == '+' || c == '-' || c == '.'

def afterScheme? (t : Text) : Option Text :=
  match t.dropWhile isSchemeChar with
  | ':' :: '/' :: '/' :: u => some u
  | _ => none

/-- The path that a target names; a query or fragment after it does not count. -/
def path? (t : Text) : Option Text :=
  let u := t.takeWhile fun c => c != '?' && c != '#'
  if u.head? = some '/' then some u
  else (afterScheme? u).map fun v =>
    match v.dropWhile (· != '/') with
    | [] => ['/']
    | p => p

end Textbase.Service.RequestTarget
