import Textbase.Filter.Basic

/-! Commands, and the verbs they start with. -/
namespace Textbase

inductive Verb
  | create | insert | select
  deriving DecidableEq, Repr

inductive Command
  | create (table : Text) (columns : List Text)
  | insert (table : Text) (values : List Text)
  | select (table : Text) (filter : Option Filter)
  deriving DecidableEq, Repr

namespace Command

def table : Command → Text
  | create t _ => t
  | insert t _ => t
  | select t _ => t

def verb : Command → Verb
  | create .. => .create
  | insert .. => .insert
  | select .. => .select

end Command

end Textbase
