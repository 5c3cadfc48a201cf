import Textbase.Store.Schema
import Textbase.Tabular.Basic

/-! What a command that succeeded did. -/
namespace Textbase

inductive Outcome
  | created (table : Text) (columns : List Text)
  | inserted (table : Text)
  | selected (table : Text) (columns : List Text) (rows : List Row)
  deriving DecidableEq, Repr

namespace Outcome

def table : Outcome → Text
  | created t _ => t
  | inserted t => t
  | selected t _ _ => t

def kind : Outcome → Text
  | created .. => "create".toList
  | inserted _ => "insert".toList
  | selected .. => "select".toList

def message : Outcome → Text
  | created t columns =>
    "Table ".toList ++ t ++ " created with fields: ".toList ++ Text.joinWith ", ".toList columns
  | inserted t => "1 row inserted into ".toList ++ t
  | selected t _ rows => Text.ofNat rows.length ++ " row(s) selected from ".toList ++ t

def output : Outcome → Option Text
  | selected _ columns rows => some (Tabular.encode columns rows)
  | _ => none

def rowCount : Outcome → Option Nat
  | selected _ _ rows => some rows.length
  | _ => none

end Outcome

end Textbase
