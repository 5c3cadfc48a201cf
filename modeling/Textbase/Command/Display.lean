import Textbase.Command.Basic
import Textbase.Text.Quoted

/-! Commands written out in full, for whoever wants to see how a text was read. -/
namespace Textbase

def Relation.name : Relation → Text
  | eq => "Eq".toList
  | ne => "NotEq".toList
  | gt => "Gt".toList
  | lt => "Lt".toList
  | ge => "Gte".toList
  | le => "Lte".toList

def displayRecord (name : Text) (parts : List (Text × Text)) : Text :=
  name ++ " \x7b ".toList ++
    Text.joinWith ", ".toList (parts.map fun (k, t) => k ++ ": ".toList ++ t) ++ " \x7d".toList

def displayList (ts : List Text) : Text :=
  '[' :: Text.joinWith ", ".toList (ts.map Text.quoted) ++ [']']

def Comparison.display (c : Comparison) : Text :=
  displayRecord "Predicate".toList [("column".toList, Text.quoted c.column),
    ("op".toList, c.relation.name), ("value".toList, Text.quoted c.literal)]

def Filter.display : Filter → Text
  | compare c => "Predicate(".toList ++ c.display ++ ")".toList
  | unmatched t => "Unmatched(".toList ++ Text.quoted t ++ ")".toList
  | and f g => displayRecord "Binary".toList [("left".toList, f.display),
      ("op".toList, "And".toList), ("right".toList, g.display)]
  | or f g => displayRecord "Binary".toList [("left".toList, f.display),
      ("op".toList, "Or".toList), ("right".toList, g.display)]

def Command.display : Command → Text
  | create t columns => displayRecord "Create".toList
      [("table".toList, Text.quoted t), ("columns".toList, displayList columns)]
  | insert t values => displayRecord "Insert".toList
      [("table".toList, Text.quoted t), ("values".toList, displayList values)]
  | select t filter => displayRecord "Select".toList
      [("table".toList, Text.quoted t), ("filter".toList,
        match filter with
        | none => "None".toList
        | some f => "Some(".toList ++ f.display ++ ")".toList)]

end Textbase
