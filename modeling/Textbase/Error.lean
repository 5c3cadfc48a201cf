import Textbase.Command.Basic
import Textbase.Token

/-! The ways in which a command can fail, and how each is put into words. -/
namespace Textbase

/-- What is wrong with a command whose verb is known. -/
inductive Fault
  | usage
  | badTableName (name : Text)
  | emptyField
  | unclosedQuote (e : UnclosedQuote)
  deriving DecidableEq, Repr

inductive FilterFault
  | missing
  | unclosedQuote (e : UnclosedQuote)
  deriving DecidableEq, Repr

inductive Error
  /-- No known verb; `head` is the beginning of the command. -/
  | unrecognized (head : Text)
  | malformed (verb : Verb) (fault : Fault)
  | malformedFilter (fault : FilterFault)
  | tableNotFound (table : Text)
  | arityMismatch (table : Text) (expected got : Nat)
  deriving DecidableEq, Repr

def Verb.title : Verb → Text
  | .create => "MAKE TABLE".toList
  | .insert => "INSERT".toList
  | .select => "SELECT".toList

def Verb.usage : Verb → Text
  | .create => "use make table <name> fields <field1>, <field2>, ...".toList
  | .insert => "use insert into <table> values <v1>, <v2>, ...".toList
  | .select => "use select * from <table> [where <predicate>]".toList

def Fault.message (verb : Verb) : Fault → Text
  | usage => verb.usage
  | badTableName name => "bad table name '".toList ++ name ++ "'".toList
  | emptyField => "field names cannot be empty".toList
  | unclosedQuote e => e.message

def FilterFault.message : FilterFault → Text
  | missing => "missing predicate after WHERE".toList
  | unclosedQuote e => e.message

namespace Error

def ofUnrecognized (command : Text) : Error := unrecognized (command.take 50)

def invalid (title detail : Text) : Text :=
  "Invalid ".toList ++ title ++ " syntax: ".toList ++ detail

def message : Error → Text
  | unrecognized head => "Unsupported command: ".toList ++ head
  | malformed verb fault => invalid verb.title (fault.message verb)
  | malformedFilter fault => invalid "WHERE".toList fault.message
  | tableNotFound t => "Table ".toList ++ t ++ " does not exist".toList
  | arityMismatch t expected got =>
    "Table ".toList ++ t ++ " expects ".toList ++ Text.ofNat expected ++ " values but got ".toList
      ++ Text.ofNat got

/-- One word for the kind of error, for programs to tell them apart. -/
def kind : Error → Text
  | unrecognized _ => "unrecognized_command".toList
  | malformed .. => "malformed_command".toList
  | malformedFilter _ => "malformed_command".toList
  | tableNotFound _ => "table_not_found".toList
  | arityMismatch .. => "arity_mismatch".toList

end Error

end Textbase
