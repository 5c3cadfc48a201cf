import Textbase.Text.Basic

/-! Paths of files, with slashes between their parts. -/
namespace Textbase.Shell.Path

def parts (p : Text) : List Text := p.splitOn '/'

def steps (p : Text) : List Text := (parts p).filter fun x => x ≠ [] ∧ x ≠ ['.']

/-- The part that names the file; empty parts and single dots do not count. -/
def fileName? (p : Text) : Option Text :=
  match (steps p).getLast? with
  | none => none
  | some x => if x = ['.', '.'] then none else some x

/-- A file name without its last dot and what follows, and what follows; a name has no extension
when its only dot comes first. -/
def splitExtension (name : Text) : Text × Option Text :=
  let extension := (name.reverse.takeWhile (· != '.')).reverse
  if extension.length + 1 < name.length then
    (name.take (name.length - extension.length - 1), some extension)
  else (name, none)

def stem? (p : Text) : Option Text := (fileName? p).map fun n => (splitExtension n).1

def extension? (p : Text) : Option Text := (fileName? p).bind fun n => (splitExtension n).2

/-- A reversed path from the end of its file name on. -/
def dropTail : Text → Text
  | '/' :: r => dropTail r
  | '.' :: '/' :: r => dropTail ('/' :: r)
  | r => r
termination_by r => r.length
decreasing_by
  · exact Nat.lt_succ_self _
  · exact Nat.lt_succ_self _

def addExtension (p extension : Text) : Text :=
  if (fileName? p).isSome then (dropTail p.reverse).reverse ++ '.' :: extension else p

def join (directory name : Text) : Text :=
  if directory.isEmpty then name
  else if directory.getLast? == some '/' then directory ++ name
  else directory ++ '/' :: name

/-- Whether steps, taken from `depth` folders below a directory, never leave the directory. -/
def stayInside (depth : Nat) : List Text → Bool
  | [] => true
  | x :: xs =>
    if x = ['.', '.'] then depth != 0 && stayInside (depth - 1) xs else stayInside (depth + 1) xs

def isInside (p : Text) : Bool := p.head? != some '/' && stayInside 0 (steps p)

end Textbase.Shell.Path
