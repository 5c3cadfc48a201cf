import Textbase.Text.Basic

/-! What a session needs of the machine's files. -/
namespace Textbase.Shell

inductive FileFault
  | notFound | exists | notFolder | nameTooLong
  | other (reason : Text)
  deriving DecidableEq, Repr

def FileFault.message : FileFault → Text
  | notFound => "No such file or directory (os error 2)".toList
  | «exists» => "File exists (os error 17)".toList
  | notFolder => "Not a directory (os error 20)".toList
  | nameTooLong => "File name too long (os error 36)".toList
  | other reason => reason

inductive FileAction
  /-- Makes a folder and those above it, as far as that can be done. -/
  | makeFolder (path : Text)
  | write (path content : Text)
  deriving DecidableEq, Repr

structure Disk where
  /-- The content of the file at a path. -/
  read? : Text → Option ByteArray
  /-- Which of a folder and a file in it cannot be made, and why. -/
  barrier? : Text → Text → Option (Text × FileFault)

end Textbase.Shell
