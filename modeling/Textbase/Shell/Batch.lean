import Textbase.Shell.Path
import Textbase.Shell.Target

/-! Batches: a script file run line by line, with a transcript of all that is shown. -/
namespace Textbase.Shell.Batch

/-- The paths that a name may stand for, in the order in which they are tried. -/
def candidates (name : Text) : List Text :=
  if (Path.extension? name).isNone then [name, Path.addExtension name "txt".toList] else [name]

def source? (read? : Text → Option ByteArray) (name : Text) : Option (Text × ByteArray) :=
  (candidates name).findSome? fun p => (read? p).map (p, ·)

/-- Only ASCII letters, digits, hyphens and underscores stay as they are. -/
def folderName (t : Text) : Text :=
  t.map fun c => if c.isAlphanum || c == '-' || c == '_' then c else '_'

def stem (source : Text) : Text := (Path.stem? source).getD "batch".toList

def transcriptFolder (outputDirectory stamp source : Text) : Text :=
  Path.join outputDirectory ("batch_".toList ++ stamp ++ '_' :: folderName (stem source))

def transcriptPath (outputDirectory stamp source : Text) : Text :=
  Path.join (transcriptFolder outputDirectory stamp source) (stem source ++ "_output.txt".toList)

structure Tally where
  succeeded : Nat
  failed : Nat
  deriving DecidableEq, Repr

def Tally.count (t : Tally) (r : Response) : Tally :=
  if r.isError then ⟨t.succeeded, t.failed + 1⟩ else ⟨t.succeeded + 1, t.failed⟩

def block? (index : Nat) (command : Text) (r : Response) : Option Text :=
  r.render?.map fun shown =>
    '[' :: Text.ofNat index ++ "] ".toList ++ command ++ '\n' :: shown ++ "\n\n".toList

inductive Result
  | done (tally : Tally)
  | unanswered (e : TargetError)
  /-- There was a response that cannot be shown. -/
  | panicked

structure Run where
  target : Target
  transcript : Text
  result : Result

/-- Runs lines; the next command has position `index`. -/
def runLines (target : Target) (index : Nat) (tally : Tally) : List ScriptLine → Run
  | [] => ⟨target, [], .done tally⟩
  | .comment t :: ls =>
    let later := runLines target index tally ls
    ⟨later.target, t ++ '\n' :: later.transcript, later.result⟩
  | .command t :: ls =>
    match target.execute t with
    | (after, .error e) => ⟨after, [], .unanswered e⟩
    | (after, .ok r) =>
      match block? index t r with
      | none => ⟨after, [], .panicked⟩
      | some shown =>
        let later := runLines after (index + 1) (tally.count r) ls
        ⟨later.target, shown ++ later.transcript, later.result⟩

def run (target : Target) (script : Text) : Run :=
  runLines target 1 ⟨0, 0⟩ (Script.lines script)

end Textbase.Shell.Batch
