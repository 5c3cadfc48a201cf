import Textbase.Command.Display
import Textbase.Shell.Batch
import Textbase.Shell.Files
import Textbase.Shell.Settings

/-! Sessions: lines of input, one instruction on each, and what they print and write. -/
namespace Textbase.Shell

inductive Instruction
  | nothing | quit | help | tables | reset
  | schema (table : Text)
  | parse (command : Text)
  | batch (file : Text)
  | execute (command : Text)
  deriving DecidableEq, Repr

namespace Instruction

/-- What follows the keyword and whitespace, if a trimmed line starts with them. -/
def argument? (keyword l : Text) : Option Text :=
  match l.dropWhile (fun c => !Text.isSpace c) with
  | [] => none
  | _ :: rest =>
    if Text.sameFolded (l.takeWhile fun c => !Text.isSpace c) keyword then some (Text.trim rest)
    else none

/-- Keywords count whatever their case; a line without one is a command. -/
def ofLine (line : Text) : Instruction :=
  let l := Text.trim line
  if l.isEmpty then nothing
  else if Text.sameFolded l "exit".toList || Text.sameFolded l "quit".toList then quit
  else if Text.sameFolded l "help".toList then help
  else if Text.sameFolded l "tables".toList then tables
  else if Text.sameFolded l "reset".toList then reset
  else
    match argument? "schema".toList l, argument? "parse".toList l, argument? "batch".toList l with
    | some t, _, _ => schema t
    | _, some t, _ => parse t
    | _, _, some t => batch t
    | _, _, _ => execute l

end Instruction

/-- What a session does to the world: text for both outputs, and changes to files. -/
structure Effect where
  out : Text
  err : Text
  files : List FileAction

namespace Effect

def none : Effect := ⟨[], [], []⟩

def print (t : Text) : Effect := ⟨t, [], []⟩

def printLine (t : Text) : Effect := print (t ++ ['\n'])

def complain (t : Text) : Effect := ⟨[], t ++ ['\n'], []⟩

def append (e f : Effect) : Effect := ⟨e.out ++ f.out, e.err ++ f.err, e.files ++ f.files⟩

instance : Append Effect := ⟨append⟩

end Effect

def helpLines : List Text := [
  "Commands:".toList,
  "  make table <name> fields <a>, <b>, ...".toList,
  "  insert into <name> values <v1>, <v2>, ...".toList,
  "  select * from <name> [where <col> <op> <value> [and|or ...]]".toList,
  "  tables        -> list tables".toList,
  "  schema <name> -> show a table's fields".toList,
  "  parse <cmd>   -> show parsed Command (debug)".toList,
  "  batch <file>  -> run a script file and save a transcript".toList,
  "  reset         -> drop every table".toList,
  "  exit|quit     -> quit".toList,
  "  help          -> help".toList,
  "  (anything else is executed)".toList]

def printLines (ts : List Text) : Effect := .print (ts.flatMap fun t => t ++ ['\n'])

def report {α : Type} (shown : α → Effect) : Except TargetError α → Effect
  | .ok a => shown a
  | .error e => .complain e.message

def showTables (names : List Text) : Effect :=
  if names.isEmpty then .printLine "(no tables)".toList else printLines names

def showSchema (table : Text) : Option Columns → Effect
  | none => .printLine ("Table ".toList ++ table ++ " does not exist".toList)
  | some columns => printLines (columns.map fun (c, type) => "  ".toList ++ c ++ ' ' :: type)

def showParse : Except Error Command → Effect
  | .ok c => .printLine ("Parsed as: ".toList ++ c.display)
  | .error e => .complain ("Parse error: ".toList ++ e.message)

def showTally (path : Text) (t : Batch.Tally) : Effect :=
  .printLine ("Batch done: ".toList ++ Text.ofNat t.succeeded ++ " succeeded, ".toList ++
    Text.ofNat t.failed ++ " failed. Transcript: ".toList ++ path)

def decodeText? (content : ByteArray) : Option Text := (String.fromUTF8? content).map String.toList

theorem decodeText?_toUTF8 (t : Text) : decodeText? (String.ofList t).toUTF8 = some t := by
  have h : String.fromUTF8? (String.ofList t).toUTF8 = some (String.ofList t) :=
    dif_pos (String.ofList t).isValidUTF8
  rw [decodeText?, h, Option.map_some, String.toList_ofList]

inductive Next
  | goesOn (target : Target)
  | ended
  /-- The program breaks off, because a response cannot be shown. -/
  | panicked

def showResult : Target × Except TargetError Response → Next × Effect
  | (after, .error e) => (.goesOn after, .complain e.message)
  | (after, .ok r) =>
    match r.render? with
    | some shown => (.goesOn after, .printLine shown)
    | none => (.panicked, .none)

/-- Runs a batch file, after its transcript was given a place. The transcript is written even when
the run ends early. -/
def runBatch (s : Settings) (stamp : Text) (disk : Disk) (target : Target) (name : Text) :
    Next × Effect :=
  match Batch.source? disk.read? name with
  | none => (.goesOn target, .complain ("Batch file not found: ".toList ++ name))
  | some (source, content) =>
    match decodeText? content with
    | none => (.goesOn target, .complain ("failed to read batch file ".toList ++ source ++
        ": stream did not contain valid UTF-8".toList))
    | some script =>
      let folder := Batch.transcriptFolder s.outputDirectory stamp source
      let path := Batch.transcriptPath s.outputDirectory stamp source
      match disk.barrier? folder path with
      | some (p, fault) =>
        (.goesOn target, ⟨[], "failed to create ".toList ++ p ++ ": ".toList ++ fault.message ++
          ['\n'], [.makeFolder folder]⟩)
      | none =>
        let run := Batch.run target script
        let told : Effect :=
          ⟨run.transcript, [], [.makeFolder folder, .write path run.transcript]⟩
        match run.result with
        | .done tally => (.goesOn run.target, told ++ showTally path tally)
        | .unanswered e => (.goesOn run.target, told ++ .complain e.message)
        | .panicked => (.panicked, told)

def perform (s : Settings) (stamp : Text) (disk : Disk) (target : Target) :
    Instruction → Next × Effect
  | .nothing => (.goesOn target, .none)
  | .quit => (.ended, .none)
  | .help => (.goesOn target, printLines helpLines)
  | .tables =>
    let (after, r) := target.tables
    (.goesOn after, report showTables r)
  | .reset =>
    let (after, r) := target.reset
    (.goesOn after, report (fun _ => .printLine "All tables dropped".toList) r)
  | .schema t =>
    let (after, r) := target.schema t
    (.goesOn after, report (showSchema t) r)
  | .parse t => (.goesOn target, showParse (Command.parse t))
  | .batch t => runBatch s stamp disk target t
  | .execute t => showResult (target.execute t)

/-- A line of input; its text is missing when the bytes are no UTF-8. -/
abbrev Line := Option Text

def readLine (s : Settings) (stamp : Text) (disk : Disk) (target : Target) :
    Line → Next × Effect
  | none => (.goesOn target, .printLine "Failed to read input".toList)
  | some t => perform s stamp disk target (.ofLine t)

def banner (s : Settings) : Effect :=
  match s.server with
  | none => .printLine "txt2db_cli (type 'help' or 'exit')".toList
  | some base =>
    .printLine ("txt2db_cli connected to ".toList ++ base ++ " (type 'help' or 'exit')".toList)

def prompt : Effect := .print "txt2db> ".toList

def openTarget (s : Settings) (link : Link) : Target :=
  match s.server with
  | none => .own .empty
  | some base => .service base link

def Effect.applyTo (e : Effect) (fs : Files) : Files := e.files.foldl .apply fs

structure Ending where
  exitCode : Nat
  effect : Effect

def panicCode : Nat := 101

/-- The error output at the end. The runtime adds a notice when the program broke off; its wording
names a thread by a number. -/
def Ending.stderr (e : Ending) (notice : Text) : Text :=
  if e.exitCode = panicCode then e.effect.err ++ notice else e.effect.err

def Ending.after (before : Effect) (e : Ending) : Ending := ⟨e.exitCode, before ++ e.effect⟩

def runLines (s : Settings) (stamp : Text) (fs : Files) (target : Target) : List Line → Ending
  | [] => ⟨0, prompt⟩
  | l :: ls =>
    match readLine s stamp fs.disk target l with
    | (.goesOn after, e) => (runLines s stamp (e.applyTo fs) after ls).after (prompt ++ e)
    | (.ended, e) => ⟨0, prompt ++ e⟩
    | (.panicked, e) => ⟨panicCode, prompt ++ e⟩

def run (s : Settings) (stamp : Text) (link : Link) (fs : Files) (ls : List Line) : Ending :=
  (runLines s stamp fs (openTarget s link) ls).after (banner s)

/-- The bytes up to each line feed, and what follows the last one if there is anything; `line` holds
the current line so far, last byte first. -/
def splitBytes (line : List UInt8) : List UInt8 → List (List UInt8)
  | [] => if line.isEmpty then [] else [line.reverse]
  | x :: xs => if x = 10 then line.reverse :: splitBytes [] xs else splitBytes (x :: line) xs

def linesOfBytes (input : ByteArray) : List Line :=
  (splitBytes [] input.toList).map fun l => decodeText? ⟨l.toArray⟩

def program (env : Environment) (stamp : Text) (link : Link) (fs : Files) (input : ByteArray) :
    Ending :=
  run (.ofEnvironment env) stamp link fs (linesOfBytes input)

end Textbase.Shell
