import Std.Time.Zoned
import Textbase.Shell.Session
import Textbase.Shell.Stamp

/-! The program: one session over standard input and the files of the machine. It has no network
of its own, so the way to a service is always barred. -/
namespace Textbase.Main

def environment : IO Environment :=
  ["TXT2DB_SERVER", "TXT2DB_OUTPUT_DIR", "TXT2DB_LOG"].filterMapM fun name => do
    return (← IO.getEnv name).map fun value => (name.toList, value.toList)

def stamp : IO Text := do
  let now ← Std.Time.PlainDateTime.now
  return Shell.Moment.stamp ⟨now.year.toInt.toNat, now.month.val.toNat, now.day.val.toNat,
    now.hour.val.toNat, now.minute.val.toNat⟩

/-- The bytes up to the next line feed, with it. -/
partial def readBytes (input : IO.FS.Stream) (line : ByteArray) : IO ByteArray := do
  let next ← input.read 1
  if next.isEmpty then return line
  if next.toList == [10] then return line ++ next
  readBytes input (line ++ next)

def readFile? (path : Text) : IO (Option ByteArray) := do
  try
    return some (← IO.FS.readBinFile (String.ofList path))
  catch _ => return none

def barrier? (action : IO Unit) : IO (Option Shell.FileFault) := do
  try
    action
    return none
  catch e => return some (.other (toString e).toList)

/-- What an instruction may need to know of the files. The folder of a transcript is made here, to
find out whether it can be. -/
def diskFor (s : Shell.Settings) (stamp : Text) : Shell.Instruction → IO Shell.Disk
  | .batch name => do
    let found ← (Shell.Batch.candidates name).filterMapM fun path => do
      return (← readFile? path).map (path, ·)
    let fault ← match Shell.Batch.source? (fun path => found.lookup path) name with
      | none => pure none
      | some (source, _) =>
        barrier? (IO.FS.createDirAll
          (String.ofList (Shell.Batch.transcriptFolder s.outputDirectory stamp source)))
    return ⟨fun path => found.lookup path, fun folder _ => fault.map (folder, ·)⟩
  | _ => return ⟨fun _ => none, fun _ _ => none⟩

def act : Shell.FileAction → IO Unit
  | .makeFolder path => do discard (barrier? (IO.FS.createDirAll (String.ofList path)))
  | .write path content => IO.FS.writeFile (String.ofList path) (String.ofList content)

def carryOut (e : Shell.Effect) : IO Unit := do
  e.files.forM act
  IO.print (String.ofList e.out)
  IO.eprint (String.ofList e.err)
  (← IO.getStdout).flush

/-- The exit code, after all lines of the input. -/
partial def loop (s : Shell.Settings) (target : Shell.Target) : IO Nat := do
  carryOut Shell.prompt
  let bytes ← readBytes (← IO.getStdin) .empty
  if bytes.isEmpty then return 0
  let line := Shell.decodeText? bytes
  let now ← stamp
  let disk ← diskFor s now ((line.map .ofLine).getD .nothing)
  let (next, e) := Shell.readLine s now disk target line
  carryOut e
  match next with
  | .goesOn after => loop s after
  | .ended => return 0
  | .panicked => return Shell.panicCode

def run : IO Nat := do
  let s := Shell.Settings.ofEnvironment (← environment)
  carryOut (Shell.banner s)
  loop s (Shell.openTarget s (.down "Network is unreachable (os error 101)".toList))

end Textbase.Main

def main : IO UInt32 := return (← Textbase.Main.run).toUInt32
