import Textbase.Proofs.Shell.Exchange
import Textbase.Proofs.Store.Reachable
import Textbase.Shell.Session

/-! A session cannot tell a service from a database of its own. As long as every command fits into a
request, the same lines lead to the same answers, so all that is printed, complained of and written
is the same, but for the line that names the service. -/
namespace Textbase.Shell

def FitsRequest (command : Text) : Prop :=
  Text.byteLength (commandJson command).write ≤ Service.bodyLimit

instance (command : Text) : Decidable (FitsRequest command) := Nat.decLe _ _

/-- The script that a batch runs, if its file can be read and its transcript has a place. -/
def Batch.script? (s : Settings) (stamp : Text) (disk : Disk) (name : Text) : Option Text := do
  let (source, content) ← Batch.source? disk.read? name
  let script ← decodeText? content
  match disk.barrier? (Batch.transcriptFolder s.outputDirectory stamp source)
      (Batch.transcriptPath s.outputDirectory stamp source) with
  | some _ => none
  | none => some script

def Instruction.commands (s : Settings) (stamp : Text) (disk : Disk) : Instruction → List Text
  | .execute t => [t]
  | .batch name => ((Batch.script? s stamp disk name).map Script.commands).getD []
  | _ => []

def lineCommands (s : Settings) (stamp : Text) (disk : Disk) : Line → List Text
  | none => []
  | some t => (Instruction.ofLine t).commands s stamp disk

/-- The commands that the lines of a session have the target run. A transcript may be run in turn,
so they depend on the answers. -/
def sessionCommands (s : Settings) (stamp : Text) (fs : Files) (target : Target) :
    List Line → List Text
  | [] => []
  | l :: ls =>
    let (next, e) := readLine s stamp fs.disk target l
    lineCommands s stamp fs.disk l ++
      match next with
      | .goesOn after => sessionCommands s stamp (e.applyTo fs) after ls
      | .ended | .panicked => []

/-- What a step does with a database of the session's own, and what it does with a service over the
same database: the same is to be seen, and the program breaks off in both cases or in none. The
databases stay the same, so they stay reachable. -/
inductive Alike (base : Text) (link : Link) : Next × Effect → Next × Effect → Prop
  | goesOn {db : Database} (h : db.Reachable) (e : Effect) :
      Alike base link (.goesOn (.own db), e) (.goesOn (.service base (link.over db)), e)
  | ended (e : Effect) : Alike base link (.ended, e) (.ended, e)
  | panicked (e : Effect) : Alike base link (.panicked, e) (.panicked, e)

section Step

variable {base : Text} {link : Link} (hleads : link.Leads base) {db : Database}

include hleads

theorem Batch.runLines_service (h : db.Reachable) (index : Nat) (tally : Batch.Tally)
    {ls : List ScriptLine} (hfits : ∀ t ∈ ls.filterMap ScriptLine.command?, FitsRequest t) :
    let own := Batch.runLines (.own db) index tally ls
    ∃ after : Database, after.Reachable ∧ own.target = .own after ∧
      Batch.runLines (.service base (link.over db)) index tally ls =
        ⟨.service base (link.over after), own.transcript, own.result⟩ := by
  induction ls generalizing db index tally with
  | nil => exact ⟨db, h, rfl, rfl⟩
  | cons l ls ih =>
    cases l with
    | comment t =>
      obtain ⟨after, hafter, htarget, hrun⟩ := ih h index tally hfits
      refine ⟨after, hafter, htarget, ?_⟩
      simp only [Batch.runLines, hrun]
    | command t =>
      have ht : FitsRequest t := hfits t (by simp [ScriptLine.command?])
      have hlater : ∀ u ∈ ls.filterMap ScriptLine.command?, FitsRequest u :=
        fun u hu => hfits u (List.mem_cons_of_mem _ hu)
      have hservice := Target.execute_service (hleads.over db) ht
      simp only [Link.db_over, Link.over_over] at hservice
      simp only [Batch.runLines, hservice, Target.execute_own]
      cases Batch.block? index t (.ofResult (db.execute t).2) with
      | none => exact ⟨_, h.execute t, rfl, rfl⟩
      | some shown =>
        obtain ⟨after, hafter, htarget, hrun⟩ := ih (h.execute t) (index + 1)
          (tally.count (.ofResult (db.execute t).2)) hlater
        refine ⟨after, hafter, htarget, ?_⟩
        simp only [hrun]

theorem showResult_service (h : db.Reachable) {t : Text} (hfits : FitsRequest t) :
    Alike base link (showResult (Target.execute (.own db) t))
      (showResult (Target.execute (.service base (link.over db)) t)) := by
  have hservice := Target.execute_service (hleads.over db) hfits
  simp only [Link.db_over, Link.over_over] at hservice
  rw [hservice, Target.execute_own]
  simp only [showResult]
  cases (Response.ofResult (db.execute t).2).render? with
  | none => exact .panicked _
  | some shown => exact .goesOn (h.execute t) _

variable {s s' : Settings} {stamp : Text} {disk : Disk}

theorem runBatch_service (hs : s'.outputDirectory = s.outputDirectory) (h : db.Reachable)
    {name : Text} (hfits : ∀ t ∈ (Instruction.batch name).commands s stamp disk, FitsRequest t) :
    Alike base link (runBatch s stamp disk (.own db) name)
      (runBatch s' stamp disk (.service base (link.over db)) name) := by
  cases hsource : Batch.source? disk.read? name with
  | none =>
    simp only [runBatch, hsource]
    exact .goesOn h _
  | some found =>
    obtain ⟨source, content⟩ := found
    cases htext : decodeText? content with
    | none =>
      simp only [runBatch, hsource, htext]
      exact .goesOn h _
    | some script =>
      cases hplace : disk.barrier? (Batch.transcriptFolder s.outputDirectory stamp source)
          (Batch.transcriptPath s.outputDirectory stamp source) with
      | some fault =>
        simp only [runBatch, hsource, htext, hs, hplace]
        exact .goesOn h _
      | none =>
        have hscript : Batch.script? s stamp disk name = some script := by
          simp [Batch.script?, hsource, htext, hplace]
        simp only [Instruction.commands, hscript, Option.map_some, Option.getD_some] at hfits
        obtain ⟨after, hafter, htarget, hrun⟩ :=
          Batch.runLines_service hleads h 1 ⟨0, 0⟩ hfits
        simp only [runBatch, hsource, htext, hs, hplace, Batch.run, hrun, htarget]
        cases (Batch.runLines (.own db) 1 ⟨0, 0⟩ (Script.lines script)).result with
        | done tally => exact .goesOn hafter _
        | unanswered e => exact .goesOn hafter _
        | panicked => exact .panicked _

theorem perform_service (hs : s'.outputDirectory = s.outputDirectory) (h : db.Reachable)
    {i : Instruction} (hfits : ∀ t ∈ i.commands s stamp disk, FitsRequest t) :
    Alike base link (perform s stamp disk (.own db) i)
      (perform s' stamp disk (.service base (link.over db)) i) := by
  have hover := hleads.over db
  cases i with
  | nothing => exact .goesOn h _
  | quit => exact .ended _
  | help => exact .goesOn h _
  | parse t => exact .goesOn h _
  | tables =>
    simp only [perform, Target.tables_service hover, Target.tables_own]
    exact .goesOn h _
  | reset =>
    simp only [perform, Target.reset_service hover, Target.reset_own]
    exact .goesOn h.reset _
  | schema t =>
    simp only [perform, Target.schema_service hover h.wellFormed, Target.schema_own]
    exact .goesOn h _
  | execute t => exact showResult_service hleads h (hfits t List.mem_cons_self)
  | batch name => exact runBatch_service hleads hs h hfits

theorem readLine_service (hs : s'.outputDirectory = s.outputDirectory) (h : db.Reachable)
    {l : Line} (hfits : ∀ t ∈ lineCommands s stamp disk l, FitsRequest t) :
    Alike base link (readLine s stamp disk (.own db) l)
      (readLine s' stamp disk (.service base (link.over db)) l) := by
  cases l with
  | none => exact .goesOn h _
  | some t => exact perform_service hleads hs h hfits

end Step

theorem runLines_service {base : Text} {link : Link} (hleads : link.Leads base) {s s' : Settings}
    (hs : s'.outputDirectory = s.outputDirectory) {stamp : Text} {fs : Files} {db : Database}
    (h : db.Reachable) {ls : List Line}
    (hfits : ∀ t ∈ sessionCommands s stamp fs (.own db) ls, FitsRequest t) :
    runLines s' stamp fs (.service base (link.over db)) ls =
      runLines s stamp fs (.own db) ls := by
  induction ls generalizing fs db with
  | nil => rfl
  | cons l ls ih =>
    have hline : ∀ t ∈ lineCommands s stamp fs.disk l, FitsRequest t :=
      fun t ht => hfits t (List.mem_append_left _ ht)
    have halike := readLine_service hleads hs h hline
    simp only [sessionCommands] at hfits
    simp only [runLines]
    -- From here on it only matters that the two steps are alike.
    generalize readLine s stamp fs.disk (.own db) l = own at halike hfits ⊢
    generalize readLine s' stamp fs.disk (.service base (link.over db)) l = served at halike ⊢
    cases halike with
    | ended e => rfl
    | panicked e => rfl
    | goesOn hafter e =>
      simp only [ih hafter fun t ht => hfits t (List.mem_append_right _ ht)]

section Whole

variable {s : Settings} (stamp : Text) (link : Link) (fs : Files) (ls : List Line)

theorem run_of_server_none (h : s.server = none) : run s stamp link fs ls =
    (runLines s stamp fs (.own .empty) ls).after
      (.printLine "txt2db_cli (type 'help' or 'exit')".toList) := by
  simp only [run, banner, openTarget, h]

theorem run_of_server_some {base : Text} (h : s.server = some base) : run s stamp link fs ls =
    (runLines s stamp fs (.service base link) ls).after (.printLine
      ("txt2db_cli connected to ".toList ++ base ++ " (type 'help' or 'exit')".toList)) := by
  simp only [run, banner, openTarget, h]

end Whole

/-- A program told of a service that has no tables yet, at an address that leads there, and one told
of none: both end alike, with the same exit code, the same complaints, whatever notice the runtime
may add, and the same changes to files, and print the same after the line that names the service. -/
theorem program_service {env : Environment} {address base : Text} {link : Link}
    (hown : env.get? "TXT2DB_SERVER".toList = none) (hbase : readServer? address = some base)
    (hleads : link.Leads base) (hfresh : link.db = .empty)
    {stamp : Text} {fs : Files} {input : ByteArray}
    (hfits : ∀ t ∈ sessionCommands (.ofEnvironment env) stamp fs (.own .empty) (linesOfBytes input),
      FitsRequest t) :
    let own := program env stamp link fs input
    let served := program (("TXT2DB_SERVER".toList, address) :: env) stamp link fs input
    served.exitCode = own.exitCode ∧
      (∀ notice, served.stderr notice = own.stderr notice) ∧
      served.effect.files = own.effect.files ∧
      ∃ later, own.effect.out = "txt2db_cli (type 'help' or 'exit')".toList ++ '\n' :: later ∧
        served.effect.out = "txt2db_cli connected to ".toList ++ base ++
          " (type 'help' or 'exit')".toList ++ '\n' :: later := by
  intro own served
  let s := Settings.ofEnvironment env
  let s' := Settings.ofEnvironment (("TXT2DB_SERVER".toList, address) :: env)
  have hserver : s.server = none := by simp only [s, Settings.ofEnvironment, hown, Option.bind_none]
  have hserver' : s'.server = some base := by
    simp only [s', Settings.ofEnvironment, Environment.get?, List.lookup_cons_self,
      Option.bind_some, hbase]
  have hs : s'.outputDirectory = s.outputDirectory := rfl
  have hlines : runLines s' stamp fs (.service base link) (linesOfBytes input) =
      runLines s stamp fs (.own .empty) (linesOfBytes input) := by
    have hlink : link.over .empty = link := by rw [← hfresh]; rfl
    rw [← runLines_service hleads hs .empty hfits, hlink]
  have hown' : own = _ := run_of_server_none stamp link fs (linesOfBytes input) hserver
  have hserved : served = _ := run_of_server_some stamp link fs (linesOfBytes input) hserver'
  have hfirst : ∀ line later : Text, line ++ ['\n'] ++ later = line ++ '\n' :: later :=
    fun line later => List.append_cons line '\n' later |>.symm
  rw [hown', hserved, hlines]
  exact ⟨rfl, fun _ => rfl, rfl, _, hfirst _ _, hfirst _ _⟩

/-- The address is given with blanks and a slash around it. The batch makes a table and fails once,
and the last line is no text. -/
theorem program_service_batch :
    let env : Environment := [("TXT2DB_OUTPUT_DIR".toList, "kept".toList)]
    let address := " http://localhost:3000/ ".toList
    let base := "http://localhost:3000".toList
    let reason := "Connection refused (os error 111)".toList
    let link := Link.listening (.name "localhost".toList) 3000 reason .empty
    let stamp := "2025-03-09_12-05PM".toList
    let fs := Files.ofList [("demo.txt".toList,
      "// note\nmake table t fields a, b\ninsert into u values 1".toUTF8)]
    let input := "batch demo\nschema t\nselect * from t\nreset\ntables".toUTF8 ++ ⟨#[10, 255]⟩
    let own := program env stamp link fs input
    let served := program (("TXT2DB_SERVER".toList, address) :: env) stamp link fs input
    env.get? "TXT2DB_SERVER".toList = none ∧ readServer? address = some base ∧ link.Leads base ∧
      (∀ t ∈ sessionCommands (.ofEnvironment env) stamp fs (.own .empty) (linesOfBytes input),
        FitsRequest t) ∧
      served.exitCode = own.exitCode ∧ (∀ notice, served.stderr notice = own.stderr notice) ∧
      served.effect.files = own.effect.files ∧
      ∃ later, own.effect.out = "txt2db_cli (type 'help' or 'exit')".toList ++ '\n' :: later ∧
        served.effect.out = "txt2db_cli connected to ".toList ++ base ++
          " (type 'help' or 'exit')".toList ++ '\n' :: later := by
  intro env address base reason link stamp fs input own served
  have hown : env.get? "TXT2DB_SERVER".toList = none := by decide +kernel
  have hbase : readServer? address = some base := by decide +kernel
  have hhost : Url.readHost .web "localhost".toList = .ok (.name "localhost".toList) := by
    decide +kernel
  have hleads : link.Leads base := by
    have hport : "http://".toList ++ "localhost".toList ++ ':' :: Text.ofNat 3000 = base := by
      decide +kernel
    rw [← hport]
    exact Link.leads_listening (by decide) (List.all_eq_true.1 (by decide)) hhost (by decide)
      reason .empty
  have hfits : ∀ t ∈ sessionCommands (.ofEnvironment env) stamp fs (.own .empty)
      (linesOfBytes input), FitsRequest t := by decide +kernel
  exact ⟨hown, hbase, hleads, hfits, program_service hown hbase hleads rfl hfits⟩

end Textbase.Shell
