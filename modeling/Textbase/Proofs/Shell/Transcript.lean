import Textbase.Proofs.Command.Items
import Textbase.Proofs.Tabular.Alignment
import Textbase.Shell.Session

/-! A batch file is the script that it holds. Running it leaves the database as the script does,
counts what succeeded and failed as the report of the script does, and shows and writes the same
transcript: comments as they are, and for each command what became of it. But a selection with a
column that no text can be padded to ends the program, and the rest of the file is not run. -/
namespace Textbase.Shell

def Shows (e : Script.Entry) : Prop :=
  ∀ table columns rows, e.result = .ok (.selected table columns rows) →
    ∀ w ∈ (Tabular.decode (Tabular.encode columns rows)).widths, w ≤ Tabular.widthLimit

theorem render?_ne_none_iff {e : Script.Entry} : e.response.render? ≠ none ↔ Shows e := by
  rw [ne_eq, Response.render?_eq_none_iff, Script.Entry.response, Response.ofResult_eq, Shows]
  cases e.result with
  | error e => simp
  | ok o => cases o <;> simp

namespace Batch

/-- What is to be seen of the lines of a script, given what became of its commands: a comment
without the whitespace at its end, a command with its position, its response and an empty line. The
flag says whether this gets to the last line, or is cut short at a response that cannot be shown. -/
inductive Tells : List Text → List Script.Entry → Text → Bool → Prop
  | nil : Tells [] [] [] true
  | comment {l : Text} {ls : List Text} {es : List Script.Entry} {later : Text} {whole : Bool}
      (h : ScriptLine.startsCommand (Text.trim l) = false) (hl : Tells ls es later whole) :
      Tells (l :: ls) es (Text.trimEnd l ++ '\n' :: later) whole
  | command {l : Text} {ls : List Text} {e : Script.Entry} {es : List Script.Entry}
      {shown later : Text} {whole : Bool} (h : ScriptLine.startsCommand (Text.trim l) = true)
      (he : e.command = Text.trim l) (hr : e.response.render? = some shown)
      (hl : Tells ls es later whole) :
      Tells (l :: ls) (e :: es) ("[".toList ++ Text.ofNat e.index ++ "] ".toList ++ e.command ++
        "\n".toList ++ shown ++ "\n\n".toList ++ later) whole
  | cut {l : Text} {ls : List Text} {e : Script.Entry} {es : List Script.Entry}
      (h : ScriptLine.startsCommand (Text.trim l) = true) (he : e.command = Text.trim l)
      (hr : e.response.render? = none) : Tells (l :: ls) (e :: es) [] false

theorem Tells.whole_iff {ls : List Text} {es : List Script.Entry} {t : Text} {whole : Bool}
    (h : Tells ls es t whole) : whole = true ↔ ∀ e ∈ es, Shows e := by
  induction h with
  | nil => simp
  | comment _ _ ih => exact ih
  | command _ _ hr _ ih =>
    have hshows := render?_ne_none_iff.1 (by rw [hr]; exact Option.some_ne_none _)
    rw [ih, List.forall_mem_cons, and_iff_right hshows]
  | cut _ _ hr =>
    have hnot := mt render?_ne_none_iff.2 (not_not_intro hr)
    simp [hnot]

theorem runLines_own (db : Database) (index : Nat) (tally : Tally) (ls : List Text) :
    let later := db.runFrom index ((ls.map .ofLine).filterMap ScriptLine.command?)
    ∃ transcript whole after, Tells ls later.2 transcript whole ∧
      (whole = true → after = .own later.1) ∧
      runLines (.own db) index tally (ls.map .ofLine) = ⟨after, transcript,
        if whole then .done ⟨tally.succeeded + later.2.countP (fun e => !e.failed),
          tally.failed + later.2.countP Script.Entry.failed⟩
        else .panicked⟩ := by
  induction ls generalizing db index tally with
  | nil => exact ⟨[], true, .own db, .nil, fun _ => rfl, rfl⟩
  | cons l ls ih =>
    cases h : ScriptLine.startsCommand (Text.trim l) with
    | false =>
      obtain ⟨later, whole, after, htells, hafter, hrun⟩ := ih db index tally
      simp only [List.map_cons, ScriptLine.ofLine, h, Bool.false_eq_true, if_false, runLines,
        ScriptLine.command?, List.filterMap_cons, hrun]
      exact ⟨_, whole, after, .comment h htells, hafter, rfl⟩
    | true =>
      let step := db.execute (Text.trim l)
      let entry : Script.Entry := ⟨index, Text.trim l, step.2⟩
      have htrim : Text.trim (Text.trim l) = Text.trim l := (Text.trimmed_trim l).trim_eq
      have hresponse : entry.response = .ofResult step.2 := rfl
      simp only [List.map_cons, ScriptLine.ofLine, h, if_true, runLines, Target.execute_own,
        ScriptLine.command?, List.filterMap_cons, Database.runFrom, htrim]
      cases hr : entry.response.render? with
      | none =>
        rw [hresponse] at hr
        simp only [block?, step, hr, Option.map_none]
        exact ⟨[], false, .own step.1, .cut h rfl hr, by simp, rfl⟩
      | some shown =>
        obtain ⟨later, whole, after, htells, hafter, hrun⟩ :=
          ih step.1 (index + 1) (tally.count (.ofResult step.2))
        have hblock : block? index (Text.trim l) (.ofResult step.2) =
            some ("[".toList ++ Text.ofNat entry.index ++ "] ".toList ++ entry.command ++
              "\n".toList ++ shown ++ "\n\n".toList) := by
          simp [block?, ← hresponse, hr, entry]
        have hcount : ∀ es : List Script.Entry,
            Tally.mk ((tally.count (.ofResult step.2)).succeeded + es.countP fun e => !e.failed)
              ((tally.count (.ofResult step.2)).failed + es.countP Script.Entry.failed) =
            ⟨tally.succeeded + (entry :: es).countP (fun e => !e.failed),
              tally.failed + (entry :: es).countP Script.Entry.failed⟩ := by
          intro es
          have hf : entry.failed = (Response.ofResult step.2).isError := rfl
          cases he : (Response.ofResult step.2).isError <;>
            simp [Tally.count, hf, he, Nat.add_assoc, Nat.add_comm 1]
        rw [hcount] at hrun
        simp only [step] at hblock hrun
        simp only [hblock, hrun]
        exact ⟨_, whole, after, .command h rfl hr htells, hafter, rfl⟩

end Batch

/-- A batch on a file with the text of a script, when its transcript can be given a place. The
entries of the script's report are numbered from 1 on. If all of them can be shown, the database is
left as the script leaves it, and what is shown before the tally is what is written, a piece for
each line. If not, the program breaks off at the first one that cannot be shown; what was shown until
then is written. -/
theorem perform_batch_own {s : Settings} {stamp : Text} {disk : Disk} {name source script : Text}
    (hsource : Batch.source? disk.read? name = some (source, (String.ofList script).toUTF8))
    (hplace : disk.barrier? (Batch.transcriptFolder s.outputDirectory stamp source)
      (Batch.transcriptPath s.outputDirectory stamp source) = none) (db : Database) :
    let folder := Batch.transcriptFolder s.outputDirectory stamp source
    let path := Batch.transcriptPath s.outputDirectory stamp source
    let after := (db.runScript script).1
    let report := (db.runScript script).2
    ∃ ls transcript whole, Text.InLines script ls ∧
      Batch.Tells ls report.entries transcript whole ∧
      (whole = true ↔ ∀ e ∈ report.entries, Shows e) ∧
      report.entries.map Script.Entry.index = List.range' 1 report.entries.length ∧
      perform s stamp disk (.own db) (.batch name) =
        if whole then
          (.goesOn (.own after), ⟨transcript ++ "Batch done: ".toList ++
            Text.ofNat report.succeeded ++ " succeeded, ".toList ++ Text.ofNat report.failed ++
            " failed. Transcript: ".toList ++ path ++ ['\n'], [],
            [.makeFolder folder, .write path transcript]⟩)
        else (.panicked, ⟨transcript, [], [.makeFolder folder, .write path transcript]⟩) := by
  intro folder path after report
  obtain ⟨transcript, whole, target, htells, htarget, hrun⟩ :=
    Batch.runLines_own db 1 ⟨0, 0⟩ (Text.lines script)
  refine ⟨Text.lines script, transcript, whole, Text.inLines_lines script, htells,
    htells.whole_iff, ?_, ?_⟩
  · have hentries : report.entries.map Script.Entry.index =
        List.range' 1 (Script.commands script).length :=
      Database.map_index_runFrom 1 db (Script.commands script)
    rw [hentries, ← Database.length_runFrom 1 db (Script.commands script)]
    rfl
  · have hbatch : Batch.run (.own db) script = ⟨target, transcript,
        if whole then .done ⟨report.succeeded, report.failed⟩ else .panicked⟩ := by
      simp only [Nat.zero_add] at hrun
      rw [report.failed_eq_countP]
      exact hrun
    simp only [perform, runBatch, hsource, decodeText?_toUTF8, hplace, hbatch]
    cases whole with
    | false => rfl
    | true =>
      have happend : ∀ told tally : Text, (⟨told, [], [.makeFolder folder, .write path told]⟩ ++
          Effect.print tally : Effect) =
          ⟨told ++ tally, [], [.makeFolder folder, .write path told]⟩ := fun _ _ => rfl
      simp only [if_true, htarget rfl, showTally, Effect.printLine, List.append_assoc]
      exact congrArg (Prod.mk _) (happend _ _)

/-- A comment with a carriage return, a creation, an empty line, a row for a table that is not there
and a selection, in a file named without its extension. -/
theorem perform_batch_own_mixed :
    let script := ("// note \t\r\nmake table t fields a\r\n\n" ++
      " Insert into u values 1\nselect * from t").toList
    let fs := Files.ofList [("demo.txt".toList, (String.ofList script).toUTF8)]
    let s : Settings := ⟨none, "outputs".toList, "warn".toList⟩
    let stamp := "2025-03-09_12-05PM".toList
    let folder := "outputs/batch_2025-03-09_12-05PM_demo".toList
    let path := "outputs/batch_2025-03-09_12-05PM_demo/demo_output.txt".toList
    let run := Database.empty.runScript script
    let transcript := ("// note\n" ++
      "[1] make table t fields a\nTable t created with fields: a\n\n" ++ "\n" ++
      "[2] Insert into u values 1\nError: Table u does not exist\n\n" ++
      "[3] select * from t\na\n-\n0 row(s) selected from t\n\n").toList
    Batch.source? fs.disk.read? "demo".toList =
        some ("demo.txt".toList, (String.ofList script).toUTF8) ∧
      fs.disk.barrier? folder path = none ∧
      (∃ ls, Text.InLines script ls ∧ Batch.Tells ls run.2.entries transcript true) ∧
      run.2.entries.map Script.Entry.index = [1, 2, 3] ∧
      perform s stamp fs.disk (.own .empty) (.batch "demo".toList) =
        (.goesOn (.own run.1), ⟨transcript ++ ("Batch done: 2 succeeded, 1 failed. Transcript: " ++
          "outputs/batch_2025-03-09_12-05PM_demo/demo_output.txt\n").toList, [],
          [.makeFolder folder, .write path transcript]⟩) := by
  intro script fs s stamp folder path run transcript
  have hsource : Batch.source? fs.disk.read? "demo".toList =
      some ("demo.txt".toList, (String.ofList script).toUTF8) := by decide +kernel
  have hfolder : Batch.transcriptFolder s.outputDirectory stamp "demo.txt".toList = folder := by
    decide +kernel
  have hpath : Batch.transcriptPath s.outputDirectory stamp "demo.txt".toList = path := by
    decide +kernel
  have hplace : fs.disk.barrier? folder path = none := by decide +kernel
  have hshown : ∀ e ∈ run.2.entries, e.response.render? ≠ none := by decide +kernel
  have hcounts : run.2.succeeded = 2 ∧ run.2.failed = 1 ∧ run.2.entries.length = 3 := by
    decide +kernel
  have hrun : (Batch.run (.own .empty) script).transcript = transcript := by decide +kernel
  have hwritten : (perform s stamp fs.disk (.own .empty) (.batch "demo".toList)).2.files =
      [.makeFolder folder, .write path transcript] := by
    simp only [perform, runBatch, hsource, decodeText?_toUTF8, hfolder, hpath, hplace, hrun]
    split <;> rfl
  rw [← hfolder, ← hpath] at hplace
  obtain ⟨ls, told, whole, hl, htells, hwhole, hindex, hperform⟩ :=
    perform_batch_own hsource hplace .empty
  obtain rfl := hwhole.2 fun e he => render?_ne_none_iff.1 (hshown e he)
  rw [hfolder, hpath] at hperform hplace
  rw [hperform, if_pos rfl] at hwritten
  have htold : told = transcript := by
    have hsecond := (List.cons.inj (List.cons.inj hwritten).2).1
    exact (FileAction.write.inj hsecond).2
  subst told
  rw [hcounts.2.2] at hindex
  refine ⟨hsource, hplace, ⟨ls, hl, htells⟩, hindex, ?_⟩
  have htally : "Batch done: ".toList ++ Text.ofNat 2 ++ " succeeded, ".toList ++ Text.ofNat 1 ++
      " failed. Transcript: ".toList ++ path ++ ['\n'] =
      ("Batch done: 2 succeeded, 1 failed. Transcript: " ++
        "outputs/batch_2025-03-09_12-05PM_demo/demo_output.txt\n").toList := by decide +kernel
  rw [hperform, if_pos rfl, hcounts.1, hcounts.2.1, ← htally]
  simp only [List.append_assoc]
  rfl

theorem render?_selected_of_long_name {name : Text} (hn : name.IsName)
    (hl : Tabular.widthLimit < name.length) (table : Text) :
    (Response.ofResult (.ok (.selected table [name] []))).render? = none := by
  have hspace : ∀ c ∈ name, Text.isSpace c = false := fun c hc =>
    Text.isSpace_of_isNameChar (hn.isNameChar c hc)
  have hwritten : Tabular.encode [name] [] = name := by simp [Tabular.encode, Tabular.line]
  have htable := (Tabular.layout?_of_no_space hspace hl).2
  simp [Response.ofResult_eq, Response.render?, hwritten, htable]

theorem execute_selection_of_column {column : Text} (hc : column.IsName) :
    let db := (Database.empty.execute ("make table t fields ".toList ++ column)).1
    db.execute "select * from t".toList = (db, .ok (.selected "t".toList [column] [])) := by
  intro db
  have hcreate : Command.parse ("make table t fields ".toList ++ column) =
      .ok (.create "t".toList [column]) := by
    have hfront : "make table t fields ".toList =
        "make table ".toList ++ "t".toList ++ " fields ".toList := by decide
    rw [hfront]
    exact Command.parse_creation_name (by decide +kernel) hc
  have hselect : Command.parse "select * from t".toList = .ok (.select "t".toList none) := by
    decide +kernel
  have hdb : db = Database.empty.create "t".toList [column] := by
    simp only [db, Database.execute_of_parse_ok hcreate, Database.run]
  have htable : db.table? "t".toList = some ⟨[column], []⟩ := by
    rw [hdb, Database.table?_create, if_pos rfl]
  rw [Database.execute_of_parse_ok hselect, Database.run, Database.select_eq_ok_of_table? htable]

/-- A script of one selection, over a response that cannot be shown: the report counts it as
succeeded, but the program breaks off and nothing is shown or written. -/
theorem perform_batch_of_unshown {db : Database} {table : Text} {d : Tabular}
    (hrun : db.execute "select * from t".toList =
      (db, .ok (.selected table d.columns d.rows)))
    (hshown : (Response.ofResult (.ok (.selected table d.columns d.rows))).render? = none) :
    let script := "select * from t".toList
    let fs := Files.ofList [("demo.txt".toList, (String.ofList script).toUTF8)]
    let s : Settings := ⟨none, "outputs".toList, "warn".toList⟩
    let stamp := "2025-03-09_12-05PM".toList
    (db.runScript script).2.succeeded = 1 ∧ (db.runScript script).2.failed = 0 ∧
      perform s stamp fs.disk (.own db) (.batch "demo".toList) =
        (.panicked, ⟨[], [], [.makeFolder "outputs/batch_2025-03-09_12-05PM_demo".toList,
          .write "outputs/batch_2025-03-09_12-05PM_demo/demo_output.txt".toList []]⟩) := by
  intro script fs s stamp
  have hlines : Script.lines script = [.command script] := by decide +kernel
  have hentries : (db.runScript script).2.entries =
      [⟨1, script, .ok (.selected table d.columns d.rows)⟩] := by
    have htrim : Text.trim script = script := by decide +kernel
    simp only [Database.runScript, Database.runCommands, Script.commands, hlines,
      List.filterMap_cons, ScriptLine.command?, List.filterMap_nil, Database.runFrom, htrim, script,
      hrun]
  have hbatch : Batch.run (.own db) script = ⟨.own db, [], .panicked⟩ := by
    simp only [Batch.run, hlines, Batch.runLines, Target.execute_own, script, hrun, Batch.block?,
      hshown, Option.map_none]
  have hsource : Batch.source? fs.disk.read? "demo".toList =
      some ("demo.txt".toList, (String.ofList script).toUTF8) := by decide +kernel
  have hfolder : Batch.transcriptFolder s.outputDirectory stamp "demo.txt".toList =
      "outputs/batch_2025-03-09_12-05PM_demo".toList := by decide +kernel
  have hpath : Batch.transcriptPath s.outputDirectory stamp "demo.txt".toList =
      "outputs/batch_2025-03-09_12-05PM_demo/demo_output.txt".toList := by decide +kernel
  have hplace : fs.disk.barrier? "outputs/batch_2025-03-09_12-05PM_demo".toList
      "outputs/batch_2025-03-09_12-05PM_demo/demo_output.txt".toList = none := by decide +kernel
  refine ⟨?_, ?_, ?_⟩
  · rw [Script.Report.succeeded, hentries]
    rfl
  · rw [Script.Report.failed_eq_countP, hentries]
    rfl
  · simp only [perform, runBatch, hsource, decodeText?_toUTF8, hfolder, hpath, hplace, hbatch]

/-- The database has a table with a column named by 65536 letters. The script that selects from it
succeeds, but a batch of it shows nothing and ends the program. -/
theorem perform_batch_breaks_off :
    let column := List.replicate 65536 'a'
    let db := (Database.empty.execute ("make table t fields ".toList ++ column)).1
    let script := "select * from t".toList
    let fs := Files.ofList [("demo.txt".toList, (String.ofList script).toUTF8)]
    let s : Settings := ⟨none, "outputs".toList, "warn".toList⟩
    let stamp := "2025-03-09_12-05PM".toList
    (db.runScript script).2.succeeded = 1 ∧ (db.runScript script).2.failed = 0 ∧
      perform s stamp fs.disk (.own db) (.batch "demo".toList) =
        (.panicked, ⟨[], [], [.makeFolder "outputs/batch_2025-03-09_12-05PM_demo".toList,
          .write "outputs/batch_2025-03-09_12-05PM_demo/demo_output.txt".toList []]⟩) := by
  intro column db script fs s stamp
  have hlong : Tabular.widthLimit < column.length := by
    rw [List.length_replicate]
    decide
  have hname : Text.IsName column := by
    refine ⟨List.ne_nil_of_length_pos (Nat.zero_lt_of_lt hlong), fun c hc => ?_⟩
    rw [List.eq_of_mem_replicate hc]
    decide
  clear_value column
  exact perform_batch_of_unshown (d := ⟨[column], []⟩) (execute_selection_of_column hname)
    (render?_selected_of_long_name hname hlong _)

end Textbase.Shell
