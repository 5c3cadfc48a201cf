import Textbase.Proofs.Command.Grammar
import Textbase.Proofs.Store.Batch
import Textbase.Proofs.Token.Case
import Textbase.Shell.Session
import Mathlib.Data.List.Forall2

/-! No command is lost on its way. Scripts tell commands from comments by their first letter, and
sessions tell them from their own words by the first word, but whatever is a command gets through
both as it is: it starts with a verb, and no other word of a session is one. -/
namespace Textbase

namespace Verb

theorem startsCommand_of_mem_words {v : Verb} : ∀ k ∈ v.words,
    ScriptLine.startsCommand k = true := by
  cases v <;> decide

end Verb

namespace Command

variable {t l : Text} {c : Command}

theorem name_mem_words_of_parse (h : parse t = .ok c) :
    ∃ v : Verb, ((Text.trim t).takeWhile Text.isNameChar).map Text.foldKelvin ∈ v.words := by
  obtain ⟨v, hv, -⟩ := parse_eq_ok_iff_readAs.1 h
  obtain ⟨k, rest, hopen, hk, -⟩ := Verb.of?_eq_some_iff.1 hv
  have hstart : Text.trimStart (Text.trim t) = Text.trim t := by
    have hhead := (Text.trimmed_trim t).head
    cases ht : Text.trim t with
    | nil => rfl
    | cons d u => rw [Text.trimStart_cons, if_neg (by simp [hhead d (by rw [ht]; rfl)])]
  simp only [Text.openingWord?, hstart, Option.ite_none_left_eq_some, Option.some.injEq,
    Prod.mk.injEq] at hopen
  obtain ⟨-, rfl, -⟩ := hopen
  exact ⟨v, (Text.lower_eq_iff (Verb.isLower_of_mem_words _ hk)).1 rfl ▸ hk⟩

/-- A word of a session that stands before whitespace, or is all, is the name at the start. -/
theorem name_eq_of_sameFolded {w k rest : Text} (hk : ∀ d ∈ k, d.isLower = true)
    (hw : Text.sameFolded w k = true) (hrest : rest.OpensBlank) :
    ((w ++ rest).takeWhile Text.isNameChar).map Text.foldKelvin = k := by
  obtain ⟨hmap, -⟩ := (Text.sameFolded_iff_foldKelvin hk).1 hw
  have hname := Text.isNameChar_of_map_foldKelvin hk hmap
  have hstop : rest.takeWhile Text.isNameChar = [] := by
    cases rest with
    | nil => rfl
    | cons d rest => simp [Text.isNameChar_of_isSpace (hrest d rfl)]
  rw [List.takeWhile_append_of_pos hname, hstop, List.append_nil, hmap]

end Command

namespace ScriptLine

variable {l : Text} {c : Command}

theorem startsCommand_of_parse (h : Command.parse l = .ok c) :
    startsCommand (Text.trim l) = true := by
  obtain ⟨v, hv⟩ := Command.name_mem_words_of_parse h
  have hstart := Verb.startsCommand_of_mem_words _ hv
  cases hl : Text.trim l with
  | nil =>
    rw [hl] at hstart
    cases hstart
  | cons d t =>
    rw [hl, List.takeWhile_cons] at hstart
    split at hstart
    · rw [List.map_cons, Text.foldKelvin] at hstart
      split at hstart
      · cases hstart
      · simpa only [startsCommand, Text.toLower_toLower] using hstart
    · cases hstart

theorem ofLine_of_parse (h : Command.parse l = .ok c) : ofLine l = command (Text.trim l) :=
  if_pos (startsCommand_of_parse h)

theorem ofLine_eq_or (l : Text) :
    ofLine l = command (Text.trim l) ∨ ofLine l = comment (Text.trimEnd l) := by
  unfold ofLine
  split
  · exact .inl rfl
  · exact .inr rfl

end ScriptLine

def Script.commandsOf (ls : List Text) : List Text :=
  (ls.map ScriptLine.ofLine).filterMap ScriptLine.command?

namespace Database

theorem executeAll_append (db : Database) (xs ys : List Text) :
    db.executeAll (xs ++ ys) = (db.executeAll xs).executeAll ys :=
  List.foldl_append

/-- A command on a line of a script is executed after those on the lines before it, and those on the
lines after it are executed next. -/
theorem runScript_of_command {t l : Text} {before after : List Text}
    (ht : Text.lines t = before ++ l :: after) (hl : ScriptLine.ofLine l = .command (Text.trim l))
    (db : Database) :
    let earlier := Script.commandsOf before
    let step := (db.executeAll earlier).execute (Text.trim l)
    (db.runScript t).2.entries[earlier.length]? =
        some ⟨earlier.length + 1, Text.trim l, step.2⟩ ∧
      (db.runScript t).1 = step.1.executeAll (Script.commandsOf after) := by
  intro earlier step
  have hcommands : Script.commands t = earlier ++ Text.trim l :: Script.commandsOf after := by
    rw [Script.commands, Script.lines, ht, List.map_append, List.map_cons, hl,
      List.filterMap_append]
    rfl
  have htrim : Text.trim (Text.trim l) = Text.trim l := (Text.trimmed_trim l).trim_eq
  rw [runScript, hcommands, runCommands, runFrom_eq_mapIdx]
  constructor
  · simp only [List.getElem?_mapIdx, List.getElem?_append_right le_rfl, Nat.sub_self,
      List.getElem?_cons_zero, Option.map_some, List.take_left, htrim, Nat.add_comm 1]
    rfl
  · rw [executeAll_append]
    rfl

end Database

namespace Shell

def Instruction.words : List Text :=
  ["exit".toList, "quit".toList, "help".toList, "tables".toList, "reset".toList, "schema".toList,
    "parse".toList, "batch".toList]

theorem Instruction.not_mem_words {v : Verb} : ∀ k ∈ v.words, k ∉ Instruction.words := by
  cases v <;> decide

theorem Instruction.isLower_of_mem_words : ∀ k ∈ Instruction.words, ∀ d ∈ k, d.isLower = true := by
  have h : words.all (·.all Char.isLower) = true := by decide
  simpa only [List.all_eq_true] using h

variable {l : Text} {c : Command}

theorem Instruction.sameFolded_eq_false (h : Command.parse l = .ok c) {w k rest : Text}
    (hl : w ++ rest = Text.trim l) (hrest : rest.OpensBlank) (hk : k ∈ Instruction.words) :
    Text.sameFolded w k = false := by
  rw [Bool.eq_false_iff]
  intro hw
  obtain ⟨v, hv⟩ := Command.name_mem_words_of_parse h
  rw [← hl, Command.name_eq_of_sameFolded (isLower_of_mem_words k hk) hw hrest] at hv
  exact not_mem_words k hv hk

theorem Instruction.argument?_eq_none (h : Command.parse l = .ok c) {k : Text}
    (hk : k ∈ Instruction.words) : argument? k (Text.trim l) = none := by
  have hrest : Text.OpensBlank ((Text.trim l).dropWhile fun d => !Text.isSpace d) := by
    intro d hd
    have hhead := List.head?_dropWhile_not (fun d => !Text.isSpace d) (Text.trim l)
    rw [Option.mem_def.1 hd] at hhead
    simpa using hhead
  have hfolded := sameFolded_eq_false h List.takeWhile_append_dropWhile hrest hk
  unfold argument?
  rw [hfolded]
  split <;> rfl

theorem Instruction.ofLine_of_parse (h : Command.parse l = .ok c) :
    Instruction.ofLine l = .execute (Text.trim l) := by
  have hne : (Text.trim l).isEmpty = false := by
    have hstart := ScriptLine.startsCommand_of_parse h
    cases hl : Text.trim l with
    | nil =>
      rw [hl] at hstart
      cases hstart
    | cons d t => rfl
  have hwhole : ∀ k ∈ words, Text.sameFolded (Text.trim l) k = false := fun k =>
    sameFolded_eq_false h (List.append_nil _) nofun
  have hargument : ∀ k ∈ words, argument? k (Text.trim l) = none := fun k =>
    argument?_eq_none h
  simp only [words, List.forall_mem_cons] at hwhole hargument
  simp only [ofLine, hne, hwhole, hargument, Bool.or_self, Bool.false_eq_true, if_false]

theorem readLine_of_execute {t : Text} (h : Instruction.ofLine l = .execute t) (s : Settings)
    (stamp : Text) (disk : Disk) (target : Target) :
    readLine s stamp disk target (some l) = showResult (target.execute t) := by
  rw [readLine, h, perform]

/-- A script has an item for each of its lines, in their order, and no line that is a command is a
comment: it is executed as it is without the whitespace around it, and so it is by a session, which
never takes it for an instruction of its own. -/
theorem command_reaches_target :
    (∀ t, List.Forall₂ (fun l item =>
        (item = ScriptLine.command (Text.trim l) ∨ item = .comment (Text.trimEnd l)) ∧
          ∀ c, Command.parse (Text.trim l) = .ok c → item = .command (Text.trim l))
      (Text.lines t) (Script.lines t)) ∧
    ∀ l c, Command.parse (Text.trim l) = .ok c →
      (∀ (db : Database) t before after, Text.lines t = before ++ l :: after →
        let earlier := Script.commandsOf before
        let step := (db.executeAll earlier).execute (Text.trim l)
        (db.runScript t).2.entries[earlier.length]? =
            some ⟨earlier.length + 1, Text.trim l, step.2⟩ ∧
          (db.runScript t).1 = step.1.executeAll (Script.commandsOf after)) ∧
      Instruction.ofLine l = .execute (Text.trim l) ∧
      ∀ s stamp disk target,
        readLine s stamp disk target (some l) = showResult (target.execute (Text.trim l)) := by
  constructor
  · intro t
    rw [Script.lines, List.forall₂_map_right_iff, List.forall₂_same]
    refine fun l _ => ⟨ScriptLine.ofLine_eq_or l, fun c h => ?_⟩
    rw [Command.parse_trim] at h
    exact ScriptLine.ofLine_of_parse h
  · intro l c h
    rw [Command.parse_trim] at h
    have hexecute := Instruction.ofLine_of_parse h
    exact ⟨fun db t before after ht =>
      Database.runScript_of_command ht (ScriptLine.ofLine_of_parse h) db, hexecute,
      readLine_of_execute hexecute⟩

/-- Its table and its field have the names of instructions of a session. -/
theorem command_reaches_target_lookalike :
    let l := " ma\u212Ae table reset fields exit\t".toList
    let t := "reset\n".toList ++ l ++ "\nselect * from reset".toList
    Command.parse (Text.trim l) = .ok (.create "reset".toList ["exit".toList]) ∧
      Text.lines t = ["reset".toList] ++ l :: ["select * from reset".toList] ∧
      (Database.empty.runScript t).2.entries[0]? =
        some ⟨1, Text.trim l, (Database.empty.execute (Text.trim l)).2⟩ ∧
      Instruction.ofLine l = .execute (Text.trim l) := by
  intro l t
  have h : Command.parse (Text.trim l) = .ok (.create "reset".toList ["exit".toList]) := by
    decide +kernel
  have ht : Text.lines t = ["reset".toList] ++ l :: ["select * from reset".toList] := by
    decide +kernel
  obtain ⟨hscript, hsession, -⟩ := command_reaches_target.2 l _ h
  exact ⟨h, ht, (hscript .empty t _ _ ht).1, hsession⟩

end Shell

end Textbase
