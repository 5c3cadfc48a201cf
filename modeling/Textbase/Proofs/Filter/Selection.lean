import Textbase.Proofs.Command.Opening
import Textbase.Proofs.Filter.Placement
import Textbase.Proofs.Store.Reachable

/-! A filter in a selection is the filter that its text is by itself, so that both select the same
rows. -/
namespace Textbase

theorem isName_select : Text.IsName "select".toList := by decide

theorem Verb.of?_select {t : Text} (ht : t.OpensBlank) :
    Verb.of? ("select".toList ++ t) = some .select := by
  have hl : Text.lower "select".toList = "select".toList := by decide
  have hm : ("select".toList == "make".toList) = false := by decide
  have hc : ("select".toList == "create".toList) = false := by decide
  have hi : ("select".toList == "insert".toList) = false := by decide
  rw [Verb.of?, Text.openingWord?_name isName_select ht, hl]
  simp only [Option.bind_eq_bind, Option.bind_some, hm, hc, hi, Bool.or_self, Bool.false_and,
    Bool.false_eq_true, if_false, beq_self_eq_true, if_true]

namespace Command

def selection (table condition : Text) : Text :=
  "select * from ".toList ++ table ++ " where ".toList ++ condition

theorem selection_nil_append (table condition : Text) :
    selection table [] ++ condition = selection table condition := by
  unfold selection
  rw [List.append_nil]

theorem selection_eq (table condition : Text) :
    selection table condition = "select".toList ++ ' ' :: ("* from".toList ++ ' ' ::
      (table ++ ' ' :: ("where".toList ++ ' ' :: condition))) := by
  have hs : "select * from ".toList = "select".toList ++ ' ' :: ("* from".toList ++ [' ']) := by
    decide +kernel
  have hw : " where ".toList = ' ' :: ("where".toList ++ [' ']) := by decide +kernel
  calc selection table condition
    _ = "select * from ".toList ++ table ++ " where ".toList ++ condition := rfl
    _ = "select".toList ++ ' ' :: ("* from".toList ++ [' ']) ++ table ++
        ' ' :: ("where".toList ++ [' ']) ++ condition := by rw [hs, hw]
    _ = _ := by simp only [List.append_assoc, List.cons_append, List.nil_append]

theorem scan_selection {table : Text} (ht : table.IsName) (condition : Text) :
    Token.scan (selection table condition) = (Token.scan condition).map fun ts =>
      ⟨.word "select".toList, 0⟩ :: ⟨.star, 7⟩ :: ⟨.word "from".toList, 9⟩ :: ⟨.word table, 14⟩ ::
        ⟨.word "where".toList, 14 + Text.byteLength table + 1⟩ ::
          ts.map (Token.shift (Text.byteLength (selection table []))) := by
  have hs : Text.isSpace ' ' = true := by decide
  have hb : ∀ t, Lexeme.Delimits (' ' :: t) := fun t =>
    Lexeme.delimits_of_opensBlank (Text.opensBlank_cons hs t)
  have hwhere : Text.IsName "where".toList := by decide
  have hhead : Token.scanFrom 0 ("select".toList ++ ' ' :: "* from".toList) =
      .ok [⟨.word "select".toList, 0⟩, ⟨.star, 7⟩, ⟨.word "from".toList, 9⟩] := by
    decide +kernel
  have hl : Text.byteLength ("select".toList ++ ' ' :: "* from".toList) = 13 := by decide
  have hsplit : ∀ t, "select".toList ++ ' ' :: ("* from".toList ++ t) =
      ("select".toList ++ ' ' :: "* from".toList) ++ t := by
    intro t
    rw [List.append_assoc, List.cons_append]
  have hn : 0 + 13 + ' '.utf8Size + Text.byteLength table + ' '.utf8Size +
      Text.byteLength "where".toList + ' '.utf8Size =
        Text.byteLength (selection table []) := by
    rw [selection_eq, hsplit]
    simp only [Text.byteLength_append, Text.byteLength_cons, Text.byteLength_nil] at hl ⊢
    omega
  rw [Token.scan, selection_eq, hsplit, Token.scanFrom_append hhead (hb _), hl,
    Token.scanFrom_space hs, Token.scanFrom_name ht (hb _), Token.scanFrom_space hs,
    Token.scanFrom_name hwhere (hb _), Token.scanFrom_space hs, hn, Token.scanFrom_eq_scan]
  cases Token.scan condition <;> rfl

theorem exists_readSelect_selection (table condition : Text) :
    ∃ source u, source ++ u = selection table condition ∧ (∀ c ∈ u, Text.isSpace c = true) ∧
      parse (selection table condition) = readSelect source := by
  obtain ⟨t, ht, he⟩ : ∃ t, Text.OpensBlank t ∧ selection table condition = "select".toList ++ t :=
    ⟨_, Text.opensBlank_cons (by decide) _, selection_eq table condition⟩
  obtain ⟨u, hu, hspaces⟩ := Text.exists_append_trim_name isName_select t
  rw [← he] at hu
  refine ⟨Text.trim (selection table condition), u, hu, hspaces, ?_⟩
  have hv : Verb.of? (Text.trim (selection table condition)) = some .select := by
    rw [he, Text.trim_name isName_select, Verb.of?_select (Text.opensBlank_trimEnd ht)]
  simp only [parse, hv]

theorem ofTokens_selection {source u table condition : Text} {ts : List Token}
    (hu : source ++ u = selection table condition) (hts : ∀ x ∈ ts, Token.LiesIn condition x)
    (hlies : ∀ x ∈ ts.map (Token.shift (Text.byteLength (selection table []))),
      Token.LiesIn source x) :
    Filter.ofTokens source (ts.map (Token.shift (Text.byteLength (selection table [])))) =
      Filter.ofTokens condition ts := by
  -- Both texts are part of the whole selection, the one at its start, the other at its end.
  have hsource := Filter.ofTokens_shift hlies [] u
  have hcondition := Filter.ofTokens_shift hts (selection table []) []
  rw [List.nil_append, hu, Text.byteLength_nil, Token.shift_zero, List.map_id] at hsource
  rw [List.append_nil, selection_nil_append] at hcondition
  rw [← hsource, hcondition]

/-- A selection is read as its condition is by itself. -/
theorem parse_selection {table : Text} (ht : table.IsName) (condition : Text) :
    parse (selection table condition) =
      match Token.scan condition with
      | .error e => .error (.malformed .select (.unclosedQuote e))
      | .ok ts => (Filter.ofTokens condition ts).map fun f => select table (some f) := by
  obtain ⟨source, u, hu, hspaces, hp⟩ := exists_readSelect_selection table condition
  have hscan : Token.scan source = Token.scan (selection table condition) := by
    rw [← hu]
    exact (Token.scanFrom_append_spaces hspaces 0 source).symm
  rw [scan_selection ht] at hscan
  rw [hp]
  cases hc : Token.scan condition with
  | error e =>
    rw [hc] at hscan
    rw [readSelect, Command.scan, hscan]
    rfl
  | ok ts =>
    rw [hc, Except.map] at hscan
    have hlies : ∀ x ∈ ts.map (Token.shift (Text.byteLength (selection table []))),
        Token.LiesIn source x := by
      intro x hx
      apply Token.liesIn_of_scan hscan
      simp only [List.mem_cons, hx, or_true]
    rw [readSelect_of_scan hscan rfl (Text.sameFolded_refl _) ⟨rfl, ht⟩ (Text.sameFolded_refl _),
      ofTokens_selection hu (Token.liesIn_of_scan hc) hlies]

theorem parse_selection_of_parse {table condition : Text} {f : Filter} (ht : table.IsName)
    (h : Filter.parse condition = .ok f) :
    parse (selection table condition) = .ok (select table (some f)) := by
  rw [parse_selection ht]
  unfold Filter.parse at h
  cases hs : Token.scan condition with
  | error e =>
    rw [hs] at h
    cases h
  | ok ts =>
    rw [hs] at h
    dsimp only at h ⊢
    rw [h]
    rfl

theorem parse_selection_of_parse_error {table condition : Text} {e : Error} (ht : table.IsName)
    (h : Filter.parse condition = .error e) :
    ∃ e', parse (selection table condition) = .error e' ∧
      e'.kind = "malformed_command".toList := by
  rw [parse_selection ht]
  unfold Filter.parse at h
  cases hs : Token.scan condition with
  | error e => exact ⟨_, rfl, rfl⟩
  | ok ts =>
    rw [hs] at h
    dsimp only at h ⊢
    unfold Filter.ofTokens at h ⊢
    split at h
    · rename_i hb
      rw [if_pos hb]
      exact ⟨_, rfl, rfl⟩
    · cases h

end Command

theorem Filter.accepts_eq_ok_iff {columns : List Text} {row : Row} {t : Text} {f : Filter}
    (h : parse t = .ok f) : accepts columns row t = .ok true ↔ f.holds ⟨columns⟩ row = true := by
  rw [accepts, h, Except.map, Except.ok.injEq]

namespace Database

/-- A selection under a condition fails when the condition cannot be read, and otherwise gives the
rows that the condition, read by itself, accepts. The database stays as it is. -/
theorem Reachable.execute_selection {db : Database} (h : db.Reachable) {table : Text} {d : Tabular}
    (ht : db.table? table = some d) (condition : Text) :
    (∀ e, Filter.parse condition = .error e →
      ∃ e', db.execute (Command.selection table condition) = (db, .error e') ∧
        e'.kind = "malformed_command".toList) ∧
    ∀ f, Filter.parse condition = .ok f →
      db.execute (Command.selection table condition) =
        (db, .ok (.selected table d.columns
          (d.rows.filter fun row => Filter.accepts d.columns row condition = .ok true))) := by
  have hn : table.IsName := by
    refine h.wellFormed.isName table (h.wellFormed.isSome_table?_iff.1 ?_)
    rw [ht]
    rfl
  constructor
  · intro e he
    obtain ⟨e', hp, hk⟩ := Command.parse_selection_of_parse_error hn he
    exact ⟨e', execute_of_parse_error hp db, hk⟩
  · intro f hf
    have hp := Command.parse_selection_of_parse hn hf
    rw [execute_of_parse_ok hp, run, select_eq_ok_of_table? ht]
    simp only [Filter.accepts_eq_ok_iff hf, Bool.decide_eq_true]

/-- The second `where` is the one that the condition by itself may start with, and the quotes keep
the space in the literal. -/
theorem execute_selection_where :
    let db := (empty.runScript
      "make table t fields n\ninsert into t values 'x '\ninsert into t values x".toList).1
    let condition := "WHERE t.n = 'x ' ".toList
    db.Reachable ∧ db.table? ['t'] = some ⟨[['n']], [[['x', ' ']], [['x']]]⟩ ∧
      Filter.parse condition = .ok (.compare ⟨['n'], .eq, ['x', ' ']⟩) ∧
      db.execute (Command.selection ['t'] condition) =
        (db, .ok (.selected ['t'] [['n']] [[['x', ' ']]])) := by
  intro db condition
  have h : db.Reachable := .runScript .empty _
  have ht : db.table? ['t'] = some ⟨[['n']], [[['x', ' ']], [['x']]]⟩ := by decide +kernel
  have hf : Filter.parse condition = .ok (.compare ⟨['n'], .eq, ['x', ' ']⟩) := by decide +kernel
  have hr : ([[['x', ' ']], [['x']]].filter fun row =>
      Filter.accepts [['n']] row condition = .ok true) = [[['x', ' ']]] := by decide +kernel
  have he := (Reachable.execute_selection h ht condition).2 _ hf
  rw [hr] at he
  exact ⟨h, ht, hf, he⟩

end Database

end Textbase
