import Textbase.Proofs.Command.Opening
import Textbase.Proofs.Command.Reading
import Textbase.Proofs.Text.Lowercase
import Textbase.Proofs.Token.Order
import Mathlib.Data.List.TakeWhile

/-! Which texts are commands, told from their tokens. The verb is taken from the text before there
are tokens, and its word is not looked at again: so a text is also a command when a Kelvin sign
stands for a `k` in its verb, or when the word of a selection only starts with its verb. -/
namespace Textbase

namespace Lexeme

theorem takeWhile_append_of_endsWord {r : Text} (hr : endsWord r = true) (w : Text) :
    (w ++ r).takeWhile Text.isNameChar = w.takeWhile Text.isNameChar ∧
      (w ++ r).dropWhile Text.isNameChar = w.dropWhile Text.isNameChar ++ r := by
  have hn : r.takeWhile Text.isNameChar = [] ∧ r.dropWhile Text.isNameChar = r := by
    cases r with
    | nil => exact ⟨rfl, rfl⟩
    | cons c r =>
      have hc : Text.isNameChar c = false := by
        rw [Bool.eq_false_iff]
        intro hc
        rw [endsWord_of_isNameChar hc] at hr
        cases hr
      simp [hc]
  induction w with
  | nil => exact hn
  | cons c w ih =>
    rw [List.cons_append]
    by_cases hc : Text.isNameChar c = true <;> simp [hc, ih]

end Lexeme

namespace Text

theorem openingWord?_dropWhile {w : Text} (hs : ∀ c ∈ w, isSpace c = false)
    (hne : w.dropWhile isNameChar ≠ []) (r : Text) :
    openingWord? (w.dropWhile isNameChar ++ r) = none := by
  obtain ⟨c, t, ht⟩ := List.exists_cons_of_ne_nil hne
  have hc : isNameChar c = false := by
    have hhead := List.head?_dropWhile_not isNameChar w
    rwa [ht] at hhead
  have hmem : c ∈ w := (List.dropWhile_sublist isNameChar).subset (by simp [ht])
  simp [openingWord?, ht, trimStart_cons, hs c hmem, hc]

theorem isNameChar_of_map_foldKelvin {w k : Text} (hk : ∀ c ∈ k, c.isLower = true)
    (h : w.map foldKelvin = k) : ∀ c ∈ w, isNameChar c = true := fun _ hc =>
  isNameChar_of_isLower_foldKelvin (hk _ (h ▸ List.mem_map_of_mem hc))

end Text

namespace Token

def IsWordWith (p : Text → Prop) (x : Token) : Prop := ∃ w, x.lexeme = .word w ∧ p w

theorem isWord_iff {x : Token} {k : Text} :
    x.isWord k = true ↔ x.IsWordWith fun w => Text.sameFolded w k = true := by
  unfold isWord IsWordWith
  cases x.lexeme <;> simp

variable {u w : Text} {pos : Nat} {x : Token} {later : List Token}

/-- The opening word of a text is the name at the start of its first token. -/
theorem openingWord?_of_scanFrom (h : scanFrom pos u = .ok (x :: later)) (hx : x.lexeme = .word w) :
    ∃ r, scanFrom x.stop r = .ok later ∧ (∀ d ∈ w, Text.isSpace d = false) ∧
      Text.openingWord? u = if (w.takeWhile Text.isNameChar).isEmpty then none
        else some (Text.lower (w.takeWhile Text.isNameChar), w.dropWhile Text.isNameChar ++ r) := by
  obtain ⟨gap, c, t, r, rfl, hgap, hc, hr, -, hlater⟩ := exists_of_scanFrom_cons h
  rw [hx] at hr
  obtain ⟨hends, hspaces⟩ := Lexeme.word_of_read hc hr
  obtain ⟨htake, hdrop⟩ := Lexeme.takeWhile_append_of_endsWord hends w
  have hstart : Text.trimStart (gap ++ c :: t) = w ++ r :=
    (Text.trimStart_append hgap hc t).trans (Lexeme.source_append_of_read hr).symm
  refine ⟨r, hlater, hspaces, ?_⟩
  rw [Text.openingWord?, hstart]
  simp only [htake, hdrop]

theorem exists_word_of_openingWord? {y : Text × Text} (h : scanFrom pos u = .ok (x :: later))
    (hy : Text.openingWord? u = some y) : ∃ w, x.lexeme = .word w := by
  obtain ⟨gap, c, t, r, rfl, hgap, hc, hr, -, -⟩ := exists_of_scanFrom_cons h
  rw [Text.openingWord?, Text.trimStart_append hgap hc] at hy
  by_cases hn : Text.isNameChar c = true
  · rw [Lexeme.read_of_isNameChar hn, Except.ok.injEq, Prod.mk.injEq] at hr
    exact ⟨_, hr.1.symm⟩
  · simp [hn] at hy

theorem openingWord?_of_isWord {k : Text} (hk : ∀ c ∈ k, c.isLower = true) (hne : k ≠ [])
    (h : scanFrom pos u = .ok (x :: later)) (hx : x.isWord k = true) :
    (Text.openingWord? u).map (·.1) = some k := by
  obtain ⟨w, hw, hfold⟩ := isWord_iff.1 hx
  obtain ⟨hmap, -⟩ := (Text.sameFolded_iff_foldKelvin hk).1 hfold
  have hname := Text.isNameChar_of_map_foldKelvin hk hmap
  have htake : w.takeWhile Text.isNameChar = w := List.takeWhile_eq_self_iff.2 hname
  have hwne : w ≠ [] := by
    rintro rfl
    exact hne hmap.symm
  obtain ⟨r, -, -, ho⟩ := openingWord?_of_scanFrom h hw
  rw [htake, if_neg (by simp [hwne]), (Text.lower_eq_iff hk).2 hmap] at ho
  rw [ho, Option.map_some]

end Token

namespace Verb

def words : Verb → List Text
  | create => ["make".toList, "create".toList]
  | insert => ["insert".toList]
  | select => ["select".toList]

/-- The word that has to follow a verb for it to be taken as that verb. -/
def second? : Verb → Option Text
  | create => some "table".toList
  | insert => some "into".toList
  | select => none

theorem isLower_of_mem_words {v : Verb} : ∀ k ∈ v.words, ∀ c ∈ k, c.isLower = true := by
  have h : v.words.all (·.all Char.isLower) = true := by cases v <;> decide
  simpa only [List.all_eq_true] using h

theorem ne_nil_of_mem_words {v : Verb} : ∀ k ∈ v.words, k ≠ [] := by
  cases v <;> decide

theorem of?_eq_some_iff {t : Text} {v : Verb} :
    of? t = some v ↔ ∃ first rest, Text.openingWord? t = some (first, rest) ∧ first ∈ v.words ∧
      ∀ k ∈ v.second?, (Text.openingWord? rest).map (·.1) = some k := by
  have hdistinct : ["make".toList, "create".toList, "insert".toList, "select".toList].Nodup := by
    decide
  rw [of?]
  cases Text.openingWord? t with
  | none => simp only [Option.bind_eq_bind, Option.bind_none, reduceCtorEq, false_and, exists_false]
  | some y =>
    obtain ⟨first, rest⟩ := y
    simp only [Option.bind_eq_bind, Option.bind_some, Option.some.injEq, Prod.mk.injEq,
      exists_and_left, exists_eq_left', and_assoc]
    generalize (Text.openingWord? rest).map (·.1) = second
    cases v
    all_goals
      simp only [words, second?]
      generalize "make".toList = make at *
      generalize "create".toList = create at *
      generalize "insert".toList = insert at *
      generalize "select".toList = select at *
      grind

def NamedBy (v : Verb) (w : Text) : Prop := ∃ k ∈ v.words, Text.sameFolded w k = true

/-- The word is taken as the verb: it starts with a name that reads as the verb when Kelvin signs
count as `k`, and only in a selection anything follows the name. -/
structure OpenedBy (v : Verb) (w : Text) : Prop where
  name : (w.takeWhile Text.isNameChar).map Text.foldKelvin ∈ v.words
  whole : v ≠ select → ∀ c ∈ w, Text.isNameChar c = true

theorem namedBy_iff {v : Verb} {w : Text} :
    v.NamedBy w ↔ v.OpenedBy w ∧ ∀ c ∈ w, Text.isNameChar c = true ∧ c ≠ '\u212A' := by
  constructor
  · rintro ⟨k, hk, hw⟩
    obtain ⟨hmap, hsign⟩ := (Text.sameFolded_iff_foldKelvin (isLower_of_mem_words k hk)).1 hw
    have hname := Text.isNameChar_of_map_foldKelvin (isLower_of_mem_words k hk) hmap
    refine ⟨⟨?_, fun _ => hname⟩, fun c hc => ⟨hname c hc, ?_⟩⟩
    · rwa [List.takeWhile_eq_self_iff.2 hname, hmap]
    · rintro rfl
      exact hsign hc
  · rintro ⟨ho, hc⟩
    have hmap := ho.name
    rw [List.takeWhile_eq_self_iff.2 fun c hm => (hc c hm).1] at hmap
    exact ⟨_, hmap, (Text.sameFolded_iff_foldKelvin (isLower_of_mem_words _ hmap)).2
      ⟨rfl, fun hm => (hc _ hm).2 rfl⟩⟩

/-- The tokens that a verb takes after it. No field of a new table is left empty between two commas,
and a condition is more than one further `where`. -/
inductive Takes : Verb → List Token → Prop
  | create {joint name opener : Token} {list : List Token}
      (hj : joint.isWord "table".toList = true) (hn : name.IsWordWith Text.IsName)
      (ho : opener.isWord "fields".toList = true) (hl : list ≠ [])
      (hi : [] ∉ list.splitOnP fun x => x.lexeme == .comma) :
      Takes create (joint :: name :: opener :: list)
  | insert {joint name opener : Token} {list : List Token}
      (hj : joint.isWord "into".toList = true) (hn : name.IsWordWith Text.IsName)
      (ho : opener.isWord "values".toList = true) (hl : list ≠ []) :
      Takes insert (joint :: name :: opener :: list)
  | select {star joint name : Token} (hs : star.lexeme = .star)
      (hj : joint.isWord "from".toList = true) (hn : name.IsWordWith Text.IsName) :
      Takes select [star, joint, name]
  | selectWhere {star joint name opener : Token} {condition : List Token}
      (hs : star.lexeme = .star) (hj : joint.isWord "from".toList = true)
      (hn : name.IsWordWith Text.IsName) (ho : opener.isWord "where".toList = true)
      (hb : Filter.body condition ≠ []) :
      Takes select (star :: joint :: name :: opener :: condition)

theorem Takes.isWord_second {v : Verb} {rest : List Token} (h : v.Takes rest) :
    ∀ k ∈ v.second?, ∃ joint later, rest = joint :: later ∧ joint.isWord k = true := by
  cases h with
  | create hj => simpa [second?] using hj
  | insert hj => simpa [second?] using hj
  | select => simp [second?]
  | selectWhere => simp [second?]

theorem second?_eq_none_iff {v : Verb} : v.second? = none ↔ v = select := by
  cases v <;> simp [second?]

theorem isLower_of_mem_second? {v : Verb} : ∀ k ∈ v.second?, ∀ c ∈ k, c.isLower = true := by
  have h : v.second?.all (·.all Char.isLower) = true := by cases v <;> decide
  simpa only [Option.mem_def, Option.all_eq_true, List.all_eq_true] using h

theorem ne_nil_of_mem_second? {v : Verb} : ∀ k ∈ v.second?, k ≠ [] := by
  cases v <;> decide

/-- The verb of a text is the one that its first token opens, if the tokens after it are those that
this verb takes. -/
theorem of?_eq_some_iff_openedBy {source : Text} {first : Token} {rest : List Token} {v : Verb}
    (h : Token.scan source = .ok (first :: rest)) (ht : v.Takes rest) :
    of? source = some v ↔ first.IsWordWith v.OpenedBy := by
  rw [of?_eq_some_iff]
  constructor
  · rintro ⟨k, u, hopen, hk, hsecond⟩
    obtain ⟨w, hw⟩ := Token.exists_word_of_openingWord? h hopen
    obtain ⟨r, -, hspaces, heq⟩ := Token.openingWord?_of_scanFrom h hw
    rw [hopen] at heq
    split at heq
    · cases heq
    · rw [Option.some.injEq, Prod.mk.injEq] at heq
      obtain ⟨hlower, rfl⟩ := heq
      refine ⟨w, hw, ⟨?_, fun hv => ?_⟩⟩
      · rwa [(Text.lower_eq_iff (isLower_of_mem_words k hk)).1 hlower.symm]
      · -- What is left of the word would stand in the way of the second word.
        obtain ⟨k', hk'⟩ := Option.ne_none_iff_exists'.1 fun hn => hv (second?_eq_none_iff.1 hn)
        have hnext := hsecond k' hk'
        refine List.dropWhile_eq_nil_iff.1 (Decidable.byContradiction fun hne => ?_)
        rw [Text.openingWord?_dropWhile hspaces hne] at hnext
        cases hnext
  · rintro ⟨w, hw, ho⟩
    obtain ⟨r, hr, -, heq⟩ := Token.openingWord?_of_scanFrom h hw
    have hne : w.takeWhile Text.isNameChar ≠ [] := fun hn =>
      ne_nil_of_mem_words _ ho.name (by rw [hn, List.map_nil])
    rw [if_neg (by simp [hne])] at heq
    refine ⟨_, _, heq, ?_, fun k hk => ?_⟩
    · rw [(Text.lower_eq_iff (isLower_of_mem_words _ ho.name)).2 rfl]
      exact ho.name
    · have hv : v ≠ select := by
        rintro rfl
        cases hk
      obtain ⟨joint, later, rfl, hj⟩ := ht.isWord_second k hk
      rw [List.dropWhile_eq_nil_iff.2 (ho.whole hv), List.nil_append]
      exact Token.openingWord?_of_isWord (isLower_of_mem_second? k hk) (ne_nil_of_mem_second? k hk)
        hr hj

end Verb

namespace Command

def readAs : Verb → Text → Except Error Command
  | .create => readCreate
  | .insert => readInsert
  | .select => readSelect

theorem parse_eq_ok_iff_readAs {t : Text} {c : Command} :
    parse t = .ok c ↔ ∃ v, Verb.of? (Text.trim t) = some v ∧ readAs v (Text.trim t) = .ok c := by
  simp only [parse]
  cases Verb.of? (Text.trim t) with
  | none => simp
  | some v => cases v <;> simp [readAs]

theorem verb_of_readAs {v : Verb} {source : Text} {c : Command} (h : readAs v source = .ok c) :
    c.verb = v := by
  cases v with
  | create =>
    obtain ⟨_, _, _, _, _, _, rfl⟩ := readCreate_eq_ok_iff.1 h
    rfl
  | insert =>
    obtain ⟨_, _, _, _, _, rfl⟩ := readInsert_eq_ok_iff.1 h
    rfl
  | select =>
    obtain ⟨_, _, _, _, _, _, _, _, _, _, hc⟩ := readSelect_eq_ok_iff.1 h
    rcases hc with ⟨_, rfl⟩ | ⟨_, _, _, _, _, _, rfl⟩ <;> rfl

/-- The tokens of a command: a word that is taken as a verb, and what this verb takes. -/
def Form (opens : Verb → Text → Prop) (ts : List Token) : Prop :=
  ∃ (v : Verb) (first : Token) (rest : List Token),
    ts = first :: rest ∧ first.IsWordWith (opens v) ∧ v.Takes rest

theorem exists_readList_iff {verb : Verb} {second fourth source : Text} {ts : List Token}
    {items : List Text} :
    (∃ table, readList verb second fourth source ts = .ok (table, items)) ↔
      ∃ first joint name opener list, ts = first :: joint :: name :: opener :: list ∧
        joint.isWord second = true ∧ name.IsWordWith Text.IsName ∧ opener.isWord fourth = true ∧
        list ≠ [] ∧ Token.items source list = items := by
  constructor
  · rintro ⟨table, h⟩
    obtain ⟨first, joint, name, opener, x, list, rfl, hj, hn, ho, rfl⟩ := readList_eq_ok_iff.1 h
    exact ⟨first, joint, name, opener, _, rfl, hj, ⟨table, hn⟩, ho, List.cons_ne_nil x list, rfl⟩
  · rintro ⟨first, joint, name, opener, list, rfl, hj, ⟨table, hn⟩, ho, hl, rfl⟩
    obtain ⟨x, list, rfl⟩ := List.exists_cons_of_ne_nil hl
    exact ⟨table, readList_eq_ok_iff.2
      ⟨first, joint, name, opener, x, list, rfl, hj, hn, ho, rfl⟩⟩

theorem exists_readCreate_iff {source : Text} :
    (∃ c, readCreate source = .ok c) ↔
      ∃ first rest, Token.scan source = .ok (first :: rest) ∧ Verb.create.Takes rest := by
  -- The list is the end of the tokens of the text, so its items are empty where it has no token.
  have hitems : ∀ {first joint name opener : Token} {list : List Token},
      Token.scan source = .ok (first :: joint :: name :: opener :: list) →
      ([] ∈ Token.items source list ↔ [] ∈ list.splitOnP fun x => x.lexeme == .comma) :=
    fun hs => Token.nil_mem_items_iff hs (List.sublist_append_right [_, _, _, _] _)
  constructor
  · rintro ⟨c, h⟩
    obtain ⟨ts, table, columns, hs, hread, he, -⟩ := readCreate_eq_ok_iff.1 h
    obtain ⟨first, joint, name, opener, list, rfl, hj, hn, ho, hl, rfl⟩ :=
      exists_readList_iff.1 ⟨table, hread⟩
    exact ⟨first, _, hs, .create hj hn ho hl fun hi => he ((hitems hs).2 hi)⟩
  · rintro ⟨first, rest, hs, ht⟩
    cases ht with
    | create hj hn ho hl hi =>
      obtain ⟨table, hread⟩ := exists_readList_iff.2 ⟨first, _, _, _, _, rfl, hj, hn, ho, hl, rfl⟩
      exact ⟨_, readCreate_eq_ok_iff.2
        ⟨_, table, _, hs, hread, fun he => hi ((hitems hs).1 he), rfl⟩⟩

theorem exists_readInsert_iff {source : Text} :
    (∃ c, readInsert source = .ok c) ↔
      ∃ first rest, Token.scan source = .ok (first :: rest) ∧ Verb.insert.Takes rest := by
  constructor
  · rintro ⟨c, h⟩
    obtain ⟨ts, table, list, hs, hread, -⟩ := readInsert_eq_ok_iff.1 h
    obtain ⟨first, joint, name, opener, list, rfl, hj, hn, ho, hl, -⟩ :=
      exists_readList_iff.1 ⟨table, hread⟩
    exact ⟨first, _, hs, .insert hj hn ho hl⟩
  · rintro ⟨first, rest, hs, ht⟩
    cases ht with
    | insert hj hn ho hl =>
      obtain ⟨table, hread⟩ := exists_readList_iff.2 ⟨first, _, _, _, _, rfl, hj, hn, ho, hl, rfl⟩
      exact ⟨_, readInsert_eq_ok_iff.2 ⟨_, table, _, hs, hread, rfl⟩⟩

theorem exists_ofTokens_iff {source : Text} {ts : List Token} :
    (∃ f, Filter.ofTokens source ts = .ok f) ↔ Filter.body ts ≠ [] := by
  by_cases hb : Filter.body ts = [] <;> simp [Filter.ofTokens, hb]

theorem exists_readSelect_iff {source : Text} :
    (∃ c, readSelect source = .ok c) ↔
      ∃ first rest, Token.scan source = .ok (first :: rest) ∧ Verb.select.Takes rest := by
  constructor
  · rintro ⟨c, h⟩
    obtain ⟨first, star, joint, name, rest, table, hs, hstar, hj, hn, hrest⟩ :=
      readSelect_eq_ok_iff.1 h
    rcases hrest with ⟨rfl, -⟩ | ⟨opener, condition, f, rfl, ho, hf, -⟩
    · exact ⟨first, _, hs, .select hstar hj ⟨table, hn⟩⟩
    · exact ⟨first, _, hs, .selectWhere hstar hj ⟨table, hn⟩ ho (exists_ofTokens_iff.1 ⟨f, hf⟩)⟩
  · rintro ⟨first, rest, hs, ht⟩
    cases ht with
    | select hstar hj hn =>
      obtain ⟨table, hn⟩ := hn
      exact ⟨_, readSelect_eq_ok_iff.2
        ⟨first, _, _, _, _, table, hs, hstar, hj, hn, .inl ⟨rfl, rfl⟩⟩⟩
    | selectWhere hstar hj hn ho hb =>
      obtain ⟨table, hn⟩ := hn
      obtain ⟨f, hf⟩ := exists_ofTokens_iff.2 hb
      exact ⟨_, readSelect_eq_ok_iff.2 ⟨first, _, _, _, _, table, hs, hstar, hj, hn,
        .inr ⟨_, _, f, rfl, ho, hf, rfl⟩⟩⟩

theorem exists_readAs_iff {v : Verb} {source : Text} :
    (∃ c, readAs v source = .ok c) ↔
      ∃ first rest, Token.scan source = .ok (first :: rest) ∧ v.Takes rest := by
  cases v with
  | create => exact exists_readCreate_iff
  | insert => exact exists_readInsert_iff
  | select => exact exists_readSelect_iff

/-- A command is named by its verb if the word that the verb is taken from is a name without the
Kelvin sign. -/
theorem form_namedBy_iff {ts : List Token} :
    Form Verb.NamedBy ts ↔ Form Verb.OpenedBy ts ∧
      ∀ x ∈ ts.head?, ∀ c ∈ x.text, Text.isNameChar c = true ∧ c ≠ '\u212A' := by
  have htext : ∀ {x : Token} {w : Text}, x.lexeme = .word w → x.text = w := fun hx => by
    rw [Token.text, hx, Lexeme.text]
  constructor
  · rintro ⟨v, first, rest, rfl, ⟨w, hw, hn⟩, ht⟩
    obtain ⟨ho, hc⟩ := Verb.namedBy_iff.1 hn
    refine ⟨⟨v, first, rest, rfl, ⟨w, hw, ho⟩, ht⟩, ?_⟩
    simpa [htext hw] using hc
  · rintro ⟨⟨v, first, rest, rfl, ⟨w, hw, ho⟩, ht⟩, hc⟩
    have hname : v.NamedBy w := Verb.namedBy_iff.2 ⟨ho, by simpa [htext hw] using hc⟩
    exact ⟨v, first, rest, rfl, ⟨w, hw, hname⟩, ht⟩

theorem exists_parse_iff {t : Text} :
    (∃ c, parse t = .ok c) ↔
      ∃ ts, Token.scan (Text.trim t) = .ok ts ∧ Form Verb.OpenedBy ts := by
  simp only [parse_eq_ok_iff_readAs]
  constructor
  · rintro ⟨c, v, hv, hc⟩
    obtain ⟨first, rest, hs, ht⟩ := exists_readAs_iff.1 ⟨c, hc⟩
    exact ⟨_, hs, v, first, rest, rfl, (Verb.of?_eq_some_iff_openedBy hs ht).1 hv, ht⟩
  · rintro ⟨ts, hs, v, first, rest, rfl, ho, ht⟩
    obtain ⟨c, hc⟩ := exists_readAs_iff.2 ⟨first, rest, hs, ht⟩
    exact ⟨c, v, (Verb.of?_eq_some_iff_openedBy hs ht).2 ho, hc⟩

/-- A text is a command just when its tokens are a word that a verb is taken from and what this
verb takes. Among these texts, the ones whose first token is the verb itself are those whose first
token is a name without the Kelvin sign. -/
theorem parse_grammar (t : Text) :
    ((∃ c, parse t = .ok c) ↔
      ∃ ts, Token.scan (Text.trim t) = .ok ts ∧ Form Verb.OpenedBy ts) ∧
    ∀ ts, Token.scan (Text.trim t) = .ok ts →
      (Form Verb.NamedBy ts ↔ (∃ c, parse t = .ok c) ∧
        ∀ x ∈ ts.head?, ∀ c ∈ x.text, Text.isNameChar c = true ∧ c ≠ '\u212A') := by
  refine ⟨exists_parse_iff, fun ts hs => ?_⟩
  rw [form_namedBy_iff, exists_parse_iff]
  refine and_congr_left' ⟨fun h => ⟨ts, hs, h⟩, ?_⟩
  rintro ⟨us, hus, h⟩
  rw [hs] at hus
  cases hus
  exact h

/-- What follows the verb in its word is read over. -/
theorem parse_grammar_hyphen :
    let t := "select-x * from t".toList
    parse t = .ok (select ['t'] none) ∧
      ¬∃ ts, Token.scan (Text.trim t) = .ok ts ∧ Form Verb.NamedBy ts := by
  refine ⟨by decide +kernel, ?_⟩
  rintro ⟨ts, hs, h⟩
  have hscan : Token.scan (Text.trim "select-x * from t".toList) =
      .ok [⟨.word "select-x".toList, 0⟩, ⟨.star, 9⟩, ⟨.word "from".toList, 11⟩,
        ⟨.word ['t'], 16⟩] := by
    decide +kernel
  rw [hscan] at hs
  cases hs
  have hhyphen := (form_namedBy_iff.1 h).2 _ rfl '-' (by decide)
  revert hhyphen
  decide

example : parse "ma\u212Ae table t fields a".toList = .ok (create ['t'] [['a']]) := by
  decide +kernel

end Command

end Textbase
