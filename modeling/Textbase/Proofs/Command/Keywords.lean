import Textbase.Proofs.Command.Grammar
import Textbase.Proofs.Filter.Keywords
import Textbase.Proofs.Filter.Placement

/-! The words of a command that count in either case, and all that does not. The letters of its
keywords may change their case in any way and the text stays the same command; the table, the
columns, the values and the condition are cut out of the text as they are written there. -/
namespace Textbase

namespace Verb

theorem foldKelvin_toLower (c : Char) : Text.foldKelvin c.toLower = Text.foldKelvin c :=
  Text.apply_toLower (f := Text.foldKelvin) (by decide) c

theorem openedBy_foldAscii {v : Verb} {w : Text} :
    v.OpenedBy (Text.foldAscii w) ↔ v.OpenedBy w := by
  have htake : ((Text.foldAscii w).takeWhile Text.isNameChar).map Text.foldKelvin =
      (w.takeWhile Text.isNameChar).map Text.foldKelvin := by
    simp only [Text.foldAscii, List.takeWhile_map, List.map_map, Function.comp_def,
      Text.isNameChar_toLower, foldKelvin_toLower]
  have hall : (∀ c ∈ Text.foldAscii w, Text.isNameChar c = true) ↔
      ∀ c ∈ w, Text.isNameChar c = true := by
    simp only [Text.foldAscii, List.forall_mem_map, Text.isNameChar_toLower]
  constructor
  · rintro ⟨hname, hwhole⟩
    exact ⟨htake ▸ hname, fun hv => hall.1 (hwhole hv)⟩
  · rintro ⟨hname, hwhole⟩
    exact ⟨htake ▸ hname, fun hv => hall.2 (hwhole hv)⟩

end Verb

namespace Command

open Token

variable {t u : Text} {ts us : List Token} {c : Command} {v : Verb}

/-- What the tokens of a command say does not depend on where it stands. -/
theorem readList_shift {s : Text} (h : ∀ x ∈ ts, LiesIn s x) (before after : Text) (verb : Verb)
    (second fourth : Text) :
    readList verb second fourth (before ++ s ++ after) (ts.map (shift (Text.byteLength before))) =
      readList verb second fourth s ts := by
  rcases ts with _ | ⟨first, _ | ⟨joint, _ | ⟨name, _ | ⟨opener, _ | ⟨x, list⟩⟩⟩⟩⟩
  any_goals rfl
  have hlist : ∀ y ∈ x :: list, LiesIn s y := fun y hy => h y (by simp_all)
  have hitems := items_shift hlist before after
  rw [List.map_cons] at hitems
  simp only [List.map_cons, readList, isWord_shift, hitems]
  rfl

theorem readAs_spaces {before s after : Text} (hb : ∀ d ∈ before, Text.isSpace d = true)
    (ha : ∀ d ∈ after, Text.isSpace d = true) (v : Verb) :
    readAs v (before ++ s ++ after) = readAs v s := by
  have hscan : Token.scan (before ++ s ++ after) =
      (Token.scan s).map (List.map (shift (Text.byteLength before))) := by
    rw [Token.scan, scanFrom_append_spaces ha, scanFrom_spaces hb, Nat.zero_add, scanFrom_eq_scan]
  cases hs : Token.scan s with
  | error e =>
    rw [hs] at hscan
    cases v <;> simp only [readAs, readCreate, readInsert, readSelect, Command.scan, hs, hscan,
      Except.map] <;> rfl
  | ok ts =>
    rw [hs] at hscan
    have hlies := liesIn_of_scan hs
    cases v with
    | create =>
      simp only [readAs]
      rw [readCreate_of_scan hscan, readCreate_of_scan hs, readList_shift hlies]
    | insert =>
      simp only [readAs]
      rw [readInsert_of_scan hscan, readInsert_of_scan hs, readList_shift hlies]
    | select =>
      simp only [readAs, readSelect, Command.scan, hs, hscan, Except.map]
      rcases ts with _ | ⟨first, _ | ⟨star, _ | ⟨joint, _ | ⟨name, _ | ⟨opener, condition⟩⟩⟩⟩⟩
      any_goals rfl
      have hcondition : ∀ y ∈ condition, LiesIn s y := fun y hy => hlies y (by simp_all)
      have hfilter := Filter.ofTokens_shift hcondition before after
      simp only [List.map_cons, bind, Except.bind, isWord_shift, hfilter]
      rfl

theorem parse_eq_ok_iff_scan : parse t = .ok c ↔ ∃ v first rest,
    Token.scan t = .ok (first :: rest) ∧ first.IsWordWith v.OpenedBy ∧ readAs v t = .ok c := by
  obtain ⟨before, after, ht, hb, ha⟩ := Text.exists_trim t
  have hread : ∀ v, readAs v t = readAs v (Text.trim t) := fun v => by
    have h := readAs_spaces (s := Text.trim t) hb ha v
    rwa [ht] at h
  have hscan : Token.scan t =
      (Token.scan (Text.trim t)).map (List.map (shift (Text.byteLength before))) := by
    rw [← scanFrom_eq_scan, ← Nat.zero_add (Text.byteLength before), ← scanFrom_spaces hb,
      ← scanFrom_append_spaces ha, ht, Token.scan]
  rw [parse_eq_ok_iff_readAs]
  refine exists_congr fun v => ?_
  rw [hread]
  constructor
  · rintro ⟨hv, hc⟩
    obtain ⟨first, rest, hs, htakes⟩ := exists_readAs_iff.1 ⟨c, hc⟩
    rw [hs] at hscan
    exact ⟨_, _, hscan, (Verb.of?_eq_some_iff_openedBy hs htakes).1 hv, hc⟩
  · rintro ⟨first, rest, hs, hopens, hc⟩
    obtain ⟨first', rest', hs', htakes⟩ := exists_readAs_iff.1 ⟨c, hc⟩
    rw [hscan, hs'] at hs
    cases hs
    exact ⟨(Verb.of?_eq_some_iff_openedBy hs' htakes).2 hopens, hc⟩

def listKeywords : List Token → List Token
  | first :: joint :: _ :: opener :: _ => [first, joint, opener]
  | _ => []

def selectKeywords : List Token → List Token
  | first :: _ :: joint :: _ :: rest =>
    first :: joint :: (rest.take 1 ++ Filter.keywords rest.tail)
  | _ => []

/-- The words of a command that count in either case: the verb and the words that it takes before
and after the table, and those of the condition. -/
def keywords : Verb → List Token → List Token
  | .select => selectKeywords
  | _ => listKeywords

/-- The parts of a command are cut out of its text as they are written there. Only one pair of marks
is taken off values and literals, and what stands before a name off a column in a comparison. -/
inductive CutFrom (t : Text) : List Token → Command → Prop
  | create {first joint name opener : Token} {list : List Token} {table : Text}
      {columns : List Text} (hn : name.lexeme = .word table)
      (hl : List.Forall₂ (Covers t) (list.splitOnP fun x => x.lexeme == .comma) columns) :
      CutFrom t (first :: joint :: name :: opener :: list) (create table columns)
  | insert {first joint name opener : Token} {list : List Token} {table : Text}
      {values : List Text} (hn : name.lexeme = .word table)
      (hl : List.Forall₂ (Covers t) (list.splitOnP fun x => x.lexeme == .comma) values) :
      CutFrom t (first :: joint :: name :: opener :: list)
        (insert table (values.map Value.unquote))
  | select {first star joint name : Token} {table : Text} (hn : name.lexeme = .word table) :
      CutFrom t [first, star, joint, name] (select table none)
  | selectWhere {first star joint name opener : Token} {condition : List Token} {table : Text}
      {f : Filter} (hn : name.lexeme = .word table)
      (hf : List.Forall₂ (fun run g => Filter.Reads t run Filter.NoRelation g)
        (Filter.runs (Filter.body condition)) f.atoms) :
      CutFrom t (first :: star :: joint :: name :: opener :: condition) (select table (some f))

theorem forall₂_covers_items {list : List Token} (hs : Token.scan t = .ok ts)
    (hl : list.Sublist ts) :
    List.Forall₂ (Covers t) (list.splitOnP fun x => x.lexeme == .comma) (items t list) := by
  rw [items, List.forall₂_map_right_iff, List.forall₂_same]
  intro run hr
  obtain ⟨s, hcovers, htrim, -⟩ := exists_covers hs ((sublist_of_mem_splitOnP hr).trans hl)
  rwa [hcovers.sourceText_eq, htrim.trim_eq]

theorem cutFrom_of_readAs (hs : Token.scan t = .ok ts) (h : readAs v t = .ok c) :
    CutFrom t ts c := by
  cases v with
  | create =>
    obtain ⟨ts', table, columns, hs', hl, -, rfl⟩ := readCreate_eq_ok_iff.1 h
    cases hs.symm.trans hs'
    obtain ⟨first, joint, name, opener, x, list, rfl, -, hn, -, rfl⟩ := readList_eq_ok_iff.1 hl
    exact .create hn.1 (forall₂_covers_items hs (List.sublist_append_right [_, _, _, _] _))
  | insert =>
    obtain ⟨ts', table, values, hs', hl, rfl⟩ := readInsert_eq_ok_iff.1 h
    cases hs.symm.trans hs'
    obtain ⟨first, joint, name, opener, x, list, rfl, -, hn, -, rfl⟩ := readList_eq_ok_iff.1 hl
    exact .insert hn.1 (forall₂_covers_items hs (List.sublist_append_right [_, _, _, _] _))
  | select =>
    obtain ⟨first, star, joint, name, rest, table, hs', -, -, hn, hrest⟩ := readSelect_eq_ok_iff.1 h
    cases hs.symm.trans hs'
    rcases hrest with ⟨rfl, rfl⟩ | ⟨opener, condition, f, rfl, -, hf, rfl⟩
    · exact .select hn.1
    · exact .selectWhere hn.1
        (Filter.forall₂_reads_atoms hs (List.sublist_append_right [_, _, _, _, _] _) hf)

variable {ks : List Token}

theorem isWordWith_openedBy_of_fold_eq {x y : Token} (h : x.fold = y.fold)
    (hx : x.IsWordWith v.OpenedBy) : y.IsWordWith v.OpenedBy := by
  obtain ⟨w, hw, ho⟩ := hx
  have hlexeme := congrArg Token.lexeme h
  rw [Token.fold, Token.fold, hw] at hlexeme
  cases hy : y.lexeme with
  | word w' =>
    rw [hy] at hlexeme
    refine ⟨w', hy, Verb.openedBy_foldAscii.1 ?_⟩
    rw [← Lexeme.word.inj hlexeme]
    exact Verb.openedBy_foldAscii.2 ho
  | _ =>
    rw [hy] at hlexeme
    cases hlexeme

theorem items_recased (hs : Token.scan t = .ok ts) (hks : ks ⊆ ts)
    (hu : Text.Recased (Within ks) 0 t u) {list : List Token} (hl : list <:+: ts)
    (hout : ∀ x ∈ list, x ∉ ks) : items u list = items t list := by
  refine List.map_congr_left fun run hr => ?_
  rw [sourceText_recased hs hks hu ((infix_of_mem_splitOnP hr).trans hl)
    fun x hx => hout x (mem_of_mem_splitOnP hr hx)]

theorem exists_readList_recased {verb : Verb} {second fourth table : Text} {list : List Text}
    (hs : Token.scan t = .ok ts) (hu : Text.Recased (Within (listKeywords ts)) 0 t u)
    (hl : readList verb second fourth t ts = .ok (table, list)) :
    ∃ us, Token.scan u = .ok us ∧ readList verb second fourth u us = .ok (table, list) := by
  obtain ⟨first, joint, name, opener, x, rest, rfl, hj, hn, ho, rfl⟩ := readList_eq_ok_iff.1 hl
  have hks : [first, joint, opener] ⊆ first :: joint :: name :: opener :: x :: rest := by simp
  have hout : ∀ y ∈ name :: x :: rest, y ∉ [first, joint, opener] := by
    have hnodup := nodup_of_scan hs
    grind
  obtain ⟨hname, hlist⟩ := List.forall_mem_cons.1 hout
  obtain ⟨us, hus, hagree⟩ := exists_scan_of_recased hs hks hu
  obtain _ | ⟨-, _ | ⟨hjoint, _ | ⟨hname', _ | ⟨hopener, htail⟩⟩⟩⟩ := hagree
  obtain rfl := hname'.eq_of_not_mem hname
  obtain rfl := Agrees.eq_of_forall₂ htail hlist
  refine ⟨_, hus, readList_eq_ok_iff.2 ⟨_, _, name, _, x, rest, rfl, hjoint.isWord_eq _ ▸ hj, hn,
    hopener.isWord_eq _ ▸ ho, ?_⟩⟩
  exact items_recased hs hks hu (List.suffix_append [first, joint, name, opener] _).isInfix hlist

theorem mem_of_mem_selectKeywords {first star joint name y : Token} {rest : List Token}
    (h : y ∈ selectKeywords (first :: star :: joint :: name :: rest)) :
    y = first ∨ y = joint ∨ y ∈ rest := by
  simp only [selectKeywords, List.mem_cons, List.mem_append] at h
  refine h.imp_right (Or.imp_right ?_)
  rintro (hm | hm)
  · exact List.mem_of_mem_take hm
  · exact List.mem_of_mem_tail (Filter.keywords_subset _ hm)

theorem not_mem_selectKeywords {first star joint name opener y : Token} {condition : List Token}
    (hn : (first :: star :: joint :: name :: opener :: condition).Nodup)
    (hy : y ∈ Filter.body condition) (hj : Filter.joins y = false) :
    y ∉ selectKeywords (first :: star :: joint :: name :: opener :: condition) := by
  have hcondition : condition.Nodup := (List.suffix_append [_, _, _, _, _] _).sublist.nodup hn
  have hbody := (Filter.suffix_body condition).subset hy
  have hword := Filter.not_mem_keywords hcondition hy hj
  simp only [selectKeywords, List.take_succ_cons, List.take_zero, List.tail_cons]
  grind

theorem readSelect_recased (hs : Token.scan t = .ok ts)
    (hu : Text.Recased (Within (selectKeywords ts)) 0 t u) (h : readSelect t = .ok c) :
    readSelect u = .ok c := by
  obtain ⟨first, star, joint, name, rest, table, hs', hstar, hj, hn, hrest⟩ :=
    readSelect_eq_ok_iff.1 h
  cases hs.symm.trans hs'
  have hnodup := nodup_of_scan hs
  have hks : selectKeywords (first :: star :: joint :: name :: rest) ⊆
      first :: star :: joint :: name :: rest := fun y hy => by
    have hm := mem_of_mem_selectKeywords hy
    grind
  have hout : ∀ y ∈ [star, name], y ∉ selectKeywords (first :: star :: joint :: name :: rest) := by
    intro y hm hy
    have hm' := mem_of_mem_selectKeywords hy
    grind
  obtain ⟨us, hus, hagree⟩ := exists_scan_of_recased hs hks hu
  obtain _ | ⟨-, _ | ⟨hstar', _ | ⟨hjoint, _ | ⟨hname', htail⟩⟩⟩⟩ := hagree
  obtain rfl := hstar'.eq_of_not_mem (hout _ (by simp))
  obtain rfl := hname'.eq_of_not_mem (hout _ (by simp))
  refine readSelect_eq_ok_iff.2
    ⟨_, star, _, name, _, table, hus, hstar, hjoint.isWord_eq _ ▸ hj, hn, ?_⟩
  rcases hrest with ⟨rfl, rfl⟩ | ⟨opener, condition, f, rfl, ho, hf, rfl⟩
  · cases htail
    exact .inl ⟨rfl, rfl⟩
  · obtain _ | ⟨hopener, hcondition⟩ := htail
    refine .inr ⟨_, _, f, rfl, hopener.isWord_eq _ ▸ ho, ?_, rfl⟩
    rw [← hf]
    have hfree : ∀ y ∈ Filter.body condition, Filter.joins y = false →
        y ∉ selectKeywords (first :: star :: joint :: name :: opener :: condition) :=
      fun _ => not_mem_selectKeywords hnodup
    refine Filter.ofTokens_recased hcondition hfree fun run hr r hpart => ?_
    have hwithin : r <:+: Filter.body condition := hpart.trans (Filter.infix_of_mem_runs hr)
    refine sourceText_recased hs hks hu ?_ fun y hy => hfree y (hwithin.subset hy)
      (Filter.joins_of_mem_runs hr y (hpart.subset hy))
    exact hwithin.trans ((Filter.suffix_body condition).trans
      (List.suffix_append [first, star, joint, name, opener] condition)).isInfix

theorem readAs_recased (hs : Token.scan t = .ok ts) (h : readAs v t = .ok c)
    (hu : Text.Recased (Within (keywords v ts)) 0 t u) : readAs v u = .ok c := by
  cases v with
  | create =>
    obtain ⟨ts', table, columns, hs', hl, he, rfl⟩ := readCreate_eq_ok_iff.1 h
    cases hs.symm.trans hs'
    obtain ⟨us, hus, hl⟩ := exists_readList_recased hs hu hl
    exact readCreate_eq_ok_iff.2 ⟨us, table, columns, hus, hl, he, rfl⟩
  | insert =>
    obtain ⟨ts', table, values, hs', hl, rfl⟩ := readInsert_eq_ok_iff.1 h
    cases hs.symm.trans hs'
    obtain ⟨us, hus, hl⟩ := exists_readList_recased hs hu hl
    exact readInsert_eq_ok_iff.2 ⟨us, table, values, hus, hl, rfl⟩
  | select => exact readSelect_recased hs hu h

/-- A command stays the same when letters of its keywords change their case in any way. All else of
it is cut out of the text as it is written. -/
theorem parse_recased (h : parse t = .ok c) :
    ∃ ts, Token.scan t = .ok ts ∧ CutFrom t ts c ∧
      ∀ u, Text.Recased (Within (keywords c.verb ts)) 0 t u → parse u = .ok c := by
  obtain ⟨v, first, rest, hs, hopens, hc⟩ := parse_eq_ok_iff_scan.1 h
  obtain rfl := verb_of_readAs hc
  refine ⟨_, hs, cutFrom_of_readAs hs hc, fun u hu => ?_⟩
  obtain ⟨us, hus, hfold⟩ := exists_scan_of_foldAscii_eq hs hu.foldAscii_eq
  obtain ⟨first', rest', rfl, hfirst, -⟩ := List.map_eq_cons_iff.1 hfold.symm
  exact parse_eq_ok_iff_scan.2 ⟨_, first', rest', hus,
    isWordWith_openedBy_of_fold_eq hfirst.symm hopens, readAs_recased hs hc hu⟩

/-- A table, a column and a literal that look like keywords keep their case. -/
theorem parse_recased_lookalikes :
    let t := " select * from From where where t.Where = 'And' and Or x".toList
    let u := " SELECT * fROM From WHERE Where t.Where = 'And' AND oR x".toList
    let f : Filter := .and (.compare ⟨"Where".toList, .eq, "And".toList⟩) (.unmatched [])
    let c := select "From".toList (some (.or f (.unmatched ['x'])))
    parse t = .ok c ∧ parse u = .ok c := by
  intro t u f c
  have h : parse t = .ok c := by decide +kernel
  obtain ⟨ts, hs, -, hrecased⟩ := parse_recased h
  have hscan : Token.scan t = .ok [⟨.word "select".toList, 1⟩, ⟨.star, 8⟩,
      ⟨.word "from".toList, 10⟩, ⟨.word "From".toList, 15⟩, ⟨.word "where".toList, 20⟩,
      ⟨.word "where".toList, 26⟩, ⟨.word "t.Where".toList, 32⟩, ⟨.relation .eq, 40⟩,
      ⟨.quoted '\'' "And".toList, 42⟩, ⟨.word "and".toList, 48⟩, ⟨.word "Or".toList, 52⟩,
      ⟨.word ['x'], 55⟩] := by
    decide +kernel
  refine ⟨h, hrecased u ?_⟩
  cases hs.symm.trans hscan
  decide +kernel

end Command

end Textbase
