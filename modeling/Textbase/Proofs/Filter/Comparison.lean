import Textbase.Filter.Reading
import Textbase.Proofs.Token.Order
import Mathlib.Data.Nat.Find

/-! The comparison that a run of tokens makes. It is made at the first relation of the run, if a
name stands directly before that relation and something after it. A run whose first relation cannot
be used is kept as it is written and lets every row through, also when a later relation could be
used: so the comparison at the first usable relation is not always the one that is made. -/
namespace Textbase

/-- The name is the longest one at the end of the word. -/
def Text.EndsInName (w name : Text) : Prop :=
  name.IsName ∧ ∃ stem, stem ++ name = w ∧ ∀ c ∈ stem.getLast?, isNameChar c = false

theorem Text.takeWhile_reverse_eq_iff {w name : Text} :
    (w.reverse.takeWhile isNameChar).reverse = name ↔ (∀ c ∈ name, isNameChar c = true) ∧
      ∃ stem, stem ++ name = w ∧ ∀ c ∈ stem.getLast?, isNameChar c = false := by
  constructor
  · rintro rfl
    refine ⟨fun c hc => ?_, (w.reverse.dropWhile isNameChar).reverse, ?_, fun c hc => ?_⟩
    · exact List.all_eq_true.1 List.all_takeWhile c (List.mem_reverse.1 hc)
    · rw [← List.reverse_append, List.takeWhile_append_dropWhile, List.reverse_reverse]
    · rw [List.getLast?_reverse] at hc
      have hhead := List.head?_dropWhile_not isNameChar w.reverse
      rwa [Option.mem_def.1 hc] at hhead
  · rintro ⟨hname, stem, rfl, hstem⟩
    have hrest : stem.reverse.takeWhile isNameChar = [] := by
      rcases List.eq_nil_or_concat stem with rfl | ⟨stem, c, rfl⟩
      · rfl
      · have hc : isNameChar c = false := hstem c (by simp)
        simp [hc]
    rw [List.reverse_append, List.takeWhile_append_of_pos (by simpa using hname), hrest,
      List.append_nil, List.reverse_reverse]

namespace Filter

open Token

theorem trailingName?_eq_some_iff {x : Token} {name : Text} :
    trailingName? x = some name ↔ ∃ w, x.lexeme = .word w ∧ w.EndsInName name := by
  unfold trailingName?
  cases x.lexeme with
  | word w =>
    simp only [Option.ite_none_left_eq_some, Option.some.injEq, List.isEmpty_iff,
      Lexeme.word.injEq, exists_eq_left', Text.EndsInName]
    constructor
    · rintro ⟨hne, rfl⟩
      obtain ⟨hname, hstem⟩ := Text.takeWhile_reverse_eq_iff.1 (rfl : _ = _)
      exact ⟨⟨hne, hname⟩, hstem⟩
    · rintro ⟨hn, hstem⟩
      have he := Text.takeWhile_reverse_eq_iff.2 ⟨hn.isNameChar, hstem⟩
      exact ⟨he ▸ hn.ne_nil, he⟩
  | quoted q b => simp
  | comma => simp
  | star => simp
  | relation r => simp

def NoRelation (ts : List Token) : Prop := ∀ x ∈ ts, ∀ r, x.lexeme ≠ .relation r

theorem splitAtRelation?_eq_some_iff {run before after : List Token} {r : Relation} :
    splitAtRelation? run = some (before, r, after) ↔
      (∃ start, before ++ ⟨.relation r, start⟩ :: after = run) ∧ NoRelation before := by
  constructor
  · intro h
    induction run generalizing before with
    | nil => cases h
    | cons x run ih =>
      simp only [splitAtRelation?] at h
      split at h
      · rename_i s hs
        cases h
        exact ⟨⟨x.start, by rw [List.nil_append, ← hs]⟩, by simp [NoRelation]⟩
      · rename_i hs
        obtain ⟨⟨front, s, back⟩, hfront, he⟩ := Option.map_eq_some_iff.1 h
        cases he
        obtain ⟨⟨start, rfl⟩, hno⟩ := ih hfront
        exact ⟨⟨start, rfl⟩, List.forall_mem_cons.2 ⟨hs, hno⟩⟩
  · rintro ⟨⟨start, rfl⟩, hno⟩
    induction before with
    | nil => rfl
    | cons x before ih =>
      obtain ⟨hx, hno⟩ := List.forall_mem_cons.1 hno
      rw [List.cons_append]
      simp only [splitAtRelation?, ih hno, Option.map_some]

/-- A relation that a run can be compared by: the word directly before it ends in the name of the
column, and something comes after it. -/
structure Usable (run before : List Token) (r : Relation) (after : List Token) (column : Text) :
    Prop where
  run_eq : ∃ start, before ++ ⟨.relation r, start⟩ :: after = run
  column : ∃ x w, before.getLast? = some x ∧ x.lexeme = .word w ∧ w.EndsInName column
  after_ne_nil : after ≠ []

def FirstUsable (run before : List Token) : Prop :=
  ∀ front r back column, Usable run front r back column → before.length ≤ front.length

/-- The run compared by a usable relation, if the tokens before that relation are as demanded: the
literal is what comes after it, without one pair of marks around it. Any other run is kept as it
stands in the text. -/
inductive Reads (source : Text) (run : List Token) (demand : List Token → Prop) : Filter → Prop
  | compare {before after : List Token} {r : Relation} {column covered : Text}
      (h : Usable run before r after column) (hd : demand before)
      (hc : Covers source after covered) :
      Reads source run demand (.compare ⟨column, r, Value.unquote covered⟩)
  | unmatched {covered : Text}
      (h : ∀ before r after column, Usable run before r after column → ¬demand before)
      (hc : Covers source run covered) : Reads source run demand (.unmatched covered)

variable {source : Text} {ts run : List Token}

theorem sublist_after {before after : List Token} {x : Token} (h : before ++ x :: after = run) :
    after.Sublist run := by
  rw [← h]
  exact (List.sublist_cons_self x after).trans (List.sublist_append_right before _)

theorem comparison?_eq_some_iff (h : scan source = .ok ts) (hr : run.Sublist ts) {c : Comparison} :
    comparison? source run = some c ↔ ∃ before r after column covered,
      Usable run before r after column ∧ NoRelation before ∧ Covers source after covered ∧
        ⟨column, r, Value.unquote covered⟩ = c := by
  have hcovered : ∀ {before after : List Token} {x : Token}, before ++ x :: after = run →
      ∃ s, Covers source after s ∧ Text.trim (sourceText source after) = s := fun hrun => by
    obtain ⟨s, hs, htrim, -⟩ := exists_covers h ((sublist_after hrun).trans hr)
    exact ⟨s, hs, by rw [hs.sourceText_eq, htrim.trim_eq]⟩
  unfold comparison?
  simp only [Option.bind_eq_bind, Option.bind_eq_some_iff, Prod.exists,
    splitAtRelation?_eq_some_iff, trailingName?_eq_some_iff, Option.ite_none_left_eq_some,
    List.isEmpty_iff, Option.some.injEq]
  constructor
  · rintro ⟨before, r, after, ⟨⟨start, hrun⟩, hno⟩, column, ⟨x, hx, w, hw, hname⟩, hne, rfl⟩
    obtain ⟨s, hs, htrim⟩ := hcovered hrun
    exact ⟨before, r, after, column, s, ⟨⟨start, hrun⟩, ⟨x, w, hx, hw, hname⟩, hne⟩, hno, hs,
      by rw [htrim]⟩
  · rintro ⟨before, r, after, column, covered, ⟨⟨start, hrun⟩, ⟨x, w, hx, hw, hname⟩, hne⟩, hno,
      hc, rfl⟩
    obtain ⟨s, hs, htrim⟩ := hcovered hrun
    rw [← hc.sourceText_eq, hs.sourceText_eq]
    exact ⟨before, r, after, ⟨⟨start, hrun⟩, hno⟩, column, ⟨x, hx, w, hw, hname⟩, hne,
      by rw [htrim]⟩

/-- A run is compared by its first relation, or not at all. -/
theorem ofRun_eq_iff (h : scan source = .ok ts) (hr : run.Sublist ts) {f : Filter} :
    ofRun source run = f ↔ Reads source run NoRelation f := by
  unfold ofRun
  cases hc : comparison? source run with
  | some c =>
    obtain ⟨before, r, after, column, covered, husable, hno, hcovers, rfl⟩ :=
      (comparison?_eq_some_iff h hr).1 hc
    constructor
    · rintro rfl
      exact .compare husable hno hcovers
    · intro hf
      cases hf with
      | compare husable' hno' hcovers' =>
        have hc' := (comparison?_eq_some_iff h hr).2 ⟨_, _, _, _, _, husable', hno', hcovers', rfl⟩
        rw [hc, Option.some.injEq] at hc'
        rw [hc']
      | unmatched hnone => exact absurd hno (hnone _ _ _ _ husable)
  | none =>
    have hnone : ∀ before r after column, Usable run before r after column →
        ¬NoRelation before := by
      intro before r after column husable hno
      obtain ⟨start, hrun⟩ := husable.run_eq
      obtain ⟨s, hs, -⟩ := exists_covers h ((sublist_after hrun).trans hr)
      have hc' := (comparison?_eq_some_iff h hr).2 ⟨_, _, _, _, _, husable, hno, hs, rfl⟩
      rw [hc] at hc'
      cases hc'
    obtain ⟨s, hs, -⟩ := exists_covers h hr
    constructor
    · rintro rfl
      rw [hs.sourceText_eq]
      exact .unmatched hnone hs
    · intro hf
      cases hf with
      | compare husable hno => exact absurd hno (hnone _ _ _ _ husable)
      | unmatched _ hcovers => rw [hcovers.sourceText_eq]

theorem exists_firstUsable {before after : List Token} {r : Relation} {column : Text}
    (h : Usable run before r after column) :
    ∃ front s back name, Usable run front s back name ∧ FirstUsable run front := by
  classical
  have hex : ∃ n front s back name, Usable run front s back name ∧ front.length = n :=
    ⟨_, _, _, _, _, h, rfl⟩
  obtain ⟨front, s, back, name, hfront, hlength⟩ := Nat.find_spec hex
  refine ⟨front, s, back, name, hfront, fun front' s' back' name' hfront' => ?_⟩
  rw [hlength]
  exact Nat.find_min' hex ⟨_, _, _, _, hfront', rfl⟩

theorem firstUsable_of_noRelation {before after : List Token} {r : Relation} {column : Text}
    (h : Usable run before r after column) (hno : NoRelation before) : FirstUsable run before := by
  intro front s back name hfront
  obtain ⟨start, hrun⟩ := h.run_eq
  obtain ⟨start', hrun'⟩ := hfront.run_eq
  rcases List.append_eq_append_iff.1 (hrun.trans hrun'.symm) with ⟨m, rfl, -⟩ | ⟨m, rfl, hm⟩
  · exact List.length_append ▸ Nat.le_add_right _ _
  · cases m with
    | nil => simp
    | cons x m =>
      -- The other relation would stand among the tokens before the first relation.
      cases hm
      exact absurd rfl (hno ⟨.relation s, start'⟩ (by simp) s)

/-- What a run of tokens is: it is compared by its first relation if that one can be used, and kept
as it stands in the text if it cannot. The first relation that can be used decides in just those
runs in which no relation can be used or the first one can. -/
theorem reads_ofRun (h : scan source = .ok ts) (hr : run <:+: ts) :
    (∀ f, ofRun source run = f ↔ Reads source run NoRelation f) ∧
      (Reads source run (FirstUsable run) (ofRun source run) ↔
        ∀ before r after column, Usable run before r after column →
          ∃ front s back name, Usable run front s back name ∧ NoRelation front) := by
  have hreads : ∀ f, ofRun source run = f ↔ Reads source run NoRelation f :=
    fun f => ofRun_eq_iff h hr.sublist
  refine ⟨hreads, ?_⟩
  have hrun := (hreads _).1 rfl
  constructor
  · intro hfirst before r after column husable
    generalize ofRun source run = f at hrun hfirst
    cases hrun with
    | compare husable' hno => exact ⟨_, _, _, _, husable', hno⟩
    | unmatched =>
      obtain ⟨front, s, back, name, hfront, hmin⟩ := exists_firstUsable husable
      cases hfirst with
      | unmatched hnone => exact absurd hmin (hnone _ _ _ _ hfront)
  · intro hall
    generalize ofRun source run = f at hrun
    cases hrun with
    | compare husable hno hcovers =>
      exact .compare husable (firstUsable_of_noRelation husable hno) hcovers
    | unmatched hnone hcovers =>
      refine .unmatched (fun before r after column husable => ?_) hcovers
      obtain ⟨front, s, back, name, hfront, hno⟩ := hall _ _ _ _ husable
      exact absurd hno (hnone _ _ _ _ hfront)

/-- The last word before the relation is qualified, and its literal holds a further relation. -/
theorem reads_ofRun_qualified :
    let t := "x, t.größe<='a' = b".toList
    let run : List Token := [⟨.word ['x'], 0⟩, ⟨.comma, 1⟩, ⟨.word "t.größe".toList, 3⟩,
      ⟨.relation .le, 12⟩, ⟨.quoted '\'' ['a'], 14⟩, ⟨.relation .eq, 18⟩, ⟨.word ['b'], 20⟩]
    scan t = .ok run ∧ run <:+: run ∧
      (∀ f, ofRun t run = f ↔ Reads t run NoRelation f) ∧
      (Reads t run (FirstUsable run) (ofRun t run) ↔
        ∀ before r after column, Usable run before r after column →
          ∃ front s back name, Usable run front s back name ∧ NoRelation front) :=
  have h : scan "x, t.größe<='a' = b".toList = .ok [⟨.word ['x'], 0⟩, ⟨.comma, 1⟩,
      ⟨.word "t.größe".toList, 3⟩, ⟨.relation .le, 12⟩, ⟨.quoted '\'' ['a'], 14⟩,
      ⟨.relation .eq, 18⟩, ⟨.word ['b'], 20⟩] := by
    decide +kernel
  ⟨h, List.infix_rfl, reads_ofRun h List.infix_rfl⟩

/-- Before the first relation stands no word, and the second one, which could be used, is not
looked at. -/
theorem reads_ofRun_second :
    let t := "'a' = b = 3".toList
    let run : List Token := [⟨.quoted '\'' ['a'], 0⟩, ⟨.relation .eq, 4⟩, ⟨.word ['b'], 6⟩,
      ⟨.relation .eq, 8⟩, ⟨.word ['3'], 10⟩]
    scan t = .ok run ∧ parse t = .ok (unmatched t) ∧ ofRun t run = unmatched t ∧
      Reads t run (FirstUsable run) (.compare ⟨['b'], .eq, ['3']⟩) ∧
      ¬Reads t run (FirstUsable run) (ofRun t run) := by
  intro t run
  have hrun : ofRun t run = unmatched t := by decide +kernel
  have husable : Usable run (run.take 3) .eq (run.drop 4) ['b'] :=
    ⟨⟨8, by decide +kernel⟩, ⟨_, ['b'], rfl, rfl, by decide +kernel, [], rfl, by simp⟩, by decide⟩
  have hfirst : FirstUsable run (run.take 3) := by
    intro front r back column hfront
    obtain ⟨start, he⟩ := hfront.run_eq
    obtain ⟨x, w, hx, hw, -⟩ := hfront.column
    -- Before the first relation stands quoted text, and the third token is a word.
    rcases front with _ | ⟨y, _ | ⟨z, _ | ⟨u, front⟩⟩⟩
    · simp [run] at he
    · simp only [run, List.cons_append, List.cons.injEq] at he
      rw [List.getLast?_singleton, Option.some.injEq] at hx
      rw [← hx, he.1] at hw
      cases hw
    · simp [run] at he
    · simp [run]
  have hcovers : Covers t (run.drop 4) ['3'] := by
    show Text.slice? t 10 11 = some ['3']
    decide +kernel
  have hreads : Reads t run (FirstUsable run) (.compare ⟨['b'], .eq, Value.unquote ['3']⟩) :=
    .compare husable hfirst hcovers
  refine ⟨by decide +kernel, by decide +kernel, hrun, hreads, ?_⟩
  rw [hrun]
  intro h
  cases h with
  | unmatched hnone => exact hnone _ _ _ _ husable hfirst

end Filter

end Textbase
