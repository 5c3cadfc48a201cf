import Textbase.Proofs.Text.Parts
import Textbase.Proofs.Token.Items
import Mathlib.Data.List.Basic

/-! Tokens in the order of the text. Each starts with a character that is no whitespace, after the
token before it has ended. So a run of tokens covers a text that is not blank, and an item of a list
is empty only when no token stands between its commas. -/
namespace Textbase

namespace Lexeme

variable {c : Char} {t r : Text} {x : Lexeme}

theorem not_mem_of_splitAtMark {q : Char} {b : Text} (h : splitAtMark q t = some (b, r)) :
    q ∉ b := by
  induction t generalizing b with
  | nil => cases h
  | cons c t ih =>
    simp only [splitAtMark] at h
    split at h
    · cases h
      exact List.not_mem_nil
    · rename_i hc
      obtain ⟨⟨b', r'⟩, hb, he⟩ := Option.map_eq_some_iff.1 h
      cases he
      rw [List.mem_cons, not_or]
      exact ⟨Ne.symm hc, ih hb⟩

/-- Quoted text ends at the first mark that is equal to the one it starts with. -/
theorem quoted_of_read {q : Char} {b : Text} (h : read c t = .ok (quoted q b, r)) :
    Value.isQuote q = true ∧ q ∉ b := by
  unfold read at h
  (repeat' split at h) <;> simp only [Except.ok.injEq, Prod.mk.injEq, reduceCtorEq, false_and] at h
  rename_i hq _ _ _ hs
  obtain ⟨hx, -⟩ := h
  cases hx
  exact ⟨hq, not_mem_of_splitAtMark hs⟩

theorem trimmed_source (hc : Text.isSpace c = false) (h : read c t = .ok (x, r)) :
    x.source.Trimmed := by
  cases x with
  | word w =>
    obtain ⟨-, hw⟩ := word_of_read hc h
    exact ⟨fun d hd => hw d (List.mem_of_mem_head? hd),
      fun d hd => hw d (List.mem_of_mem_getLast? hd)⟩
  | quoted q b =>
    obtain ⟨hq, hb⟩ := quoted_of_read h
    have hs := Literal.isSpace_mark ⟨q, b, hq, hb⟩
    refine ⟨by simpa [source] using hs, ?_⟩
    rw [source, List.getLast?_concat]
    simpa using hs
  | comma => decide
  | star => decide
  | relation r => cases r <;> decide

end Lexeme

namespace Token

variable {u : Text} {pos : Nat} {ts : List Token}

/-- The first token of a text is what is read after the whitespace at its start, and the other
tokens are those of the text after it. -/
theorem exists_of_scanFrom_cons {x : Token} (h : scanFrom pos u = .ok (x :: ts)) :
    ∃ gap c t r, gap ++ c :: t = u ∧ (∀ d ∈ gap, Text.isSpace d = true) ∧
      Text.isSpace c = false ∧ Lexeme.read c t = .ok (x.lexeme, r) ∧
      pos + Text.byteLength gap = x.start ∧ scanFrom x.stop r = .ok ts := by
  induction u using scan_induction generalizing pos with
  | nil =>
    rw [scanFrom_nil] at h
    cases h
  | space c t hc ih =>
    rw [scanFrom_space hc] at h
    obtain ⟨gap, d, s, r, rfl, hgap, hd, hr, hstart, hlater⟩ := ih h
    refine ⟨c :: gap, d, s, r, rfl, ?_, hd, hr, ?_, hlater⟩
    · simpa [hc] using hgap
    · rw [Text.byteLength_cons, ← Nat.add_assoc, hstart]
  | error c t e hc he =>
    rw [scanFrom_error hc he] at h
    cases h
  | read c t y r hc hr ih =>
    obtain ⟨later, hl, he⟩ := (scanFrom_read_eq_ok_iff hc hr).1 h
    cases he
    exact ⟨[], c, t, r, rfl, by simp, hc, hr, rfl, hl⟩

theorem start_le_stop (x : Token) : x.start ≤ x.stop := Nat.le_add_right _ _

theorem pairwise_of_scanFrom (h : scanFrom pos u = .ok ts) :
    (∀ x ∈ ts, pos ≤ x.start) ∧ ts.Pairwise fun x y => x.stop ≤ y.start := by
  induction ts generalizing pos u with
  | nil => simp
  | cons x ts ih =>
    obtain ⟨gap, -, -, r, -, -, -, -, hstart, hlater⟩ := exists_of_scanFrom_cons h
    obtain ⟨hfrom, hpairwise⟩ := ih hlater
    refine ⟨fun y hy => ?_, List.pairwise_cons.2 ⟨hfrom, hpairwise⟩⟩
    have hx : pos ≤ x.start := hstart ▸ Nat.le_add_right _ _
    rcases List.mem_cons.1 hy with rfl | hy
    · exact hx
    · exact Nat.le_trans (Nat.le_trans hx x.start_le_stop) (hfrom y hy)

theorem exists_read_of_scanFrom (h : scanFrom pos u = .ok ts) :
    ∀ x ∈ ts, ∃ c t r, Text.isSpace c = false ∧ Lexeme.read c t = .ok (x.lexeme, r) := by
  induction ts generalizing pos u with
  | nil => simp
  | cons x ts ih =>
    obtain ⟨-, c, t, r, -, -, hc, hr, -, hlater⟩ := exists_of_scanFrom_cons h
    exact List.forall_mem_cons.2 ⟨⟨c, t, r, hc, hr⟩, ih hlater⟩

/-- The text from the start of the first token of a run to the end of the last. -/
def Covers (source : Text) (run : List Token) (s : Text) : Prop :=
  match run.head?, run.getLast? with
  | some a, some b => Text.slice? source a.start b.stop = some s
  | _, _ => s = []

theorem Covers.sourceText_eq {source s : Text} {run : List Token} (h : Covers source run s) :
    sourceText source run = s := by
  cases ha : run.head? <;> cases hb : run.getLast? <;> simp_all [Covers, sourceText]

/-- Of two tokens in the order of the text the text between their ends starts as the first one is
written and ends as the second one is. -/
theorem exists_slice?_of_liesIn {source : Text} {a b : Token} (ha : LiesIn source a)
    (hb : LiesIn source b) (h : a = b ∨ a.stop ≤ b.start) :
    ∃ s, Text.slice? source a.start b.stop = some s ∧ a.lexeme.source <+: s ∧
      b.lexeme.source <:+ s := by
  obtain ⟨before, hbefore, hstart⟩ := ha
  rcases h with rfl | h
  · obtain ⟨after, rfl⟩ := hbefore
    refine ⟨a.lexeme.source, ?_, List.prefix_rfl, List.suffix_rfl⟩
    rw [stop, ← hstart]
    exact Text.slice?_append before a.lexeme.source after
  · obtain ⟨middle, hmiddle, hend⟩ := hb
    -- The text before the second token goes on after the first one.
    obtain ⟨gap, rfl⟩ := Text.prefix_of_byteLength_le hbefore
      ((List.prefix_append middle _).trans hmiddle) (by
        rw [Text.byteLength_append, hstart, hend]
        exact h)
    obtain ⟨after, rfl⟩ := hmiddle
    refine ⟨a.lexeme.source ++ gap ++ b.lexeme.source, ?_, ?_, List.suffix_append _ _⟩
    · have hslice := Text.slice?_append before (a.lexeme.source ++ gap ++ b.lexeme.source) after
      simp only [stop, ← hstart, ← hend]
      simpa [Nat.add_assoc] using hslice
    · exact (List.prefix_append _ gap).trans (List.prefix_append _ _)

/-- The tokens of a run cover a part of the text, which neither starts nor ends with whitespace and
is empty for no token only. -/
theorem exists_covers {run : List Token} (h : scan u = .ok ts) (hr : run.Sublist ts) :
    ∃ s, Covers u run s ∧ s.Trimmed ∧ (s = [] → run = []) := by
  unfold Covers
  cases run with
  | nil => exact ⟨[], rfl, by decide, fun _ => rfl⟩
  | cons x run =>
    obtain ⟨y, hy⟩ : ∃ y, (x :: run).getLast? = some y :=
      ⟨_, List.getLast?_eq_some_getLast (List.cons_ne_nil x run)⟩
    have hlast : y ∈ x :: run := List.mem_of_getLast? hy
    have hxy : x = y ∨ x.stop ≤ y.start := by
      rcases List.mem_cons.1 hlast with rfl | hm
      · exact .inl rfl
      · exact .inr ((List.pairwise_cons.1 ((pairwise_of_scanFrom h).2.sublist hr)).1 y hm)
    have hx := hr.subset List.mem_cons_self
    have hy' := hr.subset hlast
    obtain ⟨s, hs, hprefix, hsuffix⟩ :=
      exists_slice?_of_liesIn (liesIn_of_scan h x hx) (liesIn_of_scan h y hy') hxy
    obtain ⟨_, _, _, hc, hread⟩ := exists_read_of_scanFrom h x hx
    obtain ⟨_, _, _, hc', hread'⟩ := exists_read_of_scanFrom h y hy'
    obtain ⟨tail, rfl⟩ := hprefix
    obtain ⟨front, hfront⟩ := hsuffix
    have hne := Lexeme.source_ne_nil_of_read hread
    have hne' := Lexeme.source_ne_nil_of_read hread'
    refine ⟨_, by rw [List.head?_cons, hy]; exact hs, ⟨?_, ?_⟩, ?_⟩
    · rw [List.head?_append_of_ne_nil _ hne]
      exact (Lexeme.trimmed_source hc hread).head
    · rw [← hfront, List.getLast?_append_of_ne_nil _ hne']
      exact (Lexeme.trimmed_source hc' hread').last
    · intro he
      exact absurd (List.append_eq_nil_iff.1 he).1 hne

theorem nil_mem_items_iff {list : List Token} (h : scan u = .ok ts) (hl : list.Sublist ts) :
    [] ∈ items u list ↔ [] ∈ list.splitOnP fun x => x.lexeme == .comma := by
  rw [items, List.mem_map]
  constructor
  · rintro ⟨run, hr, he⟩
    obtain ⟨s, hs, htrim, hnil⟩ := exists_covers h ((sublist_of_mem_splitOnP hr).trans hl)
    rw [hs.sourceText_eq, htrim.trim_eq] at he
    rwa [← hnil he]
  · exact fun hr => ⟨[], hr, rfl⟩

end Token

end Textbase
