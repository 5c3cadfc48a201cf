import Textbase.Proofs.Token.Order

/-! The tokens account for the whole text. Their spans are cut out of it one after another, between
characters, and only whitespace lies outside of them. What a span covers is how the token is
written, and by itself it is that token again. -/
namespace Textbase

namespace Relation

theorem isSome_read?_iff {t : Text} :
    (read? t).isSome = true ↔
      (∃ u, t = '!' :: '=' :: u) ∨ ∃ c u, c ∈ ['=', '<', '>'] ∧ t = c :: u := by
  unfold read?
  split <;> simp_all

theorem isSome_read?_append {t : Text} (h : (read? t).isSome = true) (b : Text) :
    (read? (t ++ b)).isSome = true := by
  rw [isSome_read?_iff] at h ⊢
  rcases h with ⟨u, rfl⟩ | ⟨c, u, hc, rfl⟩
  · exact .inl ⟨u ++ b, rfl⟩
  · exact .inr ⟨c, u ++ b, hc, rfl⟩

end Relation

namespace Lexeme

variable {c : Char} {t r : Text} {x : Lexeme}

/-- A word that goes on in a longer text goes on in the beginning of that text. -/
theorem endsWord_of_append {b : Text} (h : endsWord (c :: (t ++ b)) = false) :
    endsWord (c :: t) = false := by
  have hr := Relation.isSome_read?_append (t := c :: t) (b := b)
  rw [List.cons_append] at hr
  simp only [endsWord, Bool.or_eq_false_iff] at h ⊢
  refine ⟨h.1, Bool.eq_false_iff.2 fun hs => ?_⟩
  rw [hr hs] at h
  cases h.2

theorem splitWord_fst (t : Text) : splitWord (splitWord t).1 = ((splitWord t).1, []) := by
  induction t with
  | nil => rfl
  | cons c t ih =>
    by_cases h : endsWord (c :: t) = true
    · simp [splitWord, h]
    · have he : endsWord (c :: (splitWord t).1) = false := by
        refine endsWord_of_append (b := (splitWord t).2) ?_
        rw [splitWord_append]
        exact Bool.eq_false_iff.2 h
      simp [splitWord, h, he, ih]

/-- What a lexeme is read from, without what follows it, is read as the same lexeme. -/
theorem exists_read_source (h : read c t = .ok (x, r)) :
    ∃ s, x.source = c :: s ∧ read c s = .ok (x, []) := by
  unfold read at h
  split at h
  · rename_i hc
    cases h
    exact ⟨[], by simp [source, text, hc], by simp [read, hc]⟩
  · split at h
    · rename_i hc
      cases h
      exact ⟨[], by simp [source, text, hc], by simp [read, hc]⟩
    · rename_i hcomma hstar
      split at h
      · rename_i hq
        split at h
        · cases h
        · rename_i hs
          cases h
          exact ⟨_, rfl, read_quoted hq (not_mem_of_splitAtMark hs) []⟩
      · rename_i hq
        split at h
        · rename_i hs
          cases h
          obtain ⟨d, s, hd⟩ := List.exists_cons_of_ne_nil (Relation.symbol_ne_nil ‹Relation›)
          have hsymbol := Relation.symbol_append_of_read? hs
          rw [hd, List.cons_append, List.cons.injEq] at hsymbol
          obtain ⟨rfl, -⟩ := hsymbol
          refine ⟨s, hd, ?_⟩
          rw [read, if_neg hcomma, if_neg hstar, if_neg hq, ← hd, Relation.read?_symbol]
        · rename_i hn
          cases h
          have hword : Relation.read? (c :: (splitWord t).1) = none := by
            rw [← Option.not_isSome_iff_eq_none]
            intro hs
            have ha := Relation.isSome_read?_append hs (splitWord t).2
            rw [List.cons_append, splitWord_append, hn] at ha
            cases ha
          refine ⟨_, rfl, ?_⟩
          rw [read, if_neg hcomma, if_neg hstar, if_neg hq, hword, splitWord_fst]

end Lexeme

namespace Token

/-- What a token covers in its text: quoted text with a mark before and after it that it does not
contain, and any other token as it is. -/
def IsWrittenAs (x : Token) (s : Text) : Prop :=
  match x.lexeme with
  | .quoted q b => x.text = b ∧ s = q :: b ++ [q] ∧ Value.isQuote q = true ∧ q ∉ b
  | _ => s = x.text

def Spans (x : Token) (offset : Nat) : Prop := x.start ≤ offset ∧ offset < x.stop

structure AccountsFor (source : Text) (ts : List Token) : Prop where
  start_lt_stop : ∀ x ∈ ts, x.start < x.stop
  stop_le : ∀ x ∈ ts, x.stop ≤ Text.byteLength source
  ordered : ts.Pairwise fun x y => x.stop ≤ y.start
  isSpace : ∀ before c after, before ++ c :: after = source →
    (∀ x ∈ ts, ¬x.Spans (Text.byteLength before)) → Text.isSpace c = true
  written : ∀ x ∈ ts, ∃ s, Text.slice? source x.start x.stop = some s ∧ x.IsWrittenAs s ∧
    scan s = .ok [⟨x.lexeme, 0⟩]

variable {u : Text} {pos : Nat} {ts : List Token}

theorem scan_source {c : Char} {t r : Text} {x : Lexeme} (hc : Text.isSpace c = false)
    (h : Lexeme.read c t = .ok (x, r)) : scan x.source = .ok [⟨x, 0⟩] := by
  obtain ⟨s, hs, hr⟩ := Lexeme.exists_read_source h
  rw [hs, scan, scanFrom_read hc hr, scanFrom_nil]
  rfl

theorem isWrittenAs_source {c : Char} {t r : Text} {x : Token}
    (h : Lexeme.read c t = .ok (x.lexeme, r)) : x.IsWrittenAs x.lexeme.source := by
  unfold IsWrittenAs text
  cases hx : x.lexeme with
  | quoted q b =>
    rw [hx] at h
    exact ⟨rfl, rfl, Lexeme.quoted_of_read h⟩
  | word w => rfl
  | comma => rfl
  | star => rfl
  | relation r => rfl

theorem isSpace_of_not_spans {before after : Text} {c : Char}
    (h : scanFrom pos u = .ok ts) (hu : before ++ c :: after = u)
    (hout : ∀ x ∈ ts, ¬x.Spans (pos + Text.byteLength before)) : Text.isSpace c = true := by
  induction u using scan_induction generalizing pos ts before with
  | nil => simp at hu
  | space d t hd ih =>
    rw [scanFrom_space hd] at h
    cases before with
    | nil =>
      cases hu
      exact hd
    | cons e before =>
      cases hu
      exact ih h rfl (by simpa [Nat.add_assoc] using hout)
  | error d t e hd he =>
    rw [scanFrom_error hd he] at h
    cases h
  | read d t x r hd hr ih =>
    obtain ⟨later, hl, rfl⟩ := (scanFrom_read_eq_ok_iff hd hr).1 h
    have hlater : ∀ m, before = x.source ++ m → m ++ c :: after = r → Text.isSpace c = true := by
      rintro m rfl hm
      refine ih hl hm fun y hy => ?_
      simpa [Nat.add_assoc] using hout y (List.mem_cons_of_mem _ hy)
    rw [← Lexeme.source_append_of_read hr] at hu
    rcases List.append_eq_append_iff.1 hu with ⟨m, hm, hrest⟩ | ⟨m, hm, hrest⟩
    · cases m with
      | nil => exact hlater [] (by simpa using hm.symm) hrest
      | cons e m =>
        -- The character would stand inside the token that is read first.
        refine absurd ⟨Nat.le_add_right _ _, ?_⟩ (hout ⟨x, pos⟩ List.mem_cons_self)
        have he := e.utf8Size_pos
        simp only [stop, hm, Text.byteLength_append, Text.byteLength_cons]
        omega
    · exact hlater m hm hrest.symm

theorem slice?_of_liesIn {source : Text} {x : Token} (h : LiesIn source x) :
    Text.slice? source x.start x.stop = some x.lexeme.source := by
  obtain ⟨before, ⟨after, rfl⟩, hstart⟩ := h
  rw [stop, ← hstart]
  exact Text.slice?_append before x.lexeme.source after

theorem stop_le_of_liesIn {source : Text} {x : Token} (h : LiesIn source x) :
    x.stop ≤ Text.byteLength source := by
  obtain ⟨before, ⟨after, rfl⟩, hstart⟩ := h
  rw [Text.byteLength_append, Text.byteLength_append, hstart]
  exact Nat.le_add_right _ _

/-- Tokens have spans of at least one byte, in the order of the text and apart from each other. Only
whitespace is left between them, each is written in the text as it has to be, and what is written is
that token when it is read by itself. -/
theorem accountsFor_of_scan {source : Text} (h : scan source = .ok ts) : AccountsFor source ts where
  start_lt_stop := by
    intro x hx
    obtain ⟨_, _, _, -, hr⟩ := exists_read_of_scanFrom h x hx
    have hn := mt Text.byteLength_eq_zero_iff.1 (Lexeme.source_ne_nil_of_read hr)
    rw [stop]
    omega
  stop_le x hx := stop_le_of_liesIn (liesIn_of_scan h x hx)
  ordered := (pairwise_of_scanFrom h).2
  isSpace before c after hu hout := isSpace_of_not_spans h hu (by simpa using hout)
  written := by
    intro x hx
    obtain ⟨c, t, r, hc, hr⟩ := exists_read_of_scanFrom h x hx
    exact ⟨_, slice?_of_liesIn (liesIn_of_scan h x hx), isWrittenAs_source hr, scan_source hc hr⟩

/-- A mark in a word, an accented word next to a quote, and an exclamation mark on either side of an
equals sign. -/
theorem accountsFor_of_scan_adjacent :
    let t := "it's\u3000'é,'ü!!=,*".toList
    let ts : List Token := [⟨.word "it's".toList, 0⟩, ⟨.quoted '\'' "é,".toList, 7⟩,
      ⟨.word "ü!".toList, 12⟩, ⟨.relation .ne, 15⟩, ⟨.comma, 17⟩, ⟨.star, 18⟩]
    scan t = .ok ts ∧ AccountsFor t ts :=
  have h : scan "it's\u3000'é,'ü!!=,*".toList = .ok [⟨.word "it's".toList, 0⟩,
      ⟨.quoted '\'' "é,".toList, 7⟩, ⟨.word "ü!".toList, 12⟩, ⟨.relation .ne, 15⟩, ⟨.comma, 17⟩,
      ⟨.star, 18⟩] := by
    decide +kernel
  ⟨h, accountsFor_of_scan h⟩

end Token

end Textbase
