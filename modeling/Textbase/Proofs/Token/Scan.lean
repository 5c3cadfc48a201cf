import Textbase.Token
import Textbase.Text.Alphanumeric

/-! How the tokens of a text depend on its parts. Whitespace or a comma between two parts keeps
their tokens apart, whitespace at the end counts for nothing, and the place of a text only moves its
tokens. Each token lies where it says it does. -/
namespace Textbase

namespace Text

theorem has_alphanumeric_of_mem_whitespace :
    ∀ r ∈ whitespace, ∀ k < r.2 + 1 - r.1, alphanumeric.has (r.1 + k) = false := by
  decide +kernel

theorem isNameChar_of_isSpace {c : Char} (h : isSpace c = true) : isNameChar c = false := by
  obtain ⟨r, hr, hlo, hhi⟩ := Ranges.mem_of_has h
  have ha := has_alphanumeric_of_mem_whitespace r hr (c.toNat - r.1) (by omega)
  rw [Nat.add_sub_cancel' hlo] at ha
  have hu : c ≠ '_' := by
    rintro rfl
    revert h
    decide
  simp [isNameChar, isAlphanumeric, ha, hu]

theorem isSpace_of_isNameChar {c : Char} (h : isNameChar c = true) : isSpace c = false := by
  rw [Bool.eq_false_iff]
  intro hs
  rw [isNameChar_of_isSpace hs] at h
  cases h

theorem not_mem_marks_of_isNameChar {c : Char} (h : isNameChar c = true) :
    c ∉ [',', '*', '!', '>', '<', '=', '"', '\''] := by
  have hm : [',', '*', '!', '>', '<', '=', '"', '\''].all (fun d => !isNameChar d) = true := by
    decide
  intro hc
  have hn := List.all_eq_true.1 hm c hc
  simp [h] at hn

def OpensBlank (t : Text) : Prop := ∀ c ∈ t.head?, isSpace c = true

theorem opensBlank_cons {c : Char} (h : isSpace c = true) (t : Text) : OpensBlank (c :: t) := by
  simp [OpensBlank, h]

theorem opensBlank_of_spaces {t : Text} (h : ∀ c ∈ t, isSpace c = true) : OpensBlank t :=
  fun c hc => h c (List.mem_of_mem_head? hc)

end Text

namespace Relation

/-- The longer symbols end in `=`, so any other character leaves a symbol before it as it is. -/
theorem read?_append {c : Char} {t b : Text} (hb : b.head? ≠ some '=') :
    read? (c :: (t ++ b)) = (read? (c :: t)).map fun (r, u) => (r, u ++ b) := by
  cases t with
  | nil =>
    rw [List.nil_append]
    unfold read?
    split <;> simp_all
  | cons d t =>
    rw [List.cons_append]
    by_cases hd : d = '='
    · subst hd
      unfold read?
      split
      all_goals simp_all only [List.cons.injEq, true_and]
      all_goals grind
    · unfold read?
      split <;> simp_all

end Relation

namespace Lexeme

variable {c : Char} {t b r : Text} {x : Lexeme}

/-- Before such a text a lexeme is complete: a word ends there, and no relation symbol goes on. -/
structure Delimits (b : Text) : Prop where
  endsWord : endsWord b = true
  head_ne_equals : b.head? ≠ some '='

theorem delimits_of_opensBlank (hb : b.OpensBlank) : Delimits b where
  endsWord := by
    cases b with
    | nil => rfl
    | cons c b => simp [endsWord, show Text.isSpace c = true from hb c rfl]
  head_ne_equals := by
    intro h
    have hs := hb '=' h
    revert hs
    decide

theorem delimits_comma (b : Text) : Delimits (',' :: b) := ⟨rfl, by simp⟩

theorem endsWord_append (hb : Delimits b) : endsWord (t ++ b) = endsWord t := by
  cases t with
  | nil => exact hb.endsWord
  | cons c t => simp [endsWord, Relation.read?_append hb.head_ne_equals]

theorem splitWord_append_delimits (hb : Delimits b) :
    splitWord (t ++ b) = ((splitWord t).1, (splitWord t).2 ++ b) := by
  induction t with
  | nil =>
    cases b with
    | nil => rfl
    | cons c b => simp [splitWord, hb.endsWord]
  | cons c t ih =>
    have he := endsWord_append (t := c :: t) hb
    rw [List.cons_append] at he ⊢
    by_cases h : endsWord (c :: t) = true <;> simp [splitWord, he, h, ih]

theorem splitAtMark_append {q : Char} {u : Text} (h : splitAtMark q t = some (u, r)) :
    splitAtMark q (t ++ b) = some (u, r ++ b) := by
  induction t generalizing u with
  | nil => cases h
  | cons c t ih =>
    rw [List.cons_append]
    simp only [splitAtMark] at h ⊢
    split at h
    · rename_i hc
      cases h
      simp [hc]
    · rename_i hc
      obtain ⟨⟨u', r'⟩, hu, he⟩ := Option.map_eq_some_iff.1 h
      cases he
      simp [hc, ih hu]

theorem splitAtMark_eq_none_iff {q : Char} : splitAtMark q t = none ↔ q ∉ t := by
  induction t with
  | nil => simp [splitAtMark]
  | cons c t ih =>
    by_cases h : c = q
    · simp [splitAtMark, h]
    · simp [splitAtMark, h, ih, Ne.symm h]

theorem splitAtMark_of_not_mem {q : Char} {v : Text} (h : q ∉ v) (r : Text) :
    splitAtMark q (v ++ q :: r) = some (v, r) := by
  induction v with
  | nil => simp [splitAtMark]
  | cons c v ih =>
    rw [List.mem_cons, not_or] at h
    simp [splitAtMark, Ne.symm h.1, ih h.2]

theorem ne_separators_of_isQuote (h : Value.isQuote c = true) : c ≠ ',' ∧ c ≠ '*' := by
  constructor <;> rintro rfl <;> cases h

theorem read_quoted {q : Char} {v : Text} (hq : Value.isQuote q = true) (hv : q ∉ v) (r : Text) :
    read q (v ++ q :: r) = .ok (quoted q v, r) := by
  obtain ⟨hcomma, hstar⟩ := ne_separators_of_isQuote hq
  rw [read, if_neg hcomma, if_neg hstar, if_pos hq, splitAtMark_of_not_mem hv]

/-- A lexeme is not changed by what follows it after whitespace or a comma. -/
theorem read_append (h : read c t = .ok (x, r)) (hb : Delimits b) :
    read c (t ++ b) = .ok (x, r ++ b) := by
  unfold read at h ⊢
  rw [Relation.read?_append hb.head_ne_equals, splitWord_append_delimits hb]
  split at h
  · cases h
    simp_all
  · split at h
    · cases h
      simp_all
    · split at h
      · split at h
        · cases h
        · rename_i hs
          cases h
          simp_all [splitAtMark_append hs]
      · split at h
        · cases h
          simp_all
        · cases h
          simp_all

theorem endsWord_of_isNameChar (hc : Text.isNameChar c = true) (t : Text) :
    endsWord (c :: t) = false := by
  have hm := Text.not_mem_marks_of_isNameChar hc
  have hr : Relation.read? (c :: t) = none := by
    unfold Relation.read?
    split <;> simp_all
  simp_all [endsWord, Text.isSpace_of_isNameChar hc]

theorem read_of_isNameChar (hc : Text.isNameChar c = true) (t : Text) :
    read c t = .ok (word (c :: (splitWord t).1), (splitWord t).2) := by
  have he := endsWord_of_isNameChar hc t
  have hm := Text.not_mem_marks_of_isNameChar hc
  have hq : Value.isQuote c = false := by
    simp_all [Value.isQuote]
  simp_all [read, endsWord]

theorem read_name (hc : Text.isNameChar c = true) (ht : ∀ d ∈ t, Text.isNameChar d = true) :
    read c t = .ok (word (c :: t), []) := by
  have hs : splitWord t = (t, []) := by
    induction t with
    | nil => rfl
    | cons d t ih =>
      have hd := endsWord_of_isNameChar (ht d (by simp)) t
      simp [splitWord, hd, ih fun e he => ht e (by simp [he])]
  rw [read_of_isNameChar hc, hs]

theorem endsWord_splitWord (t : Text) : endsWord (splitWord t).2 = true := by
  induction t with
  | nil => rfl
  | cons c t ih => by_cases h : endsWord (c :: t) = true <;> simp [splitWord, h, ih]

theorem isSpace_of_mem_splitWord : ∀ d ∈ (splitWord t).1, Text.isSpace d = false := by
  induction t with
  | nil => simp [splitWord]
  | cons c t ih =>
    by_cases h : endsWord (c :: t) = true
    · simp [splitWord, h]
    · have hc : Text.isSpace c = false := by
        simp_all [endsWord]
      simpa [splitWord, h, hc] using ih

theorem word_of_read {w : Text} (hc : Text.isSpace c = false) (h : read c t = .ok (word w, r)) :
    endsWord r = true ∧ ∀ d ∈ w, Text.isSpace d = false := by
  unfold read at h
  (repeat' split at h) <;> simp only [Except.ok.injEq, Prod.mk.injEq, reduceCtorEq, false_and] at h
  obtain ⟨hw, rfl⟩ := h
  cases hw
  refine ⟨endsWord_splitWord t, fun d hd => ?_⟩
  rcases List.mem_cons.1 hd with rfl | hd
  · exact hc
  · exact isSpace_of_mem_splitWord d hd

theorem read_eq_error_iff {e : UnclosedQuote} :
    read c t = .error e ↔ Value.isQuote c = true ∧ c ∉ t ∧ UnclosedQuote.mk c = e := by
  rw [← splitAtMark_eq_none_iff]
  unfold read
  by_cases h : Value.isQuote c = true
  · obtain ⟨hcomma, hstar⟩ := ne_separators_of_isQuote h
    rw [if_neg hcomma, if_neg hstar, if_pos h]
    cases splitAtMark c t <;> simp [h]
  · rw [if_neg h]
    repeat' split
    all_goals simp [h]

end Lexeme

namespace Token

theorem scanFrom_error {c : Char} {t : Text} {e : UnclosedQuote} (hc : Text.isSpace c = false)
    (h : Lexeme.read c t = .error e) (pos : Nat) : scanFrom pos (c :: t) = .error e := by
  rw [scanFrom]
  simp only [hc, Bool.false_eq_true, if_false]
  split <;> simp_all

@[simp] theorem scanFrom_nil (pos : Nat) : scanFrom pos [] = .ok [] := by rw [scanFrom]

/-- Induction along the scan of a text: it ends, skips whitespace, stops at a quote that is never
closed, or reads a lexeme. -/
@[elab_as_elim]
theorem scan_induction {motive : Text → Prop} (nil : motive [])
    (space : ∀ c t, Text.isSpace c = true → motive t → motive (c :: t))
    (error : ∀ c t e, Text.isSpace c = false → Lexeme.read c t = .error e → motive (c :: t))
    (read : ∀ c t x r, Text.isSpace c = false → Lexeme.read c t = .ok (x, r) → motive r →
      motive (c :: t)) (t : Text) : motive t := by
  induction hn : t.length using Nat.strongRecOn generalizing t with
  | _ n ih =>
    subst hn
    cases t with
    | nil => exact nil
    | cons c t =>
      cases hc : Text.isSpace c with
      | true => exact space c t hc (ih t.length (by simp) t rfl)
      | false =>
        cases h : Lexeme.read c t with
        | error e => exact error c t e hc h
        | ok y => exact read c t y.1 y.2 hc h (ih _ (Lexeme.length_lt_of_read h) y.2 rfl)

theorem byteLength_of_read {c : Char} {t r : Text} {x : Lexeme} (h : Lexeme.read c t = .ok (x, r)) :
    Text.byteLength (c :: t) = Text.byteLength x.source + Text.byteLength r := by
  rw [← Lexeme.source_append_of_read h, Text.byteLength_append]

theorem scanFrom_read_eq_ok_iff {c : Char} {t r : Text} {x : Lexeme} {pos : Nat}
    {ts : List Token} (hc : Text.isSpace c = false) (h : Lexeme.read c t = .ok (x, r)) :
    scanFrom pos (c :: t) = .ok ts ↔
      ∃ later, scanFrom (pos + Text.byteLength x.source) r = .ok later ∧
        ⟨x, pos⟩ :: later = ts := by
  rw [scanFrom_read hc h]
  cases scanFrom (pos + Text.byteLength x.source) r <;> simp [Except.map]

/-- Whitespace or a comma between two texts keeps their tokens apart. -/
theorem scanFrom_append {a b : Text} {pos : Nat} {ts : List Token} (h : scanFrom pos a = .ok ts)
    (hb : Lexeme.Delimits b) :
    scanFrom pos (a ++ b) = (scanFrom (pos + Text.byteLength a) b).map (ts ++ ·) := by
  induction a using scan_induction generalizing pos ts with
  | nil =>
    rw [scanFrom_nil] at h
    cases h
    rw [Text.byteLength_nil, Nat.add_zero, List.nil_append]
    cases scanFrom pos b <;> rfl
  | space c t hc ih =>
    rw [scanFrom_space hc] at h
    rw [List.cons_append, scanFrom_space hc, ih h, Text.byteLength_cons, Nat.add_assoc]
  | error c t e hc he =>
    rw [scanFrom_error hc he] at h
    cases h
  | read c t x r hc hr ih =>
    obtain ⟨later, hl, rfl⟩ := (scanFrom_read_eq_ok_iff hc hr).1 h
    rw [List.cons_append, scanFrom_read hc (Lexeme.read_append hr hb), ih hl,
      byteLength_of_read hr, Nat.add_assoc]
    cases scanFrom (pos + (Text.byteLength x.source + Text.byteLength r)) b <;> rfl

theorem scanFrom_spaces {w : Text} (hw : ∀ c ∈ w, Text.isSpace c = true) (pos : Nat) (t : Text) :
    scanFrom pos (w ++ t) = scanFrom (pos + Text.byteLength w) t := by
  induction w generalizing pos with
  | nil => rfl
  | cons c w ih =>
    rw [List.cons_append, scanFrom_space (hw c List.mem_cons_self), Text.byteLength_cons,
      ← Nat.add_assoc]
    exact ih (fun d hd => hw d (List.mem_cons_of_mem c hd)) _

theorem scanFrom_of_spaces {t : Text} (h : ∀ c ∈ t, Text.isSpace c = true) (pos : Nat) :
    scanFrom pos t = .ok [] := by
  have hs := scanFrom_spaces h pos []
  rwa [List.append_nil, scanFrom_nil] at hs

/-- Whitespace at the end counts for nothing, also when a quote is never closed. -/
theorem scanFrom_append_spaces {u : Text} (hu : ∀ c ∈ u, Text.isSpace c = true) (pos : Nat)
    (t : Text) : scanFrom pos (t ++ u) = scanFrom pos t := by
  induction t using scan_induction generalizing pos with
  | nil => rw [List.nil_append, scanFrom_of_spaces hu, scanFrom_nil]
  | space c t hc ih => rw [List.cons_append, scanFrom_space hc, scanFrom_space hc, ih]
  | error c t e hc he =>
    have he' : Lexeme.read c (t ++ u) = .error e := by
      rw [Lexeme.read_eq_error_iff] at he ⊢
      refine ⟨he.1, ?_, he.2.2⟩
      rw [List.mem_append, not_or]
      refine ⟨he.2.1, fun hm => ?_⟩
      rw [hu c hm] at hc
      cases hc
    rw [List.cons_append, scanFrom_error hc he', scanFrom_error hc he]
  | read c t x r hc hr ih =>
    have hd := Lexeme.delimits_of_opensBlank (Text.opensBlank_of_spaces hu)
    have hr' := Lexeme.read_append hr hd
    rw [List.cons_append, scanFrom_read hc hr', ih, scanFrom_read hc hr]

def shift (n : Nat) (x : Token) : Token := ⟨x.lexeme, n + x.start⟩

@[simp] theorem lexeme_shift (n : Nat) (x : Token) : (x.shift n).lexeme = x.lexeme := rfl
@[simp] theorem start_shift (n : Nat) (x : Token) : (x.shift n).start = n + x.start := rfl
@[simp] theorem stop_shift (n : Nat) (x : Token) : (x.shift n).stop = n + x.stop := by
  simp [stop, Nat.add_assoc]
@[simp] theorem isWord_shift (n : Nat) (x : Token) (k : Text) :
    (x.shift n).isWord k = x.isWord k := rfl
@[simp] theorem shift_zero : shift 0 = id := by
  funext x
  simp [shift]

theorem map_shift_nil (ts : List Token) : ts.map (shift (Text.byteLength [])) = ts := by simp

theorem scanFrom_shift (n pos : Nat) (t : Text) :
    scanFrom (n + pos) t = (scanFrom pos t).map (List.map (shift n)) := by
  induction t using scan_induction generalizing pos with
  | nil => simp [Except.map]
  | space c t hc ih => rw [scanFrom_space hc, scanFrom_space hc, Nat.add_assoc, ih]
  | error c t e hc he =>
    rw [scanFrom_error hc he, scanFrom_error hc he]
    rfl
  | read c t x r hc hr ih =>
    rw [scanFrom_read hc hr, scanFrom_read hc hr, Nat.add_assoc, ih]
    cases scanFrom (pos + Text.byteLength x.source) r <;> rfl

theorem scanFrom_eq_scan (n : Nat) (t : Text) :
    scanFrom n t = (scan t).map (List.map (shift n)) :=
  scanFrom_shift n 0 t

theorem splitOnP_map_shift {p : Token → Bool} (n : Nat) (hp : ∀ x, p (x.shift n) = p x)
    (ts : List Token) :
    (ts.map (shift n)).splitOnP p = (ts.splitOnP p).map (List.map (shift n)) := by
  induction ts with
  | nil => rfl
  | cons t ts ih =>
    obtain ⟨run, runs, hr⟩ := List.exists_cons_of_ne_nil (List.splitOnP_ne_nil p ts)
    simp only [List.map_cons, List.splitOnP_cons_eq_if_modifyHead, hp, ih, hr]
    split <;> rfl

theorem infix_of_mem_splitOnP {p : Token → Bool} {ts run : List Token}
    (h : run ∈ ts.splitOnP p) : run <:+: ts := by
  suffices hp : ∃ r rs, ts.splitOnP p = r :: rs ∧ r <+: ts ∧ ∀ s ∈ rs, s <:+: ts by
    obtain ⟨r, rs, hr, hfirst, hlater⟩ := hp
    rw [hr] at h
    rcases List.mem_cons.1 h with rfl | h
    · exact hfirst.isInfix
    · exact hlater run h
  clear h
  induction ts with
  | nil => exact ⟨[], [], rfl, List.prefix_rfl, by simp⟩
  | cons t ts ih =>
    obtain ⟨r, rs, hr, hfirst, hlater⟩ := ih
    have htail : ts <:+: t :: ts := (List.suffix_cons t ts).isInfix
    rw [List.splitOnP_cons_eq_if_modifyHead, hr, List.modifyHead_cons]
    split
    · refine ⟨[], r :: rs, rfl, List.nil_prefix, List.forall_mem_cons.2 ⟨?_, fun s hs => ?_⟩⟩
      · exact hfirst.isInfix.trans htail
      · exact (hlater s hs).trans htail
    · exact ⟨t :: r, rs, rfl, List.cons_prefix_cons.2 ⟨rfl, hfirst⟩,
        fun s hs => (hlater s hs).trans htail⟩

theorem sublist_of_mem_splitOnP {p : Token → Bool} {ts run : List Token}
    (hr : run ∈ ts.splitOnP p) : run.Sublist ts :=
  (infix_of_mem_splitOnP hr).sublist

theorem mem_of_mem_splitOnP {p : Token → Bool} {ts run : List Token} {x : Token}
    (hr : run ∈ ts.splitOnP p) (hx : x ∈ run) : x ∈ ts :=
  (sublist_of_mem_splitOnP hr).subset hx

/-- A name is one word, unless a word could go on after it. -/
theorem scanFrom_name {w t : Text} (hw : w.IsName) (ht : Lexeme.Delimits t) (pos : Nat) :
    scanFrom pos (w ++ t) =
      (scanFrom (pos + Text.byteLength w) t).map (⟨.word w, pos⟩ :: ·) := by
  obtain ⟨c, w, rfl⟩ := List.exists_cons_of_ne_nil hw.ne_nil
  have hc := hw.isNameChar c (by simp)
  have hr : Lexeme.read c (w ++ t) = .ok (.word (c :: w), t) :=
    Lexeme.read_append (Lexeme.read_name hc fun d hd => hw.isNameChar d (by simp [hd])) ht
  rw [List.cons_append, scanFrom_read (Text.isSpace_of_isNameChar hc) hr]
  rfl

theorem scan_joined {a b w : Text} {ts us : List Token} (ha : scan a = .ok ts) (hw : w.IsName)
    (hb : scan b = .ok us) :
    scan (a ++ (' ' :: w ++ [' ']) ++ b) =
      .ok (ts ++ ⟨.word w, Text.byteLength a + ' '.utf8Size⟩ ::
        us.map (shift (Text.byteLength (a ++ (' ' :: w ++ [' ']))))) := by
  have hs : Text.isSpace ' ' = true := by decide
  have hd : ∀ t, Lexeme.Delimits (' ' :: t) := fun t =>
    Lexeme.delimits_of_opensBlank (Text.opensBlank_cons hs t)
  have hpos : Text.byteLength a + ' '.utf8Size + Text.byteLength w + ' '.utf8Size =
      Text.byteLength (a ++ (' ' :: w ++ [' '])) := by
    simp [Nat.add_assoc]
  have happend : a ++ (' ' :: w ++ [' ']) ++ b = a ++ ' ' :: (w ++ ' ' :: b) := by simp
  rw [scan] at ha
  rw [scan, happend, scanFrom_append ha (hd _), Nat.zero_add, scanFrom_space hs,
    scanFrom_name hw (hd _), scanFrom_space hs, hpos, scanFrom_eq_scan, hb]
  rfl

/-- The token is written in the text where it says that it starts. -/
def LiesIn (source : Text) (x : Token) : Prop :=
  ∃ u, u ++ x.lexeme.source <+: source ∧ Text.byteLength u = x.start

theorem liesIn_of_scanFrom (before : Text) {t : Text} {ts : List Token}
    (h : scanFrom (Text.byteLength before) t = .ok ts) : ∀ x ∈ ts, LiesIn (before ++ t) x := by
  induction t using scan_induction generalizing before ts with
  | nil =>
    rw [scanFrom_nil] at h
    cases h
    simp
  | space c t hc ih =>
    rw [scanFrom_space hc] at h
    have ht := ih (before ++ [c]) (by simpa using h)
    simpa using ht
  | error c t e hc he =>
    rw [scanFrom_error hc he] at h
    cases h
  | read c t x r hc hr ih =>
    obtain ⟨later, hl, rfl⟩ := (scanFrom_read_eq_ok_iff hc hr).1 h
    rw [← Lexeme.source_append_of_read hr, ← List.append_assoc]
    intro y hy
    rcases List.mem_cons.1 hy with rfl | hy
    · exact ⟨before, List.prefix_append _ r, rfl⟩
    · exact ih (before ++ x.source) (by simpa using hl) y hy

theorem liesIn_of_scan {t : Text} {ts : List Token} (h : scan t = .ok ts) :
    ∀ x ∈ ts, LiesIn t x :=
  liesIn_of_scanFrom [] h

theorem sourceText_shift {s : Text} {ts : List Token} (h : ∀ x ∈ ts, LiesIn s x)
    (before after : Text) :
    sourceText (before ++ s ++ after) (ts.map (shift (Text.byteLength before))) =
      sourceText s ts := by
  unfold sourceText
  rw [List.head?_map, List.getLast?_map]
  cases ha : ts.head? with
  | none => rfl
  | some a =>
    cases hb : ts.getLast? with
    | none => rfl
    | some b =>
      obtain ⟨u, hu, hua⟩ := h a (List.mem_of_mem_head? ha)
      obtain ⟨v, hv, hvb⟩ := h b (List.mem_of_mem_getLast? hb)
      have hs := Text.slice?_shift ((List.prefix_append u _).trans hu) hv before after
      rw [Text.byteLength_append, hua, hvb] at hs
      simp only [Option.map_some, start_shift, stop_shift]
      rw [stop, hs]

end Token

end Textbase
