import Textbase.Proofs.Text.Lowercase
import Textbase.Proofs.Token.Cover

/-! The case of ASCII letters does not decide where tokens are. The tokens of a text in lower case
are those of the text, each in lower case: no letter separates tokens, opens quoted text or is part
of a relation symbol. -/
namespace Textbase

namespace Text

@[simp] theorem toLower_toLower (c : Char) : c.toLower.toLower = c.toLower :=
  apply_toLower (f := Char.toLower) (by decide) c

@[simp] theorem utf8Size_toLower (c : Char) : c.toLower.utf8Size = c.utf8Size :=
  apply_toLower (f := Char.utf8Size) (by decide) c

@[simp] theorem isSpace_toLower (c : Char) : isSpace c.toLower = isSpace c :=
  apply_toLower (by decide) c

@[simp] theorem isNameChar_toLower (c : Char) : isNameChar c.toLower = isNameChar c :=
  apply_toLower (by decide) c

@[simp] theorem isQuote_toLower (c : Char) : Value.isQuote c.toLower = Value.isQuote c :=
  apply_toLower (by decide) c

theorem isAlpha_toLower (c : Char) : c.toLower.isAlpha = c.isAlpha :=
  apply_toLower (f := Char.isAlpha) (by decide) c

theorem toLower_of_not_isAlpha {c : Char} (h : c.isAlpha = false) : c.toLower = c := by
  have hascii : ∀ n < 128, (Char.ofNat n).isAlpha = false →
      (Char.ofNat n).toLower = Char.ofNat n := by
    decide
  by_cases hc : 91 ≤ c.toNat
  · exact toLower_of_le hc
  · rw [← Char.ofNat_toNat c] at h ⊢
    exact hascii _ (by omega) h

theorem toLower_eq_iff {c d : Char} (hd : d.isAlpha = false) : c.toLower = d ↔ c = d := by
  constructor
  · rintro rfl
    rw [isAlpha_toLower] at hd
    exact (toLower_of_not_isAlpha hd).symm
  · rintro rfl
    exact toLower_of_not_isAlpha hd

theorem isAlpha_of_isQuote {q : Char} (hq : Value.isQuote q = true) : q.isAlpha = false := by
  rw [Value.isQuote, Bool.or_eq_true, beq_iff_eq, beq_iff_eq] at hq
  rcases hq with rfl | rfl <;> decide

@[simp] theorem foldAscii_cons (c : Char) (t : Text) :
    foldAscii (c :: t) = c.toLower :: foldAscii t := rfl

@[simp] theorem foldAscii_foldAscii (t : Text) : foldAscii (foldAscii t) = foldAscii t := by
  simp [foldAscii]

@[simp] theorem byteLength_foldAscii (t : Text) : byteLength (foldAscii t) = byteLength t := by
  induction t with
  | nil => rfl
  | cons c t ih => simp [ih]

end Text

open Text

namespace Relation

/-- The characters that symbols are made of. -/
def marks : Text := ['!', '>', '<', '=']

theorem read?_eq_none {c : Char} (h : c ∉ marks) (t : Text) : read? (c :: t) = none := by
  unfold read?
  split <;> simp_all [marks]

theorem read?_foldAscii (t : Text) :
    read? (foldAscii t) = (read? t).map fun (r, u) => (r, foldAscii u) := by
  have hmarks : ∀ d ∈ marks, d.isAlpha = false := forall_eq_false_of_any (by decide)
  cases t with
  | nil => rfl
  | cons c t =>
    rw [foldAscii_cons]
    by_cases hc : c ∈ marks
    · rw [toLower_of_not_isAlpha (hmarks c hc)]
      simp only [marks, List.mem_cons, List.not_mem_nil, or_false] at hc
      cases t with
      | nil => rcases hc with rfl | rfl | rfl | rfl <;> rfl
      | cons d t =>
        rw [foldAscii_cons]
        by_cases hd : d = '='
        · subst hd
          rcases hc with rfl | rfl | rfl | rfl <;> rfl
        · have hd' := mt (toLower_eq_iff (by decide)).1 hd
          rcases hc with rfl | rfl | rfl | rfl <;> simp [read?, hd, hd']
    · have hlower : c.toLower ∉ marks := by
        intro h
        rw [← (toLower_eq_iff (hmarks _ h)).1 rfl] at h
        exact hc h
      rw [read?_eq_none hc, read?_eq_none hlower]
      rfl

end Relation

namespace Lexeme

variable {c : Char} {t : Text}

def fold : Lexeme → Lexeme
  | word t => word (foldAscii t)
  | quoted q t => quoted q (foldAscii t)
  | x => x

@[simp] theorem byteLength_source_fold (x : Lexeme) :
    byteLength x.fold.source = byteLength x.source := by
  cases x <;> simp [fold, source, text]

/-- What a lexeme is in lower case and how it is written tell which lexeme it is. -/
theorem eq_of_fold_eq {x y : Lexeme} (hf : x.fold = y.fold) (hs : x.source = y.source) : x = y := by
  cases x <;> cases y <;> simp_all [fold, source, text]

theorem endsWord_foldAscii (t : Text) : endsWord (foldAscii t) = endsWord t := by
  cases t with
  | nil => rfl
  | cons c t =>
    have hr := Relation.read?_foldAscii (c :: t)
    rw [foldAscii_cons] at hr
    have hcomma : (c.toLower == ',') = (c == ',') := apply_toLower (f := (· == ',')) (by decide) c
    have hstar : (c.toLower == '*') = (c == '*') := apply_toLower (f := (· == '*')) (by decide) c
    rw [foldAscii_cons, endsWord, endsWord, hr, hcomma, hstar, isSpace_toLower, Option.isSome_map]

theorem splitWord_foldAscii (t : Text) :
    splitWord (foldAscii t) = (foldAscii (splitWord t).1, foldAscii (splitWord t).2) := by
  induction t with
  | nil => rfl
  | cons c t ih =>
    have he := endsWord_foldAscii (c :: t)
    rw [foldAscii_cons] at he ⊢
    by_cases h : endsWord (c :: t) = true <;> simp [splitWord, he, h, ih]

theorem splitAtMark_foldAscii {q : Char} (hq : Value.isQuote q = true) (t : Text) :
    splitAtMark q (foldAscii t) =
      (splitAtMark q t).map fun (b, r) => (foldAscii b, foldAscii r) := by
  induction t with
  | nil => rfl
  | cons c t ih =>
    rw [foldAscii_cons, splitAtMark, splitAtMark, ih]
    simp only [toLower_eq_iff (isAlpha_of_isQuote hq)]
    split
    · rfl
    · cases splitAtMark q t <;> rfl

theorem read_foldAscii (c : Char) (t : Text) :
    read c.toLower (foldAscii t) = (read c t).map fun (x, r) => (x.fold, foldAscii r) := by
  have hr := Relation.read?_foldAscii (c :: t)
  rw [foldAscii_cons] at hr
  simp only [read, toLower_eq_iff (show ','.isAlpha = false by decide),
    toLower_eq_iff (show '*'.isAlpha = false by decide), isQuote_toLower, hr, splitWord_foldAscii]
  split
  · rfl
  · split
    · rfl
    · split
      · rename_i hq
        rw [toLower_of_not_isAlpha (isAlpha_of_isQuote hq), splitAtMark_foldAscii hq]
        cases splitAtMark c t <;> rfl
      · cases Relation.read? (c :: t) <;> rfl

end Lexeme

namespace Token

def fold (x : Token) : Token := ⟨x.lexeme.fold, x.start⟩

@[simp] theorem stop_fold (x : Token) : x.fold.stop = x.stop := by simp [fold, stop]

theorem isWord_fold (x : Token) (k : Text) : x.fold.isWord k = x.isWord k := by
  unfold isWord fold
  cases x.lexeme <;> simp [Lexeme.fold, sameFolded]

theorem scanFrom_foldAscii (pos : Nat) (t : Text) :
    scanFrom pos (foldAscii t) = (scanFrom pos t).map (List.map fold) := by
  induction t using scan_induction generalizing pos with
  | nil => simp [Except.map]
  | space c t hc ih =>
    rw [foldAscii_cons, scanFrom_space hc, scanFrom_space (by simpa using hc), ih,
      utf8Size_toLower]
  | error c t e hc he =>
    have hfold := Lexeme.read_foldAscii c t
    rw [he] at hfold
    rw [foldAscii_cons, scanFrom_error hc he, scanFrom_error (by simpa using hc) hfold]
    rfl
  | read c t x r hc hr ih =>
    have hfold := Lexeme.read_foldAscii c t
    rw [hr] at hfold
    rw [foldAscii_cons, scanFrom_read hc hr, scanFrom_read (by simpa using hc) hfold,
      Lexeme.byteLength_source_fold, ih]
    cases scanFrom (pos + byteLength x.source) r <;> rfl

/-- Texts that differ only in the case of letters have tokens that differ only in it. -/
theorem exists_scan_of_foldAscii_eq {t u : Text} {ts : List Token} (h : scan t = .ok ts)
    (hu : foldAscii t = foldAscii u) : ∃ us, scan u = .ok us ∧ ts.map fold = us.map fold := by
  have ht := scanFrom_foldAscii 0 t
  have hus := scanFrom_foldAscii 0 u
  rw [← hu, ht] at hus
  rw [scan] at h
  rw [h] at hus
  rw [scan]
  cases hs : scanFrom 0 u with
  | error e =>
    rw [hs] at hus
    cases hus
  | ok us =>
    rw [hs] at hus
    exact ⟨us, rfl, Except.ok.inj hus⟩

end Token

end Textbase
