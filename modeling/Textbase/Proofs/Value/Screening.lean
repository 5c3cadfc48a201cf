import Textbase.Proofs.Text.Lowercase
import Textbase.Proofs.Value.Exactness

/-! What counts as a number. A value is first screened for letters, then read in a format that has
words for infinity and for what is not a number, and these are taken out again. What passes is just
the numerals: the screen leaves no word to be read, and drops no numeral. -/
namespace Textbase

namespace Decimal.Numeral

variable {n : Numeral} {c : Char} {before after : Text}

def plainMarks : Text := ['+', '-', '.']

def marks : Text := plainMarks ++ ['e', 'E']

theorem mem_sign_text {s : Sign} (h : c ∈ s.text) : c ∈ plainMarks := by
  cases s with
  | unsigned => cases h
  | plus =>
    rw [List.mem_singleton.1 h]
    decide
  | minus =>
    rw [List.mem_singleton.1 h]
    decide

def mantissa (n : Numeral) : Text := n.sign.text ++ (n.whole ++ n.fractionText)

theorem text_eq_mantissa (n : Numeral) : n.text = n.mantissa ++ n.powerText := by
  simp only [text, mantissa, List.append_assoc]

theorem mem_mantissa (h : c ∈ n.mantissa) : c.isDigit = true ∨ c ∈ plainMarks := by
  simp only [mantissa, List.mem_append] at h
  rcases h with h | h | h
  · exact .inr (mem_sign_text h)
  · exact .inl (n.isDigits_whole c h)
  · unfold fractionText at h
    cases hf : n.fraction? with
    | none => simp [hf] at h
    | some ds =>
      rw [hf] at h
      rcases List.mem_cons.1 h with rfl | hc
      · exact .inr (by decide)
      · exact .inl (n.isDigits_fraction ds hf c hc)

theorem mem_power {p : Power} (h : c ∈ p.sign.text ++ p.digits) :
    c.isDigit = true ∨ c ∈ plainMarks := by
  rcases List.mem_append.1 h with h | h
  · exact .inr (mem_sign_text h)
  · exact .inl (p.isDigits c h)

theorem mem_text (h : c ∈ n.text) : c.isDigit = true ∨ c ∈ marks := by
  rw [text_eq_mantissa, List.mem_append] at h
  rcases h with h | h
  · exact (mem_mantissa h).imp_right (List.mem_append_left _)
  · unfold powerText at h
    cases hp : n.power? with
    | none => simp [hp] at h
    | some p =>
      rw [hp] at h
      rcases List.mem_cons.1 h with rfl | hc
      · right
        rcases p.letter_eq with hl | hl <;> rw [hl] <;> decide
      · exact (mem_power hc).imp_right (List.mem_append_left _)

theorem exists_digit_mantissa (n : Numeral) : ∃ c ∈ n.mantissa, c.isDigit = true := by
  rcases n.has_digit with h | ⟨ds, hf, h⟩
  · obtain ⟨d, ds, hds⟩ := List.exists_cons_of_ne_nil h
    exact ⟨d, by simp [mantissa, hds], n.isDigits_whole d (by simp [hds])⟩
  · obtain ⟨d, ds, rfl⟩ := List.exists_cons_of_ne_nil h
    refine ⟨d, ?_, n.isDigits_fraction _ hf d List.mem_cons_self⟩
    simp [mantissa, fractionText, Option.mem_def.1 hf]

theorem exists_digit_power (p : Power) : ∃ c ∈ p.sign.text ++ p.digits, c.isDigit = true := by
  obtain ⟨d, ds, hds⟩ := List.exists_cons_of_ne_nil p.digits_ne_nil
  exact ⟨d, by simp [hds], p.isDigits d (by simp [hds])⟩

theorem not_mem_of_letter {t : Text} (ht : ∀ d ∈ t, d.isDigit = true ∨ d ∈ plainMarks)
    (hc : c = 'e' ∨ c = 'E') : c ∉ t := by
  intro hm
  rcases ht c hm with hd | hd <;> rcases hc with rfl | rfl <;> revert hd <;> decide

/-- A letter in a numeral begins its power of ten. -/
theorem split_at_letter (h : n.text = before ++ c :: after) (hc : c = 'e' ∨ c = 'E') :
    before = n.mantissa ∧ ∃ p, n.power? = some p ∧ after = p.sign.text ++ p.digits := by
  have hm : c ∉ n.mantissa := not_mem_of_letter (fun _ => mem_mantissa) hc
  rw [text_eq_mantissa, powerText] at h
  cases hp : n.power? with
  | none =>
    rw [hp, Option.elim_none, List.append_nil] at h
    exact absurd (by simp [h]) hm
  | some p =>
    have hr : c ∉ p.sign.text ++ p.digits := not_mem_of_letter (fun _ => mem_power) hc
    rw [hp, Option.elim_some, Power.text, List.cons_append] at h
    rcases List.append_eq_append_iff.1 h with ⟨_ | ⟨d, u⟩, hb, he⟩ | ⟨_ | ⟨d, u⟩, hb, he⟩
    · exact ⟨by simpa using hb, p, rfl, (List.cons.inj he).2.symm⟩
    · exact absurd (by simp [(List.cons.inj he).2]) hr
    · exact ⟨by simpa using hb.symm, p, rfl, (List.cons.inj he).2⟩
    · exact absurd (by simp [hb, (List.cons.inj he).1]) hm

end Decimal.Numeral

namespace Double

inductive Reading
  | number (x : Double)
  | notANumber
  deriving DecidableEq, Repr

def words : List Text := ["inf".toList, "infinity".toList, "nan".toList]

/-- Reading of a text as a floating-point number: a word in any case, with or without a sign, or a
decimal. -/
def parse? (t : Text) : Option Reading :=
  let (negative, word) := Decimal.readSign t
  if Text.sameFolded word "inf".toList || Text.sameFolded word "infinity".toList then
    some (.number ⟨negative, infinite⟩)
  else if Text.sameFolded word "nan".toList then some .notANumber
  else (Decimal.read? t).map fun x => .number (ofDecimal x)

def Reading.number? : Reading → Option Double
  | number x => some x
  | notANumber => none

end Double

namespace Value

variable {s : Text} {c : Char}

/-- The letters that no number is written with. -/
def isScreened (c : Char) : Bool := c.isAlpha && c != 'e' && c != 'E'

/-- The number that a value stands for, by the screen for letters, the reading of floating-point
numbers, and the removal of what is not a number. -/
def screened? (s : Text) : Option Double :=
  let t := Text.trim s
  if t.isEmpty then none
  else if t.any isScreened then none
  else (Double.parse? t).bind Double.Reading.number?

theorem isScreened_toLower (c : Char) : isScreened c.toLower = isScreened c :=
  Text.apply_toLower (by decide) c

/-- The screen sees through the case of a word. -/
theorem exists_screened_of_sameFolded {w k : Text} (h : Text.sameFolded w k = true)
    (hk : ∃ c ∈ Text.foldAscii k, isScreened c = true) : ∃ c ∈ w, isScreened c = true := by
  rw [← Text.sameFolded_iff.1 h] at hk
  obtain ⟨d, hd, hscreened⟩ := hk
  obtain ⟨c, hc, rfl⟩ := List.mem_map.1 hd
  rw [isScreened_toLower] at hscreened
  exact ⟨c, hc, hscreened⟩

theorem exists_screened_of_mem_words : ∀ k ∈ Double.words,
    ∃ c ∈ Text.foldAscii k, isScreened c = true := by
  have h : (Double.words.all fun k => (Text.foldAscii k).any isScreened) = true := by decide
  simpa only [List.all_eq_true, List.any_eq_true] using h

theorem isScreened_of_isDigit (h : c.isDigit = true) : isScreened c = false := by
  have hdigits : ∀ n < 58, 48 ≤ n → isScreened (Char.ofNat n) = false := by decide
  obtain ⟨hlower, hupper⟩ := Char.isDigit_iff_toNat.1 h
  have hc := hdigits c.toNat (Nat.lt_succ_of_le hupper) hlower
  rwa [Char.ofNat_toNat] at hc

theorem isScreened_of_mem_text {n : Decimal.Numeral} (h : c ∈ n.text) : isScreened c = false := by
  have hmarks : ∀ c ∈ Decimal.Numeral.marks, isScreened c = false :=
    Text.forall_eq_false_of_any (by decide)
  exact (Decimal.Numeral.mem_text h).elim isScreened_of_isDigit (hmarks c)

theorem parse?_of_no_letter {t : Text} (h : ∀ c ∈ t, isScreened c = false) :
    Double.parse? t = (Decimal.read? t).map fun x => .number (Double.ofDecimal x) := by
  have hword : ∀ k ∈ Double.words, Text.sameFolded (Decimal.readSign t).2 k = false := by
    intro k hk
    rw [Bool.eq_false_iff]
    intro hsame
    obtain ⟨c, hc, hscreened⟩ :=
      exists_screened_of_sameFolded hsame (exists_screened_of_mem_words k hk)
    obtain ⟨sign, ht, -⟩ := Decimal.Sign.exists_readSign t
    rw [h c (by rw [← ht]; exact List.mem_append_right _ hc)] at hscreened
    cases hscreened
  simp only [Double.words, List.forall_mem_cons] at hword
  simp only [Double.parse?, hword, Bool.or_false, Bool.false_eq_true, if_false]

theorem isSome_number?_iff_numeral :
    (number? s).isSome = true ↔ ∃ n : Decimal.Numeral, n.text = Text.trim s := by
  rw [isSome_number?_iff_denotes]
  exact ⟨fun ⟨_, n, hn, _⟩ => ⟨n, hn⟩, fun ⟨n, hn⟩ => ⟨n.value, n, hn, rfl⟩⟩

theorem number?_eq_none (h : ∀ n : Decimal.Numeral, n.text ≠ Text.trim s) : number? s = none := by
  rw [← Option.not_isSome_iff_eq_none, isSome_number?_iff_numeral]
  rintro ⟨n, hn⟩
  exact h n hn

theorem number?_eq_none_of_screened (hc : c ∈ Text.trim s) (h : isScreened c = true) :
    number? s = none := by
  refine number?_eq_none fun n hn => ?_
  rw [← hn] at hc
  rw [isScreened_of_mem_text hc] at h
  cases h

/-- The three filters leave the numerals. -/
theorem number?_eq_screened? (s : Text) : number? s = screened? s := by
  by_cases hs : ∃ c ∈ Text.trim s, isScreened c = true
  · obtain ⟨c, hc, h⟩ := hs
    have hany : (Text.trim s).any isScreened = true := List.any_eq_true.2 ⟨c, hc, h⟩
    rw [number?_eq_none_of_screened hc h, screened?]
    simp only [hany, if_true, ite_self]
  · have hs : ∀ c ∈ Text.trim s, isScreened c = false := by simpa using hs
    have hany : (Text.trim s).any isScreened = false := by simpa using hs
    simp only [screened?, number?, hany, parse?_of_no_letter hs, Bool.false_eq_true, if_false]
    cases ht : Text.trim s with
    | nil => rfl
    | cons d u => cases Decimal.read? (d :: u) <;> rfl

theorem number?_of_large {n : Decimal.Numeral} (hn : n.text = Text.trim s)
    (hlarge : 2 ^ 1024 ≤ |n.value|) :
    number? s = some ⟨n.sign.negative, Double.infinite⟩ := by
  obtain ⟨hnumber, hnearest⟩ := number?_of_numeral hn
  have hunits : (Double.units Double.infinite : ℚ) ≤ |n.value| * 2 ^ 1074 := by
    rw [Double.units_infinite, Nat.cast_mul, Nat.cast_pow, Nat.cast_pow, Nat.cast_ofNat]
    exact mul_le_mul_of_nonneg_right hlarge (by positivity)
  have hmagnitude := hnearest.magnitude.unique (Double.nearest_infinite hunits)
  rw [hnumber, ← hmagnitude]
  rfl

/-- A value is a number when, apart from the whitespace around it, it is a numeral. No word is one,
in any case, and nothing that has any other character in it; nor is anything without a digit, or
with a letter that has no digit before it or none behind it. A numeral too large for a double still
is a number. -/
theorem number?_screening (s : Text) :
    number? s = screened? s ∧
    ((number? s).isSome = true ↔ ∃ n : Decimal.Numeral, n.text = Text.trim s) ∧
    (∀ (sign : Decimal.Sign) (w : Text), Text.trim s = sign.text ++ w →
      (∃ k ∈ Double.words, Text.sameFolded w k = true) → number? s = none) ∧
    (∀ c ∈ Text.trim s, c.isDigit = false → c ∉ Decimal.Numeral.marks → number? s = none) ∧
    ((∀ c ∈ Text.trim s, c.isDigit = false) → number? s = none) ∧
    (∀ before c after, Text.trim s = before ++ c :: after → c = 'e' ∨ c = 'E' →
      (∀ d ∈ before, d.isDigit = false) ∨ (∀ d ∈ after, d.isDigit = false) → number? s = none) ∧
    ∀ n : Decimal.Numeral, n.text = Text.trim s → 2 ^ 1024 ≤ |n.value| →
      number? s = some ⟨n.sign.negative, Double.infinite⟩ := by
  refine ⟨number?_eq_screened? s, isSome_number?_iff_numeral, ?_, ?_, ?_, ?_,
    fun n => number?_of_large⟩
  · rintro sign w hs ⟨k, hk, hw⟩
    obtain ⟨c, hc, h⟩ := exists_screened_of_sameFolded hw (exists_screened_of_mem_words k hk)
    exact number?_eq_none_of_screened (hs ▸ List.mem_append_right _ hc) h
  · intro c hc hdigit hmark
    refine number?_eq_none fun n hn => ?_
    rw [← hn] at hc
    rcases Decimal.Numeral.mem_text hc with hd | hm
    · exact absurd hd (by simp [hdigit])
    · exact hmark hm
  · intro hs
    refine number?_eq_none fun n hn => ?_
    obtain ⟨d, hd, hdigit⟩ := n.exists_digit_mantissa
    rw [← hn, n.text_eq_mantissa] at hs
    rw [hs d (List.mem_append_left _ hd)] at hdigit
    cases hdigit
  · intro before c after hs hc hlacks
    refine number?_eq_none fun n hn => ?_
    obtain ⟨rfl, p, -, rfl⟩ := Decimal.Numeral.split_at_letter (hn.trans hs) hc
    rcases hlacks with h | h
    · obtain ⟨d, hd, hdigit⟩ := n.exists_digit_mantissa
      rw [h d hd] at hdigit
      cases hdigit
    · obtain ⟨d, hd, hdigit⟩ := Decimal.Numeral.exists_digit_power p
      rw [h d hd] at hdigit
      cases hdigit

theorem number?_screening_border :
    number? " -iNFinity".toList = none ∧ number? "0x1e5".toList = none ∧
      number? "1 000".toList = none ∧ number? "+.".toList = none ∧ number? ".5e-".toList = none ∧
      number? "-1e999 ".toList = some ⟨true, Double.infinite⟩ := by
  have hlarge := (number?_screening "-1e999 ".toList).2.2.2.2.2.2
  obtain ⟨n, hn, hvalue⟩ := Decimal.read?_eq_some_iff.1
    (show Decimal.read? (Text.trim "-1e999 ".toList) = some ⟨true, 1, 999⟩ by decide +kernel)
  have hsign : n.sign.negative = true := congrArg Decimal.negative hvalue
  have hexact : n.value = -10 ^ 999 := by
    rw [← Decimal.toRat_value_literal, hvalue]
    simp [Decimal.toRat]
  have hrange : (2 : ℚ) ^ 1024 ≤ |n.value| := by
    rw [hexact, abs_neg, abs_of_nonneg (by positivity)]
    exact_mod_cast (by decide +kernel : 2 ^ 1024 ≤ 10 ^ 999)
  refine ⟨?_, ?_, ?_, ?_, ?_, ?_⟩
  · exact (number?_screening _).2.2.1 .minus "iNFinity".toList (by decide +kernel)
      ⟨"infinity".toList, by decide, by decide⟩
  · exact (number?_screening _).2.2.2.1 'x' (by decide +kernel) (by decide) (by decide)
  · exact (number?_screening _).2.2.2.1 ' ' (by decide +kernel) (by decide) (by decide)
  · exact (number?_screening _).2.2.2.2.1 (Text.forall_eq_false_of_any (by decide +kernel))
  · exact (number?_screening _).2.2.2.2.2.1 ".5".toList 'e' ['-'] (by decide +kernel) (.inl rfl)
      (.inr (Text.forall_eq_false_of_any (by decide)))
  · rw [hlarge n hn hrange, hsign]

end Value

end Textbase
