import Textbase.Number.Decimal
import Mathlib.Algebra.Order.Field.Power
import Mathlib.Data.List.Induction
import Mathlib.Data.List.TakeWhile
import Mathlib.Data.Rat.Cast.Order
import Mathlib.Tactic.FieldSimp
import Mathlib.Tactic.NormNum
import Mathlib.Tactic.Ring

/-! How decimals are written, and what they stand for. A numeral has a digit before its point or
after it; the point, the sign and the power of ten may be missing. These are just the texts that are
read as a decimal, and the decimal that is read has the value that the digits have by their
places. -/
namespace Textbase.Decimal

inductive Sign
  | unsigned | plus | minus
  deriving DecidableEq, Repr

namespace Sign

def text : Sign → Text
  | unsigned => []
  | plus => ['+']
  | minus => ['-']

def negative : Sign → Bool
  | minus => true
  | _ => false

theorem readSign_text (s : Sign) {t : Text} (ht : ∀ c ∈ t.head?, c ≠ '+' ∧ c ≠ '-') :
    readSign (s.text ++ t) = (s.negative, t) := by
  cases s with
  | unsigned =>
    rw [text, List.nil_append]
    unfold readSign
    split <;> simp_all [negative]
  | plus => rfl
  | minus => rfl

theorem exists_readSign (t : Text) :
    ∃ s : Sign, s.text ++ (readSign t).2 = t ∧ s.negative = (readSign t).1 := by
  unfold readSign
  split
  · exact ⟨minus, rfl, rfl⟩
  · exact ⟨plus, rfl, rfl⟩
  · exact ⟨unsigned, rfl, rfl⟩

end Sign

def IsDigits (t : Text) : Prop := ∀ c ∈ t, c.isDigit = true

theorem readDigits_append_eq {ds t : Text} (hd : IsDigits ds)
    (ht : ∀ c ∈ t.head?, c.isDigit = false) : readDigits (ds ++ t) = (ds, t) := by
  have hstop : t.takeWhile Char.isDigit = [] ∧ t.dropWhile Char.isDigit = t := by
    cases t with
    | nil => exact ⟨rfl, rfl⟩
    | cons c t => simp [ht c rfl]
  rw [readDigits, List.takeWhile_append_of_pos hd, List.dropWhile_append_of_pos hd, hstop.1,
    hstop.2, List.append_nil]

theorem isDigits_readDigits (t : Text) : IsDigits (readDigits t).1 := fun c hc =>
  List.all_eq_true.1 List.all_takeWhile c hc

/-- A power of ten as it is written: a letter, a sign and at least one digit. -/
structure Power where
  letter : Char
  sign : Sign
  digits : Text
  letter_eq : letter = 'e' ∨ letter = 'E'
  digits_ne_nil : digits ≠ []
  isDigits : IsDigits digits

namespace Power

def text (p : Power) : Text := p.letter :: p.sign.text ++ p.digits

def exponent (p : Power) : ℤ :=
  if p.sign.negative then -(natOfDigits p.digits : ℤ) else natOfDigits p.digits

end Power

theorem not_sign_of_isDigit {c : Char} (h : c.isDigit = true) : c ≠ '+' ∧ c ≠ '-' := by
  constructor <;> rintro rfl <;> revert h <;> decide

/-- A text is read as a power of ten if it is one, or if there is none. -/
theorem readExponent?_eq_some_iff {t : Text} {e : ℤ} :
    readExponent? t = some e ↔
      ∃ p? : Option Power, p?.elim [] Power.text = t ∧ p?.elim 0 Power.exponent = e := by
  constructor
  · intro h
    cases t with
    | nil =>
      cases h
      exact ⟨none, rfl, rfl⟩
    | cons c t =>
      simp only [readExponent?, Option.ite_none_right_eq_some, Bool.or_eq_true,
        decide_eq_true_eq] at h
      obtain ⟨hc, h⟩ := h
      obtain ⟨s, ht, hs⟩ := Sign.exists_readSign t
      have hu := readDigits_append (readSign t).2
      have hd := isDigits_readDigits (readSign t).2
      split at h
      · cases h
      · rename_i ds hds hne
        rw [hne] at hu hd
        rw [List.append_nil] at hu
        cases h
        refine ⟨some ⟨c, s, ds, hc, hds, hd⟩, ?_, ?_⟩
        · rw [← ht, ← hu]
          rfl
        · rw [Option.elim_some, Power.exponent, hs]
      · cases h
  · rintro ⟨_ | p, rfl, rfl⟩
    · rfl
    · have hsign := p.sign.readSign_text (t := p.digits) fun c hc =>
        not_sign_of_isDigit (p.isDigits c (List.mem_of_mem_head? hc))
      have hdigits := readDigits_append_eq p.isDigits (t := []) (by simp)
      have hletter := p.letter_eq
      obtain ⟨d, ds, hds⟩ := List.exists_cons_of_ne_nil p.digits_ne_nil
      rw [List.append_nil, hds] at hdigits
      rw [Option.elim_some, Option.elim_some, Power.text, Power.exponent, List.cons_append,
        readExponent?, if_pos (by simpa using hletter), hsign]
      simp only [hds, hdigits]

theorem exists_readFraction (t : Text) :
    ∃ f? : Option Text, f?.elim [] ('.' :: ·) ++ (readFraction t).2 = t ∧
      f?.getD [] = (readFraction t).1 ∧ ∀ ds ∈ f?, IsDigits ds := by
  rw [readFraction.eq_def]
  split
  · rename_i u
    refine ⟨some (readDigits u).1, ?_, rfl, ?_⟩
    · rw [Option.elim_some, List.cons_append, readDigits_append]
    · rintro _ ⟨⟩
      exact isDigits_readDigits u
  · exact ⟨none, rfl, rfl, by simp⟩

/-- A decimal as it is written. The digits after the point are missing when the point is. -/
structure Numeral where
  sign : Sign
  whole : Text
  fraction? : Option Text
  power? : Option Power
  isDigits_whole : IsDigits whole
  isDigits_fraction : ∀ ds ∈ fraction?, IsDigits ds
  has_digit : whole ≠ [] ∨ ∃ ds ∈ fraction?, ds ≠ []

namespace Numeral

def fractionText (n : Numeral) : Text := n.fraction?.elim [] ('.' :: ·)

def powerText (n : Numeral) : Text := n.power?.elim [] Power.text

def text (n : Numeral) : Text := n.sign.text ++ (n.whole ++ (n.fractionText ++ n.powerText))

def exponent (n : Numeral) : ℤ := n.power?.elim 0 Power.exponent

/-- What the digits say by their places, times the power of ten. -/
def value (n : Numeral) : ℚ :=
  (if n.sign.negative then -1 else 1) *
    (natOfDigits n.whole + natOfDigits (n.fraction?.getD []) / 10 ^ (n.fraction?.getD []).length) *
      10 ^ n.exponent

theorem powerText_head (n : Numeral) : ∀ c ∈ n.powerText.head?, c = 'e' ∨ c = 'E' := by
  unfold powerText
  cases n.power? with
  | none => simp
  | some p => simpa [Power.text] using p.letter_eq

theorem readFraction_text (n : Numeral) :
    readFraction (n.fractionText ++ n.powerText) = (n.fraction?.getD [], n.powerText) := by
  have hhead := n.powerText_head
  unfold fractionText
  cases hf : n.fraction? with
  | none =>
    rw [Option.elim_none, List.nil_append, readFraction.eq_def]
    split
    · rename_i h
      rw [h] at hhead
      simp at hhead
    · rfl
  | some ds =>
    refine readDigits_append_eq (n.isDigits_fraction ds hf) fun c hc => ?_
    rcases hhead c hc with rfl | rfl <;> rfl

theorem readDigits_text (n : Numeral) :
    readDigits (n.whole ++ (n.fractionText ++ n.powerText)) =
      (n.whole, n.fractionText ++ n.powerText) := by
  refine readDigits_append_eq n.isDigits_whole fun c hc => ?_
  have hhead := n.powerText_head
  unfold fractionText at hc
  cases hf : n.fraction? with
  | none =>
    rw [hf, Option.elim_none, List.nil_append] at hc
    rcases hhead c hc with rfl | rfl <;> rfl
  | some ds =>
    rw [hf] at hc
    cases hc
    rfl

theorem not_sign_of_head (n : Numeral) :
    ∀ c ∈ (n.whole ++ (n.fractionText ++ n.powerText)).head?, c ≠ '+' ∧ c ≠ '-' := by
  intro c hc
  cases hw : n.whole with
  | cons d ds =>
    rw [hw] at hc
    cases hc
    exact not_sign_of_isDigit (n.isDigits_whole c (by simp [hw]))
  | nil =>
    obtain ⟨ds, hf, -⟩ := n.has_digit.resolve_left (by simp [hw])
    rw [hw, fractionText, hf] at hc
    cases hc
    decide

def literal (n : Numeral) : Literal :=
  ⟨n.sign.negative, n.whole, n.fraction?.getD [], n.exponent⟩

theorem read?_text (n : Numeral) : Literal.read? n.text = some n.literal := by
  have hexponent : readExponent? n.powerText = some n.exponent :=
    readExponent?_eq_some_iff.2 ⟨n.power?, rfl, rfl⟩
  have hdigit : (n.whole.isEmpty && (n.fraction?.getD []).isEmpty) = false := by
    have h := n.has_digit
    cases hf : n.fraction? <;> simp_all [or_iff_not_imp_left]
  rw [Literal.read?, text, n.sign.readSign_text n.not_sign_of_head]
  simp only [n.readDigits_text, n.readFraction_text, hdigit, hexponent]
  rfl

end Numeral

theorem Literal.read?_eq_some_iff {t : Text} {x : Literal} :
    Literal.read? t = some x ↔ ∃ n : Numeral, n.text = t ∧ n.literal = x := by
  constructor
  · intro h
    simp only [Literal.read?, Option.ite_none_left_eq_some, Option.map_eq_some_iff] at h
    obtain ⟨hdigit, e, he, rfl⟩ := h
    obtain ⟨s, hsign, hs⟩ := Sign.exists_readSign t
    have hwhole := readDigits_append (readSign t).2
    obtain ⟨f?, hfraction, hf, hdigits⟩ := exists_readFraction (readDigits (readSign t).2).2
    obtain ⟨p?, hpower, rfl⟩ := readExponent?_eq_some_iff.1 he
    have hsome : (readDigits (readSign t).2).1 ≠ [] ∨ ∃ ds ∈ f?, ds ≠ [] := by
      rw [← hf] at hdigit
      cases f? <;> simp_all [or_iff_not_imp_left]
    refine ⟨⟨s, _, f?, p?, isDigits_readDigits _, hdigits, hsome⟩, ?_, ?_⟩
    · simp only [Numeral.text, Numeral.fractionText, Numeral.powerText]
      rw [hpower, hfraction, hwhole, hsign]
    · rw [Numeral.literal, hs, hf]
      rfl
  · rintro ⟨n, rfl, rfl⟩
    exact n.read?_text

theorem natOfDigits_append (s t : Text) :
    natOfDigits (s ++ t) = natOfDigits s * 10 ^ t.length + natOfDigits t := by
  induction t using List.reverseRecOn with
  | nil => simp
  | append_singleton t c ih =>
    rw [← List.append_assoc, natOfDigits_append_singleton, ih, natOfDigits_append_singleton,
      List.length_append, List.length_singleton, pow_succ]
    ring

def toRat (x : Decimal) : ℚ := (if x.negative then -1 else 1) * x.coefficient * 10 ^ x.exponent

/-- The digits on both sides of the point are read as one number, and the power of ten is lowered by
those behind it. -/
theorem toRat_value_literal (n : Numeral) : n.literal.value.toRat = n.value := by
  have hpow : (10 : ℚ) ^ (n.fraction?.getD []).length ≠ 0 := by positivity
  rw [toRat, Literal.value, Numeral.literal, Numeral.value]
  simp only [natOfDigits_append, Nat.cast_add, Nat.cast_mul, Nat.cast_pow, Nat.cast_ofNat]
  rw [zpow_sub₀ (by norm_num), zpow_natCast]
  field_simp

theorem read?_eq_some_iff {t : Text} {x : Decimal} :
    read? t = some x ↔ ∃ n : Numeral, n.text = t ∧ n.literal.value = x := by
  simp only [read?, Option.map_eq_some_iff, Literal.read?_eq_some_iff]
  constructor
  · rintro ⟨_, ⟨n, hn, rfl⟩, hx⟩
    exact ⟨n, hn, hx⟩
  · rintro ⟨n, hn, hx⟩
    exact ⟨_, ⟨n, hn, rfl⟩, hx⟩

end Textbase.Decimal
