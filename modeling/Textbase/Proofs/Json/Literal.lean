import Textbase.Json.Read

/-! Strings and numerals of JSON read back: whatever follows a string, and whatever cannot go on a
number. -/
namespace Textbase

theorem Text.isDigit_of_mem_ofNat {n : Nat} {c : Char} (h : c ∈ Text.ofNat n) : c.isDigit = true :=
  Nat.isDigit_of_mem_toDigits (by decide) (by decide) h

theorem Text.ofNat_ne_nil (n : Nat) : Text.ofNat n ≠ [] := Nat.toDigits_ne_nil

theorem Text.head?_ofNat_of_pos {n : Nat} (h : 0 < n) : (Text.ofNat n).head? ≠ some '0' := by
  have hdigit : ∀ d < 10, 0 < d → Nat.digitChar d ≠ '0' := by decide
  induction n using Nat.strongRecOn with
  | ind n ih =>
    by_cases hn : n < 10
    · rw [ofNat, Nat.toDigits_of_lt_base hn, List.head?_cons, ne_eq, Option.some.injEq]
      exact hdigit n hn h
    · have hq : (Nat.toDigits 10 (n / 10)).head? ≠ some '0' := ih (n / 10) (by omega) (by omega)
      obtain ⟨c, t, hc⟩ := List.exists_cons_of_ne_nil (Nat.toDigits_ne_nil (n := n / 10) (b := 10))
      rw [ofNat, Nat.toDigits_of_base_le (by decide) (by omega), hc]
      simpa only [hc, List.cons_append, List.head?_cons] using hq

theorem Decimal.natOfDigits_ofNat (n : Nat) : natOfDigits (Text.ofNat n) = n :=
  Nat.ofDigitChars_toDigits (by decide) (by decide)

namespace Json

/-- The spelling that an escaped character is read as: controls without a letter of their own are
code units. -/
def pieceOf (c : Char) : Piece :=
  if c.toNat < 0x20 ∧ c ∉ ['\x08', '\x0c', '\n', '\r', '\t'] then .unit c.toNat else .char c

theorem hexValue?_hexDigit {n : Nat} (h : n < 16) : Text.hexValue? (hexDigit n) = some n :=
  Text.hexValue?_digitChar h

theorem readPieces?_escape (c : Char) (t : Text) :
    readPieces? (escape c ++ t) = (readPieces? t).map fun (ps, r) => (pieceOf c :: ps, r) := by
  by_cases hshort : c ∈ ['"', '\\', '\x08', '\x0c', '\n', '\r', '\t']
  · simp only [List.mem_cons, List.not_mem_nil, or_false] at hshort
    rcases hshort with rfl | rfl | rfl | rfl | rfl | rfl | rfl <;>
      simp [escape, readPieces?, unescape?, pieceOf]
  · simp only [List.mem_cons, List.not_mem_nil, or_false, not_or] at hshort
    obtain ⟨hquote, hslash, hb, hf, hn, hr, ht⟩ := hshort
    by_cases hcontrol : c.toNat < 0x20
    · have hhigh := hexValue?_hexDigit (show c.toNat / 16 < 16 by omega)
      have hlow := hexValue?_hexDigit (show c.toNat % 16 < 16 by omega)
      have hzero : Text.hexValue? '0' = some 0 := by decide
      have hunit : unit? '0' '0' (hexDigit (c.toNat / 16)) (hexDigit (c.toNat % 16)) =
          some c.toNat := by
        simp only [unit?, hhigh, hlow, hzero, Option.bind_eq_bind, Option.bind_some]
        congr 1
        omega
      simp [escape, readPieces?, pieceOf, hquote, hslash, hb, hf, hn, hr, ht, hcontrol, hunit]
    · have hescape : escape c = [c] := by
        simp [escape, hquote, hslash, hb, hf, hn, hr, ht, hcontrol]
      have hpiece : pieceOf c = .char c := by simp [pieceOf, hcontrol]
      rw [hescape, hpiece, List.singleton_append, readPieces?.eq_def]
      -- The reader takes a character for itself when it is neither mark nor control.
      split <;> simp_all [Nat.not_lt_of_le]

theorem readPieces?_flatMap_escape (s rest : Text) :
    readPieces? (s.flatMap escape ++ '"' :: rest) = some (s.map pieceOf, rest) := by
  induction s with
  | nil => simp [readPieces?]
  | cons c s ih => simp [readPieces?_escape, ih]

theorem textOf?_map_pieceOf (s : Text) : textOf? (s.map pieceOf) = some s := by
  induction s with
  | nil => rfl
  | cons c s ih =>
    rw [List.map_cons]
    by_cases hc : c.toNat < 0x20 ∧ c ∉ ['\x08', '\x0c', '\n', '\r', '\t']
    · have hhigh : isHighHalf c.toNat = false := decide_eq_false (by omega)
      have hlow : isLowHalf c.toNat = false := decide_eq_false (by omega)
      rw [pieceOf, if_pos hc]
      cases hs : s.map pieceOf with
      | nil => simp_all [textOf?]
      | cons p ps => cases p <;> simp_all [textOf?]
    · rw [pieceOf, if_neg hc, textOf?, ih, Option.map_some]

/-- What cannot go on a number. -/
def EndsNumber (rest : Text) : Prop :=
  ∀ c ∈ rest.head?, c.isDigit = false ∧ c ≠ '.' ∧ c ≠ 'e' ∧ c ≠ 'E'

theorem readNumber?_ofNat (n : Nat) {rest : Text} (h : EndsNumber rest) :
    readNumber? (Text.ofNat n ++ rest) = some (Text.ofNat n, rest) := by
  obtain ⟨d, ds, hd⟩ := List.exists_cons_of_ne_nil (Text.ofNat_ne_nil n)
  have hall : ∀ c ∈ Text.ofNat n, c.isDigit = true := fun c hc => Text.isDigit_of_mem_ofNat hc
  have htake : rest.takeWhile Char.isDigit = [] ∧ rest.dropWhile Char.isDigit = rest := by
    cases rest with
    | nil => exact ⟨rfl, rfl⟩
    | cons c rest => simp [(h c rfl).1]
  have hdigits : readDigits? (Text.ofNat n ++ rest) = some (Text.ofNat n, rest) := by
    have hread : Decimal.readDigits (Text.ofNat n ++ rest) = (Text.ofNat n, rest) := by
      rw [Decimal.readDigits, List.takeWhile_append_of_pos hall, List.dropWhile_append_of_pos hall,
        htake.1, htake.2, List.append_nil]
    simp [readDigits?, hread, Text.ofNat_ne_nil]
  have hwhole : readWhole? (Text.ofNat n ++ rest) = some (Text.ofNat n, rest) := by
    rw [readWhole?, hdigits, Option.bind_some]
    refine if_neg fun hzero => ?_
    rw [Bool.and_eq_true, decide_eq_true_iff, beq_iff_eq] at hzero
    have hn : n = 0 := Nat.eq_zero_of_not_pos fun hp => Text.head?_ofNat_of_pos hp hzero.2
    rw [hn] at hzero
    exact absurd hzero.1 (by decide)
  have hfraction : readFraction? rest = some ([], rest) := by
    unfold readFraction?
    split
    · rename_i t
      exact absurd rfl (h '.' rfl).2.1
    · rfl
  have hpower : readPower? rest = some ([], rest) := by
    cases rest with
    | nil => rfl
    | cons c rest => simp [readPower?, h c rfl]
  have hunsigned : readUnsigned? (Text.ofNat n ++ rest) = some (Text.ofNat n, rest) := by
    simp [readUnsigned?, hwhole, hfraction, hpower]
  rw [hd, List.cons_append] at hunsigned ⊢
  unfold readNumber?
  split
  · rename_i t ht
    have hm : d = '-' := (List.cons.inj ht).1
    have hdash := hall d (by rw [hd]; exact List.mem_cons_self)
    rw [hm] at hdash
    exact absurd hdash (by decide)
  · exact hunsigned

end Json

end Textbase
