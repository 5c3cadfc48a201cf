import Textbase.Text.Alphanumeric
import Textbase.Text.Lowercase

/-! Texts whose lower case is made of ASCII letters. These are the texts of ASCII letters in either
case, but for one more character: the Kelvin sign, whose lower case is `k`. -/
namespace Textbase.Text

def foldKelvin (c : Char) : Char := if c = '\u212A' then 'k' else c.toLower

theorem forall_eq_false_of_any {t : Text} {p : Char → Bool} (h : t.any p = false) :
    ∀ c ∈ t, p c = false := by
  simpa using h

theorem isLower_iff {c : Char} : c.isLower = true ↔ 97 ≤ c.toNat ∧ c.toNat ≤ 122 := by
  change (decide ('a'.val ≤ c.val) && decide (c.val ≤ 'z'.val)) = true ↔ _
  rw [Bool.and_eq_true, decide_eq_true_eq, decide_eq_true_eq, UInt32.le_iff_toNat_le,
    UInt32.le_iff_toNat_le]
  rfl

theorem toLower_of_le {c : Char} (h : 91 ≤ c.toNat) : c.toLower = c := by
  refine dif_neg fun hu => ?_
  have hz := UInt32.le_iff_toNat_le.1 hu.2
  have hletter : 'Z'.val.toNat = 90 := rfl
  rw [Char.toNat_val] at hz
  omega

/-- What is the same for the ASCII letters in either case is the same for all characters. -/
theorem apply_toLower {β : Type} {f : Char → β}
    (h : ∀ n < 128, f (Char.ofNat n).toLower = f (Char.ofNat n)) (c : Char) :
    f c.toLower = f c := by
  by_cases hc : 91 ≤ c.toNat
  · rw [toLower_of_le hc]
  · rw [← Char.ofNat_toNat c]
    exact h _ (by omega)

theorem toNat_ofNat_eq_or (n : Nat) : (Char.ofNat n).toNat = n ∨ (Char.ofNat n).toNat = 0 := by
  by_cases h : n.isValidChar
  · have hn : Char.ofNat n = Char.ofNatAux n h := dif_pos h
    rw [hn]
    exact .inl (UInt32.toNat_ofNatLT ..)
  · have hn : Char.ofNat n = Char.ofNat 0 := dif_neg h
    rw [hn]
    exact .inr rfl

theorem lowerRuns_image : ∀ r ∈ lowerRuns,
    128 ≤ r.image ∨ r.last < 128 ∨ r.first = 0x212A ∧ r.last = 0x212A := by
  decide +kernel

/-- The Kelvin sign apart, nothing beyond the ASCII range has a lower case in it. -/
theorem le_lowerCode {n : Nat} (hn : 128 ≤ n) (hk : n ≠ 0x212A) {rs : List CaseRun}
    (hrs : ∀ r ∈ rs, 128 ≤ r.image ∨ r.last < 128 ∨ r.first = 0x212A ∧ r.last = 0x212A) :
    128 ≤ lowerCode n rs := by
  induction rs with
  | nil => exact hn
  | cons r rs ih =>
    have hr := hrs r List.mem_cons_self
    have hlater := ih fun s hs => hrs s (List.mem_cons_of_mem r hs)
    simp only [lowerCode]
    repeat' split
    all_goals omega

theorem isLower_ofNat_of_le {n : Nat} (h : 128 ≤ n) : (Char.ofNat n).isLower = false := by
  rw [Bool.eq_false_iff]
  intro hl
  have hb := isLower_iff.1 hl
  rcases toNat_ofNat_eq_or n with hv | hv <;> omega

/-- What a character contributes to the lower case of a text that it stands in. -/
def lowerPiece (before : Text) (c : Char) (after : Text) : Text :=
  if c = 'Σ' then [lowerSigma before after] else lowerChar c

theorem lowerPiece_eq_or (before : Text) (c : Char) (after : Text) :
    lowerPiece before c after = [foldKelvin c] ∨
      (∃ d ∈ lowerPiece before c after, d.isLower = false) ∧ (foldKelvin c).isLower = false := by
  by_cases hascii : c.toNat < 128
  · left
    have hs : c ≠ 'Σ' := by
      rintro rfl
      revert hascii
      decide
    have hk : c ≠ '\u212A' := by
      rintro rfl
      revert hascii
      decide
    have hl := lowerChar_ofNat hascii
    rw [Char.ofNat_toNat] at hl
    rw [lowerPiece, if_neg hs, hl, foldKelvin, if_neg hk]
  · by_cases hk : c = '\u212A'
    · left
      subst hk
      have hlower : lowerChar '\u212A' = ['k'] := by decide +kernel
      rw [lowerPiece, if_neg (by decide), hlower, foldKelvin, if_pos rfl]
    · right
      have hc : 128 ≤ c.toNat := Nat.le_of_not_lt hascii
      have hfold : foldKelvin c = c := by rw [foldKelvin, if_neg hk, toLower_of_le (by omega)]
      refine ⟨?_, ?_⟩
      · unfold lowerPiece lowerChar
        split
        · refine ⟨_, List.mem_singleton_self _, ?_⟩
          unfold lowerSigma
          split <;> decide
        · split
          · exact ⟨Char.ofNat 0x307, by simp, by decide⟩
          · refine ⟨_, List.mem_singleton_self _, isLower_ofNat_of_le ?_⟩
            refine le_lowerCode hc (fun he => hk ?_) lowerRuns_image
            rw [← Char.ofNat_toNat c, he]
      · rw [hfold, ← Char.ofNat_toNat c]
        exact isLower_ofNat_of_le hc

theorem lowerAfter_eq_iff {w k : Text} (hk : ∀ c ∈ k, c.isLower = true) (before : Text) :
    lowerAfter before w = k ↔ w.map foldKelvin = k := by
  induction w generalizing before k with
  | nil => rfl
  | cons c w ih =>
    have happend : lowerAfter before (c :: w) =
        lowerPiece before c w ++ lowerAfter (c :: before) w := rfl
    rw [happend, List.map_cons]
    rcases lowerPiece_eq_or before c w with hp | ⟨⟨d, hd, hdl⟩, hf⟩
    · rw [hp, List.singleton_append]
      cases k with
      | nil => simp
      | cons e k =>
        rw [List.cons.injEq, List.cons.injEq, ih fun x hx => hk x (List.mem_cons_of_mem e hx)]
    · constructor
      · rintro rfl
        rw [hk d (List.mem_append_left _ hd)] at hdl
        cases hdl
      · rintro rfl
        rw [hk _ List.mem_cons_self] at hf
        cases hf

/-- The lower case of a word is made of ASCII letters just when they are those of the word, a Kelvin
sign read as `k`. -/
theorem lower_eq_iff {w k : Text} (hk : ∀ c ∈ k, c.isLower = true) :
    lower w = k ↔ w.map foldKelvin = k :=
  lowerAfter_eq_iff hk []

theorem sameFolded_iff_foldKelvin {w k : Text} (hk : ∀ c ∈ k, c.isLower = true) :
    sameFolded w k = true ↔ w.map foldKelvin = k ∧ '\u212A' ∉ w := by
  have hfold : foldAscii k = k := by
    refine (List.map_congr_left fun c hc => ?_).trans (List.map_id k)
    have hb := isLower_iff.1 (hk c hc)
    exact toLower_of_le (by omega)
  have hagree : '\u212A' ∉ w → w.map foldKelvin = foldAscii w := by
    intro hw
    refine List.map_congr_left fun c hc => if_neg ?_
    rintro rfl
    exact hw hc
  rw [sameFolded_iff, hfold]
  constructor
  · rintro rfl
    have hw : '\u212A' ∉ w := by
      intro hm
      have hl := hk _ (List.mem_map_of_mem hm)
      revert hl
      decide
    exact ⟨hagree hw, hw⟩
  · rintro ⟨h, hw⟩
    rw [← hagree hw, h]

theorem isNameChar_of_isLower_toLower {n : Nat} (h : n < 128)
    (hl : (Char.ofNat n).toLower.isLower = true) : isNameChar (Char.ofNat n) = true := by
  revert n
  decide

theorem isNameChar_of_isLower_foldKelvin {c : Char} (h : (foldKelvin c).isLower = true) :
    isNameChar c = true := by
  by_cases hk : c = '\u212A'
  · subst hk
    decide +kernel
  · rw [foldKelvin, if_neg hk] at h
    have hc : c.toNat < 128 := by
      refine Nat.lt_of_not_le fun hc => ?_
      rw [toLower_of_le (by omega), isLower_iff] at h
      omega
    rw [← Char.ofNat_toNat c] at h ⊢
    exact isNameChar_of_isLower_toLower hc h

end Textbase.Text
