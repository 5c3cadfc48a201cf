import Textbase.Proofs.Number.Numeral
import Textbase.Proofs.Number.Rounding
import Textbase.Proofs.Value.Coherence

/-! Comparing numbers by the doubles nearest to them. Two numerals may fall together on one double,
but they are never told apart the wrong way round, and numerals of one value are the same number
however they are written. Integers up to `2 ^ 53` are compared exactly. -/
namespace Textbase

namespace Double

/-- The double nearest to a number, with a sign that agrees with it. -/
structure IsNearest (x : Double) (q : ℚ) : Prop where
  sign : if x.negative then q ≤ 0 else 0 ≤ q
  magnitude : Nearest (|q| * 2 ^ 1074) x.magnitude

theorem isNearest_ofDecimal (x : Decimal) : (ofDecimal x).IsNearest x.toRat := by
  obtain ⟨negative, c, e⟩ := x
  have hpos : (0 : ℚ) ≤ c * 10 ^ e := by positivity
  have hnearest := nearest_encodeScaled c e
  cases negative with
  | false =>
    have hq : Decimal.toRat ⟨false, c, e⟩ = c * 10 ^ e := by simp [Decimal.toRat]
    rw [hq]
    exact ⟨hpos, by rwa [abs_of_nonneg hpos]⟩
  | true =>
    have hq : Decimal.toRat ⟨true, c, e⟩ = -(c * 10 ^ e) := by simp [Decimal.toRat]
    rw [hq]
    exact ⟨neg_nonpos.2 hpos, by rwa [abs_neg, abs_of_nonneg hpos]⟩

theorem key_of_negative {x : Double} (h : x.negative = true) : x.key = -(x.magnitude : ℤ) :=
  if_pos h

theorem key_of_not_negative {x : Double} (h : x.negative = false) : x.key = x.magnitude :=
  if_neg (by simp [h])

section

variable {x y : Double} {p q : ℚ}

theorem IsNearest.nonpos (h : x.IsNearest q) (hx : x.negative = true) : q ≤ 0 := by
  have hs := h.sign
  rwa [if_pos hx] at hs

theorem IsNearest.nonneg (h : x.IsNearest q) (hx : x.negative = false) : 0 ≤ q := by
  have hs := h.sign
  rwa [if_neg (by simp [hx])] at hs

theorem IsNearest.magnitude_le (hx : x.IsNearest p) (hy : y.IsNearest q) (h : |p| ≤ |q|) :
    x.magnitude ≤ y.magnitude :=
  hx.magnitude.le_of_le hy.magnitude (mul_le_mul_of_nonneg_right h (by positivity))

/-- The order of doubles never contradicts that of the numbers. -/
theorem IsNearest.key_le_key (hx : x.IsNearest p) (hy : y.IsNearest q) (h : p ≤ q) :
    x.key ≤ y.key := by
  cases hxn : x.negative with
  | true =>
    have hp := hx.nonpos hxn
    cases hyn : y.negative with
    | true =>
      have hm := hy.magnitude_le hx (by
        rw [abs_of_nonpos hp, abs_of_nonpos (hy.nonpos hyn)]
        exact neg_le_neg h)
      rw [key_of_negative hxn, key_of_negative hyn]
      omega
    | false =>
      rw [key_of_negative hxn, key_of_not_negative hyn]
      omega
  | false =>
    have hp := hx.nonneg hxn
    have hm : |p| ≤ |q| := by rwa [abs_of_nonneg hp, abs_of_nonneg (hp.trans h)]
    cases hyn : y.negative with
    | true =>
      -- Both numbers are zero.
      have hq : q = 0 := le_antisymm (hy.nonpos hyn) (hp.trans h)
      have hzero : y.magnitude = 0 := by
        have hmag := hy.magnitude
        rw [hq, abs_zero, zero_mul] at hmag
        exact hmag.unique (nearest_zero (by norm_num))
      have hle := hx.magnitude_le hy hm
      rw [key_of_not_negative hxn, key_of_negative hyn]
      omega
    | false =>
      rw [key_of_not_negative hxn, key_of_not_negative hyn]
      exact_mod_cast hx.magnitude_le hy hm

end

def toUnits (x : Double) : ℤ := if x.negative then -(units x.magnitude : ℤ) else units x.magnitude

theorem toUnits_eq_of_key_eq {x y : Double} (h : x.key = y.key) : x.toUnits = y.toUnits := by
  unfold key at h
  unfold toUnits
  split at h <;> split at h
  · rw [if_pos ‹_›, if_pos ‹_›, Int.ofNat_inj.1 (Int.neg_inj.1 h)]
  · rw [if_pos ‹_›, if_neg ‹_›, show x.magnitude = 0 by omega, show y.magnitude = 0 by omega]
    rfl
  · rw [if_neg ‹_›, if_pos ‹_›, show x.magnitude = 0 by omega, show y.magnitude = 0 by omega]
    rfl
  · rw [if_neg ‹_›, if_neg ‹_›, Int.ofNat_inj.1 h]

theorem toUnits_lt_of_key_lt {x y : Double} (h : x.key < y.key) : x.toUnits < y.toUnits := by
  have hx := units_strictMono.le_apply (x := x.magnitude)
  have hy := units_strictMono.le_apply (x := y.magnitude)
  unfold key at h
  unfold toUnits
  split at h <;> split at h
  · have hlt := units_strictMono (show y.magnitude < x.magnitude by omega)
    rw [if_pos ‹_›, if_pos ‹_›]
    omega
  · rw [if_pos ‹_›, if_neg ‹_›]
    omega
  · omega
  · have hlt := units_strictMono (show x.magnitude < y.magnitude by omega)
    rw [if_neg ‹_›, if_neg ‹_›]
    omega

/-- The keys are in the order of the numbers that the doubles stand for. -/
theorem compare_toUnits (x y : Double) : compare x.toUnits y.toUnits = compare x.key y.key := by
  rcases lt_trichotomy x.key y.key with h | h | h
  · rw [Int.compare_eq_lt.2 h, Int.compare_eq_lt.2 (toUnits_lt_of_key_lt h)]
  · rw [Int.compare_eq_eq.2 h, Int.compare_eq_eq.2 (toUnits_eq_of_key_eq h)]
  · rw [Int.compare_eq_gt.2 h, Int.compare_eq_gt.2 (toUnits_lt_of_key_lt h)]

theorem exists_units_eq {k : Nat} (h : k ≤ 2 ^ 53) : ∃ m ≤ infinite, units m = k * 2 ^ 1074 := by
  rcases h.eq_or_lt with rfl | hlt
  · exact ⟨1074 * 2 ^ 52 + 2 ^ 53, by decide +kernel, units_eq le_rfl (.inr (by norm_num))⟩
  · rcases Nat.eq_zero_or_pos k with rfl | hpos
    · exact ⟨0, Nat.zero_le _, by rw [units_zero, zero_mul]⟩
    · -- The places are moved to the left until there are 53 of them.
      have hlog : k.log2 < 53 := (Nat.log2_lt hpos.ne').2 hlt
      obtain ⟨s, hs⟩ := Nat.exists_eq_add_of_le (Nat.le_of_lt_succ hlog)
      have hlower : 2 ^ 52 ≤ k * 2 ^ s := by
        rw [hs, pow_add]
        exact Nat.mul_le_mul_right _ (Nat.log2_self_le hpos.ne')
      have hupper : k * 2 ^ s < 2 ^ 53 := by
        have hk := Nat.mul_lt_mul_of_pos_right (Nat.lt_log2_self (n := k)) (Nat.two_pow_pos s)
        rw [← pow_add] at hk
        convert hk using 2
        omega
      refine ⟨(1074 - s) * 2 ^ 52 + k * 2 ^ s, ?_, ?_⟩
      · have hinf : infinite = 2047 * 2 ^ 52 := rfl
        omega
      · rw [units_eq hupper.le (.inr hlower), mul_assoc, ← pow_add,
          show s + (1074 - s) = 1074 by omega]

/-- The double nearest to an integer that is not too large is this integer. -/
theorem IsNearest.toUnits_of_int {x : Double} {i : ℤ} (h : x.IsNearest i) (hi : |i| ≤ 2 ^ 53) :
    x.toUnits = i * 2 ^ 1074 := by
  rw [Int.abs_eq_natAbs] at hi
  obtain ⟨m, hm, hunits⟩ := exists_units_eq (k := i.natAbs) (by exact_mod_cast hi)
  have hvalue : |(i : ℚ)| * 2 ^ 1074 = units m := by
    rw [hunits, Nat.cast_mul, Nat.cast_pow, Nat.cast_ofNat, Nat.cast_natAbs, Int.cast_abs]
  have hmag : x.magnitude = m := by
    have hnearest := h.magnitude
    rw [hvalue] at hnearest
    exact hnearest.unique (nearest_units hm)
  rw [toUnits, hmag, hunits, Nat.cast_mul, Nat.cast_pow, Nat.cast_ofNat, Int.natCast_natAbs]
  cases hx : x.negative with
  | true =>
    have hsign : i ≤ 0 := by exact_mod_cast h.nonpos hx
    rw [if_pos rfl, abs_of_nonpos hsign, neg_mul, neg_neg]
  | false =>
    have hsign : 0 ≤ i := by exact_mod_cast h.nonneg hx
    rw [if_neg (by simp), abs_of_nonneg hsign]

theorem IsNearest.key_lt_key_of_int {x y : Double} {i j : ℤ} (hx : x.IsNearest i)
    (hy : y.IsNearest j) (hi : |i| ≤ 2 ^ 53) (hj : |j| ≤ 2 ^ 53) (h : i < j) : x.key < y.key := by
  refine lt_of_le_of_ne (hx.key_le_key hy (by exact_mod_cast h.le)) fun he => h.ne ?_
  have hunits := toUnits_eq_of_key_eq he
  rw [hx.toUnits_of_int hi, hy.toUnits_of_int hj] at hunits
  exact mul_right_cancel₀ (by positivity) hunits

end Double

namespace Value

variable {a b s : Text} {x y : Double} {p q : ℚ}

/-- The value is written as a numeral of this exact value. -/
def Denotes (s : Text) (p : ℚ) : Prop :=
  ∃ n : Decimal.Numeral, n.text = Text.trim s ∧ n.value = p

theorem denotes_iff : Denotes s p ↔ ∃ x, Decimal.read? (Text.trim s) = some x ∧ x.toRat = p := by
  constructor
  · rintro ⟨n, hn, rfl⟩
    exact ⟨_, Decimal.read?_eq_some_iff.2 ⟨n, hn, rfl⟩, Decimal.toRat_value_literal n⟩
  · rintro ⟨x, hx, rfl⟩
    obtain ⟨n, hn, rfl⟩ := Decimal.read?_eq_some_iff.1 hx
    exact ⟨n, hn, (Decimal.toRat_value_literal n).symm⟩

/-- The number that a numeral stands for is the double nearest to its exact value. -/
theorem number?_of_numeral {n : Decimal.Numeral} (h : n.text = Text.trim s) :
    number? s = some (Double.ofDecimal n.literal.value) ∧
      (Double.ofDecimal n.literal.value).IsNearest n.value := by
  constructor
  · rw [number?, Decimal.read?_eq_some_iff.2 ⟨n, h, rfl⟩, Option.map_some]
  · rw [← Decimal.toRat_value_literal]
    exact Double.isNearest_ofDecimal _

theorem Denotes.exists_number? (h : Denotes s p) : ∃ x, number? s = some x ∧ x.IsNearest p := by
  obtain ⟨n, hn, rfl⟩ := h
  exact ⟨_, number?_of_numeral hn⟩

theorem isSome_number?_iff_denotes : (number? s).isSome = true ↔ ∃ p, Denotes s p := by
  constructor
  · intro h
    obtain ⟨x, hx⟩ := Option.isSome_iff_exists.1 h
    obtain ⟨d, hd, -⟩ := Option.map_eq_some_iff.1 hx
    obtain ⟨n, hn, -⟩ := Decimal.read?_eq_some_iff.1 hd
    exact ⟨n.value, n, hn, rfl⟩
  · rintro ⟨p, hp⟩
    obtain ⟨x, hx, -⟩ := hp.exists_number?
    rw [hx]
    rfl

/-- The values that are numbers are the numerals. Two of them are compared by the doubles nearest to
their exact values: never the wrong way round, as equal when the exact values are, and exactly when
these are integers up to `2 ^ 53`. -/
theorem compare_exact :
    (∀ s, (number? s).isSome = true ↔ ∃ p, Denotes s p) ∧
    ∀ a b p q, Denotes a p → Denotes b q →
      (∃ x y, number? a = some x ∧ x.IsNearest p ∧ number? b = some y ∧ y.IsNearest q ∧
        Value.compare a b = compare x.toUnits y.toUnits) ∧
      (Value.compare a b = .lt → p < q) ∧ (Value.compare a b = .gt → q < p) ∧
      (p = q → Value.compare a b = .eq ∧ same a b = true) ∧
      ∀ i j : ℤ, p = i → q = j → |i| ≤ 2 ^ 53 → |j| ≤ 2 ^ 53 →
        Value.compare a b = compare i j := by
  refine ⟨fun s => isSome_number?_iff_denotes, fun a b p q hp hq => ?_⟩
  obtain ⟨x, hx, hxp⟩ := hp.exists_number?
  obtain ⟨y, hy, hyq⟩ := hq.exists_number?
  have hcompare := compare_of_numbers hx hy
  have hkey : p = q → x.key = y.key := by
    rintro rfl
    exact le_antisymm (hxp.key_le_key hyq le_rfl) (hyq.key_le_key hxp le_rfl)
  refine ⟨⟨x, y, hx, hxp, hy, hyq, hcompare.trans (Double.compare_toUnits x y).symm⟩,
    fun h => ?_, fun h => ?_, fun h => ?_, ?_⟩
  · rw [hcompare, Int.compare_eq_lt] at h
    exact lt_of_not_ge fun hle => absurd (hyq.key_le_key hxp hle) (not_le.2 h)
  · rw [hcompare, Int.compare_eq_gt] at h
    exact lt_of_not_ge fun hle => absurd (hxp.key_le_key hyq hle) (not_le.2 h)
  · have hsame := (same_of_numbers hx hy).2 (hkey h)
    exact ⟨compare_eq_iff.2 hsame, hsame⟩
  · rintro i j rfl rfl hi hj
    rw [hcompare]
    rcases lt_trichotomy i j with hij | rfl | hij
    · rw [Int.compare_eq_lt.2 (hxp.key_lt_key_of_int hyq hi hj hij), Int.compare_eq_lt.2 hij]
    · rw [Int.compare_eq_eq.2 (hkey rfl), Int.compare_eq_eq.2 rfl]
    · rw [Int.compare_eq_gt.2 (hyq.key_lt_key_of_int hxp hj hi hij), Int.compare_eq_gt.2 hij]

theorem compare_exact_spellings :
    let a := "-1e999".toList
    let b := " +2e1".toList
    let c := "0020.0".toList
    Denotes a (-10 ^ 999) ∧ Denotes b 20 ∧ Denotes c 20 ∧
      (Value.compare a c = .lt ∧ (-10 ^ 999 : ℚ) < 20) ∧
      (Value.compare c a = .gt ∧ (20 : ℚ) > -10 ^ 999) ∧
      Value.compare b c = .eq ∧ same b c = true := by
  have ha : Denotes "-1e999".toList (-10 ^ 999) :=
    denotes_iff.2 ⟨⟨true, 1, 999⟩, by decide +kernel, by simp [Decimal.toRat]⟩
  have hb : Denotes " +2e1".toList 20 :=
    denotes_iff.2 ⟨⟨false, 2, 1⟩, by decide +kernel, by norm_num [Decimal.toRat]⟩
  have hc : Denotes "0020.0".toList 20 :=
    denotes_iff.2 ⟨⟨false, 200, -1⟩, by decide +kernel, by norm_num [Decimal.toRat]⟩
  have hlt : Value.compare "-1e999".toList "0020.0".toList = .lt := by decide +kernel
  have hgt : Value.compare "0020.0".toList "-1e999".toList = .gt := by decide +kernel
  have hac := (compare_exact.2 _ _ _ _ ha hc).2
  have hca := (compare_exact.2 _ _ _ _ hc ha).2
  have hbc := (compare_exact.2 _ _ _ _ hb hc).2
  have hexact : Value.compare " +2e1".toList "0020.0".toList = compare (20 : ℤ) 20 :=
    hbc.2.2.2 20 20 (by norm_num) (by norm_num) (by decide) (by decide)
  exact ⟨ha, hb, hc, ⟨hlt, hac.1 hlt⟩, ⟨hgt, hca.2.1 hgt⟩, hexact.trans (by decide),
    (hbc.2.2.1 rfl).2⟩

end Value

end Textbase
