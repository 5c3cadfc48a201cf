import Textbase.Number.Double
import Mathlib.Algebra.Order.Field.Power
import Mathlib.Data.Rat.Cast.Order
import Mathlib.Order.Monotone.Basic
import Mathlib.Tactic.FieldSimp
import Mathlib.Tactic.Linarith
import Mathlib.Tactic.NormNum
import Mathlib.Tactic.Positivity
import Mathlib.Tactic.Ring

/-! Doubles as exact numbers, and what rounding to the nearest one means. The nearest encoding is
monotone in the number that it is nearest to, there is only one, and a number that a double can hold
is kept. Reading a decimal gives the encoding that is nearest to it, whatever its size. -/
namespace Textbase.Double

/-- What an encoding stands for, in units of `2 ^ -1074`: its places, as many of them further to the
left as its exponent field says. Infinity counts as the double after the largest finite one. -/
def units (m : Nat) : Nat :=
  (m - (m / 2 ^ 52 - 1) * 2 ^ 52) * 2 ^ (m / 2 ^ 52 - 1)

/-- All places of an encoding, `places` of at most 53 binary ones, and by how many they are moved. A
carry out of them is the next exponent. -/
theorem units_eq {exponent places : Nat} (hp : places ≤ 2 ^ 53)
    (hn : exponent = 0 ∨ 2 ^ 52 ≤ places) :
    units (exponent * 2 ^ 52 + places) = places * 2 ^ exponent := by
  have hdiv : (exponent * 2 ^ 52 + places) / 2 ^ 52 = exponent + places / 2 ^ 52 := by omega
  rcases Nat.lt_or_ge places (2 ^ 53) with hlt | hge
  · have he : (exponent * 2 ^ 52 + places) / 2 ^ 52 - 1 = exponent := by omega
    rw [units, he, Nat.add_sub_cancel_left]
  · have hp : places = 2 ^ 53 := Nat.le_antisymm hp hge
    have he : (exponent * 2 ^ 52 + places) / 2 ^ 52 - 1 = exponent + 1 := by omega
    have hm : exponent * 2 ^ 52 + places - (exponent + 1) * 2 ^ 52 = 2 ^ 52 := by omega
    rw [units, he, hm, hp]
    ring

theorem exists_places (m : Nat) : ∃ exponent places, exponent * 2 ^ 52 + places = m ∧
    places < 2 ^ 53 ∧ (exponent = 0 ∨ 2 ^ 52 ≤ places) :=
  ⟨m / 2 ^ 52 - 1, m - (m / 2 ^ 52 - 1) * 2 ^ 52, by omega, by omega, by omega⟩

theorem units_lt_units_succ (m : Nat) : units m < units (m + 1) := by
  obtain ⟨exponent, places, rfl, hp, hn⟩ := exists_places m
  rw [Nat.add_assoc, units_eq hp.le hn, units_eq hp (hn.imp_right Nat.le_succ_of_le)]
  exact Nat.mul_lt_mul_of_pos_right (Nat.lt_succ_self places) (Nat.two_pow_pos exponent)

theorem units_strictMono : StrictMono units := strictMono_nat_of_lt_succ units_lt_units_succ

theorem units_zero : units 0 = 0 := rfl

theorem units_infinite : units infinite = 2 ^ 1024 * 2 ^ 1074 := by
  have h : infinite = 2046 * 2 ^ 52 + 2 ^ 52 := by decide +kernel
  rw [h, units_eq (by norm_num) (.inr le_rfl), ← pow_add, ← pow_add]

/-- Among all encodings up to infinity this one is the nearest to `u` units, and if another one is
as near, this one is even. -/
structure Nearest (u : ℚ) (m : Nat) : Prop where
  le_infinite : m ≤ infinite
  distance_le : ∀ n ≤ infinite, |u - units m| ≤ |u - units n|
  even_of_tie : ∀ n ≤ infinite, n ≠ m → |u - units n| = |u - units m| → Even m

section

variable {u v a b : ℚ} {m n : Nat}

theorem distance_le_iff (h : a < b) : |u - a| ≤ |u - b| ↔ 2 * u ≤ a + b := by
  rw [← sq_le_sq]
  constructor <;> intro _ <;> nlinarith

theorem distance_ge_iff (h : a < b) : |u - b| ≤ |u - a| ↔ a + b ≤ 2 * u := by
  rw [← sq_le_sq]
  constructor <;> intro _ <;> nlinarith

theorem distance_eq_iff (h : a < b) : |u - a| = |u - b| ↔ 2 * u = a + b := by
  rw [le_antisymm_iff, distance_le_iff h, distance_ge_iff h, le_antisymm_iff]

theorem cast_units_lt (h : m < n) : (units m : ℚ) < units n :=
  Nat.cast_lt.2 (units_strictMono h)

theorem cast_units_le (h : m ≤ n) : (units m : ℚ) ≤ units n :=
  Nat.cast_le.2 (units_strictMono.monotone h)

/-- Rounding keeps the order: were it to turn two numbers round, both would lie in the middle
between the same two encodings, both of which were even, and the one between them would be nearer. -/
theorem Nearest.le_of_le (hm : Nearest u m) (hn : Nearest v n) (h : u ≤ v) : m ≤ n := by
  by_contra hlt
  rw [not_le] at hlt
  have hunits := cast_units_lt hlt
  have hu := (distance_ge_iff hunits).1 (hm.distance_le n hn.le_infinite)
  have hv := (distance_le_iff hunits).1 (hn.distance_le m hm.le_infinite)
  have hum : 2 * u = units n + units m := by linarith
  have hvn : 2 * v = units n + units m := by linarith
  have heven : Even m := hm.even_of_tie n hn.le_infinite hlt.ne ((distance_eq_iff hunits).2 hum)
  have heven' : Even n :=
    hn.even_of_tie m hm.le_infinite hlt.ne' ((distance_eq_iff hunits).2 hvn).symm
  obtain ⟨k, rfl⟩ := heven
  obtain ⟨l, rfl⟩ := heven'
  have hbetween : l + l + 1 < k + k := by omega
  have hnear := (distance_ge_iff (cast_units_lt hbetween)).1
    (hm.distance_le _ (hbetween.le.trans hm.le_infinite))
  have hlower := cast_units_lt (Nat.lt_succ_self (l + l))
  linarith

theorem Nearest.unique (hm : Nearest u m) (hn : Nearest u n) : m = n :=
  Nat.le_antisymm (hm.le_of_le hn le_rfl) (hn.le_of_le hm le_rfl)

theorem nearest_units (h : m ≤ infinite) : Nearest (units m) m where
  le_infinite := h
  distance_le n _ := by
    rw [sub_self, abs_zero]
    exact abs_nonneg _
  even_of_tie n _ hne he := by
    rw [sub_self, abs_zero, abs_eq_zero, sub_eq_zero, Nat.cast_inj] at he
    exact absurd (units_strictMono.injective he).symm hne

/-- The neighbours of an encoding decide whether it is the nearest one. -/
theorem nearest_of_neighbours (h : m ≤ infinite)
    (hbelow : ∀ k, k + 1 = m → units k + units m ≤ 2 * u ∧ (units k + units m = 2 * u → Even m))
    (habove : m < infinite → 2 * u ≤ units m + units (m + 1) ∧
      (2 * u = units m + units (m + 1) → Even m)) : Nearest u m := by
  have hlower : ∀ n < m, (units n + units m : ℚ) ≤ 2 * u ∧
      ((units n + units m : ℚ) = 2 * u → Even m) := by
    intro n hn
    obtain ⟨k, rfl⟩ := Nat.exists_eq_succ_of_ne_zero (Nat.ne_zero_of_lt hn)
    obtain ⟨hle, hed⟩ := hbelow k rfl
    have hk := cast_units_le (Nat.le_of_lt_succ hn)
    exact ⟨by linarith, fun he => hed (by linarith)⟩
  have hupper : ∀ n ≤ infinite, m < n → 2 * u ≤ units m + units n ∧
      (2 * u = units m + units n → Even m) := by
    intro n hinf hn
    obtain ⟨hle, hed⟩ := habove (hn.trans_le hinf)
    have hk := cast_units_le (Nat.succ_le_of_lt hn)
    exact ⟨by linarith, fun he => hed (by linarith)⟩
  refine ⟨h, fun n hn => ?_, fun n hn hne he => ?_⟩
  · rcases lt_trichotomy n m with hlt | rfl | hlt
    · exact (distance_ge_iff (cast_units_lt hlt)).2 (hlower n hlt).1
    · exact le_rfl
    · exact (distance_le_iff (cast_units_lt hlt)).2 (hupper n hn hlt).1
  · rcases lt_or_gt_of_ne hne with hlt | hlt
    · exact (hlower n hlt).2 ((distance_eq_iff (cast_units_lt hlt)).1 he).symm
    · exact (hupper n hn hlt).2 ((distance_eq_iff (cast_units_lt hlt)).1 he.symm)

theorem even_infinite : Even infinite := by decide +kernel

theorem nearest_infinite (h : (units infinite : ℚ) ≤ u) : Nearest u infinite := by
  refine nearest_of_neighbours le_rfl (fun k hk => ⟨?_, fun _ => even_infinite⟩)
    fun hlt => absurd hlt (lt_irrefl _)
  have hlower := cast_units_le (Nat.le_of_lt (Nat.lt_of_succ_le hk.le))
  linarith

theorem nearest_zero (h : 2 * u ≤ 1) : Nearest u 0 := by
  refine nearest_of_neighbours (Nat.zero_le _) (fun k hk => absurd hk (Nat.succ_ne_zero k))
    fun _ => ⟨?_, fun _ => Even.zero⟩
  have hone : units 1 = 1 := rfl
  rw [zero_add, units_zero, hone]
  simpa using h

/-- Of the two encodings around a number the nearer one, or the even one, is the nearest of all,
unless it is beyond infinity. -/
theorem nearest_min_of_between {k : Nat} (hl : units k ≤ u) (hr : u ≤ units (k + 1))
    (hm : m = k ∧ 2 * u ≤ units k + units (k + 1) ∧
        (2 * u = units k + units (k + 1) → Even k) ∨
      m = k + 1 ∧ units k + units (k + 1) ≤ 2 * u ∧
        (units k + units (k + 1) = 2 * u → Even (k + 1))) :
    Nearest u (min m infinite) := by
  rcases Nat.lt_or_ge k infinite with hk | hk
  · have hle : m ≤ infinite := by omega
    rw [min_eq_left hle]
    rcases hm with ⟨rfl, hup, hed⟩ | ⟨rfl, hlow, hed⟩
    · refine nearest_of_neighbours hle (fun i hi => ?_) fun _ => ⟨hup, hed⟩
      have hlower := cast_units_lt (Nat.lt_of_succ_le hi.le)
      exact ⟨by linarith, fun he => absurd he (by linarith)⟩
    · refine nearest_of_neighbours hle (fun i hi => ?_) fun _ => ?_
      · cases hi
        exact ⟨hlow, hed⟩
      · have hupper := cast_units_lt (Nat.lt_succ_self (k + 1))
        exact ⟨by linarith, fun he => absurd he (by linarith)⟩
  · have hle : infinite ≤ m := by omega
    rw [min_eq_right hle]
    exact nearest_infinite ((cast_units_le hk).trans hl)

end

theorem divNearest_cases (n d : Nat) :
    divNearest n d = n / d ∧ 2 * (n % d) ≤ d ∧ (2 * (n % d) = d → Even (n / d)) ∨
      divNearest n d = n / d + 1 ∧ d ≤ 2 * (n % d) ∧ (2 * (n % d) = d → Even (n / d + 1)) := by
  simp only [divNearest, Nat.even_iff]
  split
  · left
    omega
  · split
    · right
      omega
    · rcases Nat.mod_two_eq_zero_or_one (n / d) with h | h
      · left
        omega
      · right
        omega

theorem places_of_dropped (q : Nat) : q / 2 ^ (q.log2 + 1 - 53) < 2 ^ 53 ∧
    (q.log2 + 1 - 53 = 0 ∨ 2 ^ 52 ≤ q / 2 ^ (q.log2 + 1 - 53)) := by
  have hupper : q < 2 ^ (q.log2 + 1) := Nat.lt_log2_self
  rcases Nat.lt_or_ge q.log2 53 with hlog | hlog
  · have hzero : q.log2 + 1 - 53 = 0 := by omega
    rw [hzero, pow_zero, Nat.div_one]
    exact ⟨hupper.trans_le (Nat.pow_le_pow_right (by norm_num) hlog), .inl rfl⟩
  · have hq : q ≠ 0 := by
      rintro rfl
      simp at hlog
    have hlower := Nat.log2_self_le hq
    have hsplit : q.log2 = 52 + (q.log2 + 1 - 53) := by omega
    have hpos := Nat.two_pow_pos (q.log2 + 1 - 53)
    refine ⟨(Nat.div_lt_iff_lt_mul hpos).2 ?_, .inr ((Nat.le_div_iff_mul_le hpos).2 ?_)⟩
    · rw [← pow_add]
      convert hupper using 2
      omega
    · rwa [← pow_add, ← hsplit]

/-- A number between two neighbouring multiples of a power of two, with the nearer of the two, or
the even one, for its places. -/
theorem nearest_of_places {exponent places chosen : Nat} {rest : ℚ} (hp : places < 2 ^ 53)
    (hn : exponent = 0 ∨ 2 ^ 52 ≤ places) (hl : 0 ≤ rest) (hr : rest ≤ 2 ^ exponent)
    (hc : chosen = places ∧ 2 * rest ≤ 2 ^ exponent ∧ (2 * rest = 2 ^ exponent → Even places) ∨
      chosen = places + 1 ∧ 2 ^ exponent ≤ 2 * rest ∧
        (2 * rest = 2 ^ exponent → Even (places + 1))) :
    Nearest (places * 2 ^ exponent + rest) (min (exponent * 2 ^ 52 + chosen) infinite) := by
  have hlower : (units (exponent * 2 ^ 52 + places) : ℚ) = places * 2 ^ exponent := by
    rw [units_eq hp.le hn, Nat.cast_mul, Nat.cast_pow, Nat.cast_ofNat]
  have hupper : (units (exponent * 2 ^ 52 + places + 1) : ℚ) =
      places * 2 ^ exponent + 2 ^ exponent := by
    rw [Nat.add_assoc, units_eq hp (hn.imp_right Nat.le_succ_of_le), Nat.cast_mul, Nat.cast_pow,
      Nat.cast_ofNat, Nat.cast_succ, add_one_mul]
  have hfield : Even (exponent * 2 ^ 52) := (even_two.pow_of_ne_zero (by decide)).mul_left exponent
  refine nearest_min_of_between (k := exponent * 2 ^ 52 + places) ?_ ?_ ?_
  · rw [hlower]
    exact le_add_of_nonneg_right hl
  · rw [hupper]
    linarith only [hr]
  · rw [hlower, hupper]
    rcases hc with ⟨rfl, hle, hed⟩ | ⟨rfl, hle, hed⟩
    · exact .inl ⟨rfl, by linarith only [hle], fun he => hfield.add (hed (by linarith only [he]))⟩
    · refine .inr ⟨(Nat.add_assoc ..).symm, by linarith only [hle], fun he => ?_⟩
      rw [Nat.add_assoc]
      exact hfield.add (hed (by linarith only [he]))

/-- Rounding a quotient to 53 binary places, none of them below the unit, gives the nearest
encoding. -/
theorem nearest_encodeRatio (n : Nat) {d : Nat} (hd : 0 < d) :
    Nearest ((n : ℚ) / d * 2 ^ 1074) (encodeRatio n d) := by
  have hd' : (0 : ℚ) < d := Nat.cast_pos.2 hd
  have hpow : ∀ a b : Nat, Nat.pow a b = a ^ b := fun _ _ => rfl
  simp only [encodeRatio, hpow]
  generalize hN : n * 2 ^ 1074 = N
  obtain ⟨hp, hn⟩ := places_of_dropped (N / d)
  generalize (N / d).log2 + 1 - 53 = exponent at hp hn ⊢
  rw [Nat.div_div_eq_div_mul] at hp hn
  have hcases := divNearest_cases N (d * 2 ^ exponent)
  have hrest : N % (d * 2 ^ exponent) < d * 2 ^ exponent := Nat.mod_lt _ (by positivity)
  have hwhole := Nat.div_add_mod N (d * 2 ^ exponent)
  generalize N / (d * 2 ^ exponent) = places at hp hn hcases hwhole
  generalize N % (d * 2 ^ exponent) = r at hcases hrest hwhole
  have hu : (n : ℚ) / d * 2 ^ 1074 = places * 2 ^ exponent + r / d := by
    have hN' := congrArg (Nat.cast (R := ℚ)) (hN.trans hwhole.symm)
    simp only [Nat.cast_add, Nat.cast_mul, Nat.cast_pow, Nat.cast_ofNat] at hN'
    rw [div_mul_eq_mul_div, hN']
    field_simp
  rw [hu]
  refine nearest_of_places hp hn (div_nonneg r.cast_nonneg d.cast_nonneg) ?_ ?_
  · rw [div_le_iff₀' hd']
    exact_mod_cast hrest.le
  · have hle : 2 * ((r : ℚ) / d) ≤ 2 ^ exponent ↔ 2 * r ≤ d * 2 ^ exponent := by
      rw [mul_div_assoc', div_le_iff₀' hd']
      exact_mod_cast Iff.rfl
    have hge : 2 ^ exponent ≤ 2 * ((r : ℚ) / d) ↔ d * 2 ^ exponent ≤ 2 * r := by
      rw [mul_div_assoc', le_div_iff₀' hd']
      exact_mod_cast Iff.rfl
    have htie : 2 * ((r : ℚ) / d) = 2 ^ exponent ↔ 2 * r = d * 2 ^ exponent := by
      rw [le_antisymm_iff, hle, hge, ← le_antisymm_iff]
    rwa [hle, hge, htie]

theorem two_pow_le_ten_pow {a b : Nat} (h : 2 ^ a ≤ 10 ^ b) : (2 : ℚ) ^ a ≤ 10 ^ b := by
  have hcast := (Nat.cast_le (α := ℚ)).2 h
  rwa [Nat.cast_pow, Nat.cast_pow, Nat.cast_ofNat, Nat.cast_ofNat] at hcast

/-- From 310 places before the point on a number is too large for every double. -/
theorem nearest_of_large {c : Nat} {e : ℤ} (hc : c ≠ 0) (he : 310 < e) :
    Nearest ((c : ℚ) * 10 ^ e * 2 ^ 1074) infinite := by
  have hone : (1 : ℚ) ≤ c := Nat.one_le_cast.2 (Nat.one_le_iff_ne_zero.2 hc)
  have hten : (2 : ℚ) ^ 1024 ≤ 10 ^ e :=
    calc (2 : ℚ) ^ 1024
      _ ≤ 10 ^ 310 := two_pow_le_ten_pow (by decide +kernel)
      _ = 10 ^ (310 : ℤ) := (zpow_natCast 10 310).symm
      _ ≤ 10 ^ e := zpow_le_zpow_right₀ (by norm_num) he.le
  refine nearest_infinite ?_
  rw [units_infinite, Nat.cast_mul, Nat.cast_pow, Nat.cast_pow, Nat.cast_ofNat]
  refine mul_le_mul_of_nonneg_right ?_ (by positivity)
  calc (2 : ℚ) ^ 1024
    _ ≤ 10 ^ e := hten
    _ ≤ c * 10 ^ e := le_mul_of_one_le_left (by positivity) hone

theorem lt_pow_length_ofNat (c : Nat) : c < 10 ^ (Text.ofNat c).length :=
  (Nat.length_toDigits_le_iff (by norm_num) (List.length_pos_iff.2 Nat.toDigits_ne_nil)).1 le_rfl

/-- With 330 zeros behind the point and no other digit before them a number is too small for every
double. -/
theorem nearest_of_small {c : Nat} {e : ℤ} (he : e + (Text.ofNat c).length < -330) :
    Nearest ((c : ℚ) * 10 ^ e * 2 ^ 1074) 0 := by
  have hc : (c : ℚ) ≤ 10 ^ ((Text.ofNat c).length : ℤ) := by
    rw [zpow_natCast]
    exact_mod_cast (lt_pow_length_ofNat c).le
  have hten : (c : ℚ) * 10 ^ e ≤ (10 ^ 330)⁻¹ :=
    calc (c : ℚ) * 10 ^ e
      _ ≤ 10 ^ ((Text.ofNat c).length : ℤ) * 10 ^ e := by gcongr
      _ = 10 ^ ((Text.ofNat c).length + e) := (zpow_add₀ (by norm_num) _ _).symm
      _ ≤ 10 ^ (-(330 : ℕ) : ℤ) := zpow_le_zpow_right₀ (by norm_num) (by omega)
      _ = (10 ^ 330)⁻¹ := by rw [zpow_neg, zpow_natCast]
  refine nearest_zero ?_
  calc 2 * ((c : ℚ) * 10 ^ e * 2 ^ 1074)
    _ = c * 10 ^ e * 2 ^ (1074 + 1) := by
      rw [pow_succ (2 : ℚ) 1074, mul_comm, mul_assoc _ _ (2 : ℚ)]
    _ ≤ (10 ^ 330)⁻¹ * 10 ^ 330 := by
      gcongr
      exact two_pow_le_ten_pow (by decide +kernel)
    _ = 1 := inv_mul_cancel₀ (by positivity)

/-- Every decimal is rounded to the nearest encoding, also when its power of ten is beyond the range
of doubles and settled by its size alone. -/
theorem nearest_encodeScaled (c : Nat) (e : ℤ) :
    Nearest ((c : ℚ) * 10 ^ e * 2 ^ 1074) (encodeScaled c e) := by
  unfold encodeScaled
  split
  · rename_i hc
    rw [hc, Nat.cast_zero, zero_mul, zero_mul]
    exact nearest_zero (by norm_num)
  · rename_i hc
    split
    · exact nearest_of_large hc ‹_›
    · split
      · exact nearest_of_small ‹_›
      · split
        · rename_i k _ _
          have h := nearest_encodeRatio (c * 10 ^ k) (d := 1) Nat.one_pos
          simpa using h
        · rename_i k _ _
          have h := nearest_encodeRatio c (d := 10 ^ (k + 1)) (by positivity)
          simpa [zpow_negSucc, div_eq_mul_inv] using h

/-- One tenth. -/
example : encodeScaled 1 (-1) = 0x3fb999999999999a := by decide +kernel

end Textbase.Double
