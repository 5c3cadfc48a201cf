/-! Classes of characters, given as ascending lists of code point ranges. -/
namespace Textbase.Text

/-- First and last code point of every range of a class, in ascending order. -/
abbrev Ranges := List (Nat × Nat)

/-- Looks no further than the first range that starts above the code point. -/
def Ranges.has (n : Nat) : Ranges → Bool
  | [] => false
  | (lo, hi) :: rs => lo ≤ n && (n ≤ hi || has n rs)

@[simp] theorem Ranges.has_nil (n : Nat) : Ranges.has n [] = false := rfl
theorem Ranges.has_cons (n lo hi : Nat) (rs : Ranges) :
    Ranges.has n ((lo, hi) :: rs) = (lo ≤ n && (n ≤ hi || Ranges.has n rs)) := rfl

theorem Ranges.mem_of_has {n : Nat} {rs : Ranges} (h : Ranges.has n rs = true) :
    ∃ r ∈ rs, r.1 ≤ n ∧ n ≤ r.2 := by
  induction rs with
  | nil => simp at h
  | cons r rs ih =>
    obtain ⟨lo, hi⟩ := r
    simp only [has_cons, Bool.and_eq_true, Bool.or_eq_true, decide_eq_true_eq] at h
    rcases h with ⟨hlo, hhi | hrs⟩
    · exact ⟨(lo, hi), by simp, hlo, hhi⟩
    · obtain ⟨r, hr, hb⟩ := ih hrs
      exact ⟨r, by simp [hr], hb⟩

end Textbase.Text
