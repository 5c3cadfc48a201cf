import Textbase.Text.Whitespace
import Mathlib.Algebra.GroupWithZero.Nat
import Mathlib.Data.List.Basic

/-! Pieces joined by a gap: how long the whole is, at which character each piece begins, and what
whitespace there can be at the end. -/
namespace Textbase.Text

variable {gap p : Text} {ps : List Text}

theorem joinWith_cons_of_ne_nil (gap p : Text) (h : ps ≠ []) :
    joinWith gap (p :: ps) = p ++ gap ++ joinWith gap ps := by
  obtain ⟨q, qs, rfl⟩ := List.exists_cons_of_ne_nil h
  exact joinWith_cons_cons gap p q qs

/-- With a gap counted after every piece there is one too many. -/
theorem length_joinWith_add (gap : Text) (h : ps ≠ []) :
    (joinWith gap ps).length + gap.length = ((ps.map List.length).map (· + gap.length)).sum := by
  induction ps with
  | nil => exact absurd rfl h
  | cons p ps ih =>
    by_cases hps : ps = []
    · simp [hps]
    · have hrest := ih hps
      rw [joinWith_cons_of_ne_nil gap p hps]
      simp only [List.length_append, List.map_cons, List.sum_cons, ← hrest]
      omega

theorem length_joinWith_congr {gap' : Text} {qs : List Text} (hg : gap.length = gap'.length)
    (hp : ps.map List.length = qs.map List.length) :
    (joinWith gap ps).length = (joinWith gap' qs).length := by
  by_cases hps : ps = []
  · subst hps
    rw [List.map_nil, eq_comm, List.map_eq_nil_iff] at hp
    rw [hp]
    rfl
  · have hqs : qs ≠ [] := by
      rintro rfl
      exact hps (List.map_eq_nil_iff.1 hp)
    have hl := length_joinWith_add gap hps
    have hr := length_joinWith_add gap' hqs
    rw [hp, hg] at hl
    omega

/-- Before a piece there are the pieces that come first, each with a gap after it. -/
theorem drop_joinWith (gap : Text) (ps : List Text) (j : Nat) :
    (joinWith gap ps).drop (((ps.map List.length).take j).map (· + gap.length)).sum =
      joinWith gap (ps.drop j) := by
  induction ps generalizing j with
  | nil => simp
  | cons p ps ih =>
    cases j with
    | zero => simp
    | succ j =>
      simp only [List.map_cons, List.take_succ_cons, List.sum_cons, List.drop_succ_cons]
      by_cases hps : ps = []
      · subst hps
        simp
      · rw [joinWith_cons_of_ne_nil gap p hps, ← List.drop_drop, ← List.length_append,
          List.drop_left, ih]

theorem take_joinWith_cons (gap p : Text) (ps : List Text) :
    (joinWith gap (p :: ps)).take p.length = p := by
  by_cases hps : ps = []
  · simp [hps]
  · rw [joinWith_cons_of_ne_nil gap p hps, List.append_assoc, List.take_left]

theorem drop_joinWith_cons (gap p : Text) (h : ps ≠ []) :
    (joinWith gap (p :: ps)).drop p.length = gap ++ joinWith gap ps := by
  rw [joinWith_cons_of_ne_nil gap p h, List.append_assoc, List.drop_left]

theorem getLast_trimEnd (t : Text) : ∀ c ∈ (trimEnd t).getLast?, isSpace c = false := by
  intro c hc
  rw [trimEnd, List.getLast?_reverse] at hc
  exact head_trimStart t.reverse c hc

/-- The whitespace that the text ends in is blanks only. -/
def EndsInBlanks (t : Text) : Prop :=
  ∀ u, u <:+ t → (∀ c ∈ u, isSpace c = true) → ∀ c ∈ u, c = ' '

theorem endsInBlanks_of_last {t : Text} (h : ∀ c ∈ t.getLast?, isSpace c = false) :
    t.EndsInBlanks := by
  rintro u ⟨before, rfl⟩ hu c hc
  obtain ⟨u, d, rfl⟩ := List.eq_nil_or_concat u |>.resolve_left (List.ne_nil_of_mem hc)
  have hd : isSpace d = false := h d (by simp)
  rw [hu d (by simp)] at hd
  cases hd

theorem endsInBlanks_replicate (n : Nat) : EndsInBlanks (List.replicate n ' ') :=
  fun _ hu _ _ hc => List.eq_of_mem_replicate (hu.mem hc)

theorem EndsInBlanks.append {s t : Text} (hs : s.EndsInBlanks) (ht : t.EndsInBlanks) :
    (s ++ t).EndsInBlanks := by
  intro u hu hspaces c hc
  rcases List.suffix_or_suffix_of_suffix hu (List.suffix_append s t) with h | ⟨before, rfl⟩
  · exact ht u h hspaces c hc
  · -- The second text is whitespace throughout, and so is the end of the first.
    have hbefore : before <:+ s := ((List.suffix_append_inj_of_length_eq rfl).1 hu).1
    rcases List.mem_append.1 hc with hc | hc
    · exact hs before hbefore (fun d hd => hspaces d (List.mem_append_left t hd)) c hc
    · exact ht t List.suffix_rfl (fun d hd => hspaces d (List.mem_append_right before hd)) c hc

theorem EndsInBlanks.joinWith (hg : gap.EndsInBlanks) (hp : ∀ p ∈ ps, p.EndsInBlanks) :
    (joinWith gap ps).EndsInBlanks := by
  induction ps with
  | nil => exact endsInBlanks_replicate 0
  | cons p ps ih =>
    have hfirst := hp p List.mem_cons_self
    by_cases hps : ps = []
    · subst hps
      rwa [joinWith_singleton]
    · rw [joinWith_cons_of_ne_nil gap p hps]
      exact (hfirst.append hg).append (ih fun q hq => hp q (List.mem_cons_of_mem p hq))

/-- Such a text is got back from what trimming leaves, by blanks at the end. -/
theorem EndsInBlanks.trimEnd_append {t : Text} (h : t.EndsInBlanks) :
    trimEnd t ++ List.replicate (t.length - (trimEnd t).length) ' ' = t := by
  obtain ⟨u, hu, hspaces⟩ := exists_append_trimEnd t
  have hblanks : u = List.replicate u.length ' ' :=
    List.eq_replicate_of_mem (h u ⟨trimEnd t, hu⟩ hspaces)
  have hlength : t.length - (trimEnd t).length = u.length := by
    have := congrArg List.length hu
    rw [List.length_append] at this
    omega
  rw [hlength, ← hblanks, hu]

end Textbase.Text
