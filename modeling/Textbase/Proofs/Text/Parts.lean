import Textbase.Text.Lines
import Textbase.Text.Whitespace
import Mathlib.Data.List.TakeWhile

/-! Parts of a text: what is left of it when it is trimmed, and the pieces between separators. -/
namespace Textbase.Text

theorem append_inj_of_byteLength {a b c d : Text} (h : a ++ b = c ++ d)
    (hl : byteLength a = byteLength c) : a = c ∧ b = d := by
  have hc : c <+: a ++ b := ⟨d, h.symm⟩
  obtain ⟨m, rfl⟩ := prefix_of_byteLength_le (List.prefix_append a b) hc (Nat.le_of_eq hl)
  have hm : byteLength m = 0 := by
    rw [byteLength_append] at hl
    omega
  rw [byteLength_eq_zero_iff.1 hm, List.append_nil] at h ⊢
  exact ⟨rfl, List.append_cancel_left h⟩

theorem prefix_trimEnd (t : Text) : trimEnd t <+: t := by
  obtain ⟨u, hu, -⟩ := exists_append_trimEnd t
  exact ⟨u, hu⟩

theorem exists_trim (t : Text) : ∃ before after, before ++ trim t ++ after = t ∧
    (∀ c ∈ before, isSpace c = true) ∧ ∀ c ∈ after, isSpace c = true := by
  obtain ⟨after, ha, hspaces⟩ := exists_append_trimEnd (trimStart t)
  refine ⟨t.takeWhile isSpace, after, ?_, ?_, hspaces⟩
  · rw [List.append_assoc, trim, ha, trimStart, List.takeWhile_append_dropWhile]
  · exact fun c hc => List.all_eq_true.1 List.all_takeWhile c hc

theorem infix_trim (t : Text) : trim t <:+: t := by
  obtain ⟨before, after, ht, -⟩ := exists_trim t
  exact ⟨before, after, ht⟩

theorem trimStart_append {gap : Text} (hgap : ∀ d ∈ gap, isSpace d = true) {c : Char}
    (hc : isSpace c = false) (t : Text) : trimStart (gap ++ c :: t) = c :: t := by
  rw [trimStart, List.dropWhile_append_of_pos hgap, List.dropWhile_cons_of_neg (by simp [hc])]

theorem trimEnd_of_spaces {t : Text} (h : ∀ c ∈ t, isSpace c = true) : trimEnd t = [] := by
  rw [trimEnd, List.dropWhile_eq_nil_iff.2 fun c hc => h c (List.mem_reverse.1 hc)]
  rfl

theorem trim_of_spaces {t : Text} (h : ∀ c ∈ t, isSpace c = true) : trim t = [] := by
  rw [trim, trimStart, List.dropWhile_eq_nil_iff.2 h, trimEnd_nil]

theorem trim_append_spaces {before s after : Text} (hb : ∀ c ∈ before, isSpace c = true)
    (hs : s.Trimmed) (hne : s ≠ []) (ha : ∀ c ∈ after, isSpace c = true) :
    trim (before ++ s ++ after) = s := by
  obtain ⟨c, t, rfl⟩ := List.exists_cons_of_ne_nil hne
  have hstart : trimStart (before ++ c :: t ++ after) = c :: t ++ after := by
    rw [List.append_assoc]
    exact trimStart_append hb (hs.head c rfl) (t ++ after)
  rw [trim, hstart, trimEnd_append hne hs.last, trimEnd_of_spaces ha, List.append_nil]

theorem infix_joinWith {gap p : Text} {ps : List Text} (h : p ∈ ps) : p <:+: joinWith gap ps := by
  induction ps with
  | nil => cases h
  | cons q ps ih =>
    cases ps with
    | nil =>
      obtain rfl := List.mem_singleton.1 h
      simp
    | cons r ps =>
      rw [joinWith_cons_cons]
      rcases List.mem_cons.1 h with rfl | h
      · exact ⟨[], gap ++ joinWith gap (r :: ps), by simp⟩
      · exact (ih h).trans (List.suffix_append _ _).isInfix

theorem infix_of_mem_splitOn {t p : Text} {c : Char} (h : p ∈ t.splitOn c) : p <:+: t := by
  have hp : p <:+: joinWith [c] (t.splitOn c) := infix_joinWith h
  rwa [joinWith, List.intercalate_splitOn] at hp

theorem not_mem_of_mem_splitOn {t p : Text} {c : Char} (h : p ∈ t.splitOn c) : c ∉ p := by
  induction t generalizing p with
  | nil =>
    rw [List.splitOn_nil, List.mem_singleton] at h
    rw [h]
    exact List.not_mem_nil
  | cons d t ih =>
    obtain ⟨q, qs, hq⟩ := List.exists_cons_of_ne_nil (List.splitOn_ne_nil c t)
    rw [hq] at ih
    rw [List.splitOn_cons_eq_if_modifyHead, hq] at h
    split at h
    · rcases List.mem_cons.1 h with rfl | h
      · exact List.not_mem_nil
      · exact ih h
    · rename_i hd
      rw [List.modifyHead_cons] at h
      rcases List.mem_cons.1 h with rfl | h
      · have hfirst : c ∉ q := ih List.mem_cons_self
        have hne : d ≠ c := by simpa using hd
        simp [hfirst, hne.symm]
      · exact ih (List.mem_cons_of_mem q h)

/-- A line ends in a line feed, with a carriage return before it or not. The last one need not end,
but if it does not it has something in it. -/
inductive InLines : Text → List Text → Prop
  | nil : InLines [] []
  | last {l : Text} (hne : l ≠ []) (hl : '\n' ∉ l) : InLines l [l]
  | feed {l t : Text} {ls : List Text} (hl : '\n' ∉ l) (hr : l.getLast? ≠ some '\r')
      (h : InLines t ls) : InLines (l ++ '\n' :: t) (l :: ls)
  | returnFeed {l t : Text} {ls : List Text} (hl : '\n' ∉ l) (h : InLines t ls) :
      InLines (l ++ '\r' :: '\n' :: t) (l :: ls)

theorem InLines.cons {l t : Text} {ls : List Text} (hl : '\n' ∉ l) (h : InLines t ls) :
    InLines (l ++ '\n' :: t) (dropReturn l :: ls) := by
  by_cases hr : l.getLast? = some '\r'
  · obtain ⟨u, rfl⟩ := List.getLast?_eq_some_iff.1 hr
    have hu : '\n' ∉ u := fun hm => hl (List.mem_append_left _ hm)
    have hdrop : dropReturn (u ++ ['\r']) = u := by simp [dropReturn]
    rw [hdrop, List.append_assoc]
    exact .returnFeed hu h
  · have hdrop : dropReturn l = l := if_neg (by simpa using hr)
    rw [hdrop]
    exact .feed hl hr h

theorem inLines_linesOfPieces {ps : List Text} (hp : ∀ p ∈ ps, '\n' ∉ p) :
    InLines (joinWith ['\n'] ps) (linesOfPieces ps) := by
  induction ps with
  | nil => exact .nil
  | cons l ps ih =>
    have hl : '\n' ∉ l := hp l List.mem_cons_self
    have hrest := ih fun p hm => hp p (List.mem_cons_of_mem l hm)
    cases ps with
    | nil =>
      rw [joinWith_singleton, linesOfPieces]
      split
      · rename_i he
        rw [List.isEmpty_iff.1 he]
        exact .nil
      · rename_i he
        exact .last (by simpa using he) hl
    | cons m ps =>
      rw [joinWith_cons_cons, linesOfPieces, List.append_assoc]
      exact hrest.cons hl

theorem inLines_lines (t : Text) : InLines t (lines t) := by
  have hpieces : ∀ p ∈ t.splitOn '\n', '\n' ∉ p := fun _ => not_mem_of_mem_splitOn
  have h := inLines_linesOfPieces hpieces
  rwa [joinWith, List.intercalate_splitOn] at h

example : lines "a\r\n\r\nb\r".toList = [['a'], [], ['b', '\r']] := by decide

end Textbase.Text
