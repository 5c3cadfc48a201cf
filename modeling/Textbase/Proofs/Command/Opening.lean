import Textbase.Command.Reading
import Textbase.Proofs.Token.Scan

/-! How a command that starts with a name is taken in: only its end is trimmed, and the name is its
opening word. -/
namespace Textbase

namespace Text

theorem opensBlank_trimEnd {t : Text} (h : t.OpensBlank) : (trimEnd t).OpensBlank := by
  obtain ⟨u, hu, -⟩ := exists_append_trimEnd t
  intro c hc
  refine h c ?_
  rw [← hu, List.head?_append, Option.mem_def.1 hc]
  rfl

theorem trimStart_name {w : Text} (hw : w.IsName) (t : Text) : trimStart (w ++ t) = w ++ t := by
  obtain ⟨c, w, rfl⟩ := List.exists_cons_of_ne_nil hw.ne_nil
  have hc := isSpace_of_isNameChar (hw.isNameChar c (by simp))
  simp [trimStart_cons, hc]

/-- Of a text that starts with a name only the end is trimmed, after the name. -/
theorem trim_name {w : Text} (hw : w.IsName) (t : Text) : trim (w ++ t) = w ++ trimEnd t := by
  have hl : ∀ c ∈ w.getLast?, isSpace c = false := fun c hc =>
    isSpace_of_isNameChar (hw.isNameChar c (List.mem_of_mem_getLast? hc))
  rw [trim, trimStart_name hw, trimEnd_append hw.ne_nil hl]

theorem exists_append_trim_name {w : Text} (hw : w.IsName) (t : Text) :
    ∃ u, trim (w ++ t) ++ u = w ++ t ∧ ∀ c ∈ u, isSpace c = true := by
  obtain ⟨u, hu, hspaces⟩ := exists_append_trimEnd t
  refine ⟨u, ?_, hspaces⟩
  rw [trim_name hw, List.append_assoc, hu]

theorem trim_two_names {v w : Text} (hv : v.IsName) (hw : w.IsName) (t : Text) :
    trim (v ++ ' ' :: (w ++ t)) = v ++ ' ' :: (w ++ trimEnd t) := by
  have hl : ∀ c ∈ (' ' :: w).getLast?, isSpace c = false := by
    intro c hc
    rw [List.getLast?_cons_of_ne_nil hw.ne_nil] at hc
    exact isSpace_of_isNameChar (hw.isNameChar c (List.mem_of_mem_getLast? hc))
  rw [trim_name hv, ← List.cons_append, trimEnd_append (List.cons_ne_nil _ _) hl,
    List.cons_append]

theorem openingWord?_name {w t : Text} (hw : w.IsName) (ht : t.OpensBlank) :
    openingWord? (w ++ t) = some (lower w, t) := by
  have hn : t.takeWhile isNameChar = [] ∧ t.dropWhile isNameChar = t := by
    cases t with
    | nil => exact ⟨rfl, rfl⟩
    | cons c t =>
      have hc := isNameChar_of_isSpace (ht c rfl)
      simp [hc]
  simp only [openingWord?, trimStart_name hw, List.takeWhile_append_of_pos hw.isNameChar,
    List.dropWhile_append_of_pos hw.isNameChar, hn.1, hn.2, List.append_nil]
  rw [if_neg (by simp [hw.ne_nil])]

theorem openingWord?_space {c : Char} (hc : isSpace c = true) (t : Text) :
    openingWord? (c :: t) = openingWord? t := by
  rw [openingWord?, trimStart_cons, if_pos hc, openingWord?]

end Text

theorem Verb.of?_two_names {v w t : Text} (hv : v.IsName) (hw : w.IsName) (ht : t.OpensBlank) :
    Verb.of? (v ++ ' ' :: (w ++ t)) =
      if (Text.lower v == "make".toList || Text.lower v == "create".toList) &&
          Text.lower w == "table".toList then some create
      else if Text.lower v == "insert".toList && Text.lower w == "into".toList then some insert
      else if Text.lower v == "select".toList then some select
      else none := by
  have hs : Text.isSpace ' ' = true := by decide
  rw [Verb.of?, Text.openingWord?_name hv (Text.opensBlank_cons hs _)]
  simp only [Option.bind_eq_bind, Option.bind_some, Text.openingWord?_space hs,
    Text.openingWord?_name hw ht, Option.map_some, Option.some_beq_some]

end Textbase
