import Textbase.Text.Basic
import Textbase.Text.Ranges

/-! The characters with the Unicode property `White_Space`, and trimming. -/
namespace Textbase.Text

def whitespace : Ranges :=
  [(0x0009, 0x000D), (0x0020, 0x0020), (0x0085, 0x0085), (0x00A0, 0x00A0), (0x1680, 0x1680),
   (0x2000, 0x200A), (0x2028, 0x2029), (0x202F, 0x202F), (0x205F, 0x205F), (0x3000, 0x3000)]

def isSpace (c : Char) : Bool := whitespace.has c.toNat

def trimStart (t : Text) : Text := t.dropWhile isSpace

def trimEnd (t : Text) : Text := (t.reverse.dropWhile isSpace).reverse

def trim (t : Text) : Text := trimEnd (trimStart t)

@[simp] theorem trimStart_nil : trimStart [] = [] := rfl
@[simp] theorem trimEnd_nil : trimEnd [] = [] := rfl
@[simp] theorem trim_nil : trim [] = [] := rfl

theorem trimStart_cons (c : Char) (t : Text) :
    trimStart (c :: t) = if isSpace c then trimStart t else c :: t := by
  simp only [trimStart, List.dropWhile_cons]

theorem trimEnd_append_singleton (t : Text) (c : Char) :
    trimEnd (t ++ [c]) = if isSpace c then trimEnd t else t ++ [c] := by
  by_cases h : isSpace c <;> simp [trimEnd, h]

theorem trimEnd_append {s : Text} (hs : s ≠ []) (h : ∀ c ∈ s.getLast?, isSpace c = false)
    (t : Text) : trimEnd (s ++ t) = s ++ trimEnd t := by
  have hr : s.reverse.dropWhile isSpace = s.reverse := by
    obtain ⟨s, c, rfl⟩ := List.eq_nil_or_concat s |>.resolve_left hs
    have hc : isSpace c = false := h c (by simp)
    simp [hc]
  rw [trimEnd, List.reverse_append, List.dropWhile_append]
  split
  · rename_i he
    simp [trimEnd, List.isEmpty_iff.1 he, hr]
  · simp [trimEnd]

theorem exists_append_trimEnd (t : Text) :
    ∃ u, trimEnd t ++ u = t ∧ ∀ c ∈ u, isSpace c = true := by
  refine ⟨(t.reverse.takeWhile isSpace).reverse, ?_, ?_⟩
  · rw [trimEnd, ← List.reverse_append, List.takeWhile_append_dropWhile, List.reverse_reverse]
  · intro c hc
    exact List.all_eq_true.1 List.all_takeWhile c (List.mem_reverse.1 hc)

theorem head_trimStart (t : Text) : ∀ c ∈ (trimStart t).head?, isSpace c = false := by
  intro c hc
  have h := List.head?_dropWhile_not isSpace t
  rw [trimStart] at hc
  rwa [Option.mem_def.1 hc] at h

structure Trimmed (t : Text) : Prop where
  head : ∀ c ∈ t.head?, isSpace c = false
  last : ∀ c ∈ t.getLast?, isSpace c = false

instance (t : Text) : Decidable (Trimmed t) :=
  decidable_of_iff (t.head?.all (!isSpace ·) = true ∧ t.getLast?.all (!isSpace ·) = true) <| by
    simp only [Option.all_eq_true, Bool.not_eq_true']
    exact ⟨fun h => ⟨h.1, h.2⟩, fun h => ⟨h.head, h.last⟩⟩

theorem Trimmed.trim_eq {t : Text} (h : t.Trimmed) : trim t = t := by
  have hs : trimStart t = t := by
    cases t with
    | nil => rfl
    | cons c t => rw [trimStart_cons, if_neg (by simp [h.head c rfl])]
  rw [trim, hs]
  by_cases ht : t = []
  · rw [ht, trimEnd_nil]
  · have he := trimEnd_append ht h.last []
    rwa [trimEnd_nil, List.append_nil] at he

theorem trimmed_trim (t : Text) : Trimmed (trim t) where
  head := by
    intro c hc
    obtain ⟨u, hu, -⟩ := exists_append_trimEnd (trimStart t)
    refine head_trimStart t c ?_
    rw [← hu, List.head?_append, show (trimEnd (trimStart t)).head? = some c from hc]
    rfl
  last := by
    intro c hc
    rw [trim, trimEnd, List.getLast?_reverse] at hc
    exact head_trimStart _ c hc

end Textbase.Text
