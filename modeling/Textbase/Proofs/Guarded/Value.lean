import Textbase.Proofs.Guarded.Access
import Mathlib.Data.List.Basic

/-! Marks around a value are looked for among its bytes. No byte of a longer character is the byte
of a mark, so a value is cut only between characters. -/
namespace Textbase

namespace Text

def bytes (t : Text) : List UInt8 := t.flatMap String.utf8EncodeChar

@[simp] theorem bytes_nil : bytes [] = [] := rfl
@[simp] theorem bytes_cons (c : Char) (t : Text) :
    bytes (c :: t) = String.utf8EncodeChar c ++ bytes t := rfl
@[simp] theorem bytes_append (s t : Text) : bytes (s ++ t) = bytes s ++ bytes t :=
  List.flatMap_append

@[simp] theorem length_bytes (t : Text) : t.bytes.length = byteLength t := by
  induction t with
  | nil => rfl
  | cons c t ih => rw [bytes_cons, List.length_append, ih, String.length_utf8EncodeChar, byteLength]

/-- A byte of the ASCII range stands for the character of its number and belongs to no other. -/
theorem toNat_of_mem_utf8EncodeChar {c : Char} {b : UInt8} (h : b ∈ String.utf8EncodeChar c)
    (hb : b.toNat < 128) : c.toNat = b.toNat := by
  have hc : c.val.toNat = c.toNat := rfl
  simp only [String.utf8EncodeChar, hc] at h
  (repeat' split at h) <;> simp only [List.mem_cons, List.not_mem_nil, or_false] at h
  · subst h
    rw [UInt8.toNat_ofNat']
    omega
  all_goals
    exfalso
    rcases h with rfl | rfl | rfl | rfl <;> rw [UInt8.toNat_ofNat'] at hb <;> omega

end Text

namespace Value

theorem isQuote_iff {c : Char} : isQuote c = true ↔ c.toNat = 34 ∨ c.toNat = 39 := by
  simp [isQuote, ← Char.toNat_inj]

def isQuoteByte (b : UInt8) : Bool := b == 34 || b == 39

theorem isQuoteByte_iff {b : UInt8} : isQuoteByte b = true ↔ b.toNat = 34 ∨ b.toNat = 39 := by
  simp [isQuoteByte, ← UInt8.toNat_inj]

theorem utf8EncodeChar_of_isQuote {c : Char} (h : isQuote c = true) :
    ∃ b, String.utf8EncodeChar c = [b] ∧ b.toNat = c.toNat := by
  obtain rfl | rfl : c = '"' ∨ c = '\'' := by simpa [isQuote] using h
  · exact ⟨34, rfl, rfl⟩
  · exact ⟨39, rfl, rfl⟩

theorem utf8Size_of_isQuote {c : Char} (h : isQuote c = true) : c.utf8Size = 1 := by
  obtain ⟨b, hb, -⟩ := utf8EncodeChar_of_isQuote h
  rw [← String.length_utf8EncodeChar, hb, List.length_singleton]

theorem isQuoteByte_of_mem {c : Char} {b : UInt8} (h : b ∈ String.utf8EncodeChar c) :
    isQuoteByte b = isQuote c := by
  rw [Bool.eq_iff_iff, isQuoteByte_iff, isQuote_iff]
  constructor
  · intro hb
    rw [Text.toNat_of_mem_utf8EncodeChar h (by omega)]
    exact hb
  · intro hc
    obtain ⟨b', he, hb'⟩ := utf8EncodeChar_of_isQuote (isQuote_iff.2 hc)
    rw [he, List.mem_singleton] at h
    rw [h, hb']
    exact hc

/-- The first byte of one character and the last byte of another are one mark just when the
characters are. -/
theorem isQuoteByte_and_eq {c d : Char} {b e : UInt8} (hb : b ∈ String.utf8EncodeChar c)
    (he : e ∈ String.utf8EncodeChar d) : (isQuoteByte b && b == e) = (isQuote c && d == c) := by
  rw [isQuoteByte_of_mem hb]
  cases hq : isQuote c with
  | false => rfl
  | true =>
    obtain ⟨b', hc, hb'⟩ := utf8EncodeChar_of_isQuote hq
    rw [hc, List.mem_singleton] at hb
    subst hb
    rw [Bool.true_and, Bool.true_and, Bool.eq_iff_iff, beq_iff_eq, beq_iff_eq]
    constructor
    · rintro rfl
      have hlt : b.toNat < 128 := by
        rcases isQuote_iff.1 hq with h | h <;> omega
      rw [← Char.toNat_inj, Text.toNat_of_mem_utf8EncodeChar he hlt, hb']
    · rintro rfl
      rw [hc, List.mem_singleton] at he
      exact he.symm

end Value

namespace Guarded

/-- As `Value.unquote`, by the first byte and the last. -/
def unquote (t : Text) : Guarded Text :=
  if 2 ≤ t.bytes.length then do
    let first ← item t.bytes 0
    let i ← difference t.bytes.length 1
    let last ← item t.bytes i
    if Value.isQuoteByte first && first == last then do
      let stop ← difference (Text.byteLength t) 1
      slice t 1 stop
    else pure t
  else pure t

theorem exists_first_byte (c : Char) (t : Text) :
    ∃ b ∈ String.utf8EncodeChar c, item (Text.bytes (c :: t)) 0 = .ok b := by
  obtain ⟨b, bs, hb⟩ := List.exists_cons_of_ne_nil (String.utf8EncodeChar_ne_nil (c := c))
  refine ⟨b, by simp [hb], item_eq_ok ?_⟩
  simp [hb]

theorem exists_last_byte (t : Text) (d : Char) :
    ∃ e ∈ String.utf8EncodeChar d,
      item (Text.bytes (t ++ [d])) ((Text.bytes (t ++ [d])).length - 1) = .ok e := by
  refine ⟨_, List.getLast_mem (String.utf8EncodeChar_ne_nil (c := d)), item_eq_ok ?_⟩
  rw [← List.getLast?_eq_getElem?, Text.bytes_append, Text.bytes_cons, Text.bytes_nil,
    List.append_nil, List.getLast?_append_of_ne_nil _ String.utf8EncodeChar_ne_nil,
    List.getLast?_eq_some_getLast]

theorem unquote_ends {c d : Char} {t u : Text} (h : c :: t = u ++ [d])
    (hlen : 2 ≤ Text.byteLength (c :: t)) :
    unquote (c :: t) =
      if Value.isQuote c && d == c then slice (c :: t) 1 (Text.byteLength (c :: t) - 1)
      else .ok (c :: t) := by
  obtain ⟨b, hb, hfirst⟩ := exists_first_byte c t
  obtain ⟨e, he, hlast⟩ := exists_last_byte u d
  rw [← h, Text.length_bytes] at hlast
  have hstop := difference_eq_ok (n := 1) (Nat.le_of_lt hlen)
  rw [unquote, Text.length_bytes, if_pos hlen, hfirst, hstop, ← Value.isQuoteByte_and_eq hb he]
  simp only [bind, Except.bind, hlast]
  rfl

theorem unquote_eq (t : Text) : unquote t = .ok (Value.unquote t) := by
  obtain - | ⟨c, t⟩ := t
  · rfl
  obtain rfl | ⟨m, d, rfl⟩ := List.eq_nil_or_concat' t
  · -- A mark by itself is too short to be cut.
    by_cases hlen : 2 ≤ Text.byteLength [c]
    · rw [unquote_ends (List.nil_append [c]).symm hlen, if_neg]
      · simp [Value.unquote]
      · intro hq
        simp [Value.utf8Size_of_isQuote (Bool.and_eq_true_iff.1 hq).1] at hlen
    · rw [unquote, Text.length_bytes, if_neg hlen]
      simp [Value.unquote, pure, Except.pure]
  · have hlen : 2 ≤ Text.byteLength (c :: (m ++ [d])) := by
      have := c.utf8Size_pos
      have := d.utf8Size_pos
      simp only [Text.byteLength_cons, Text.byteLength_append]
      omega
    have ht : c :: (m ++ [d]) = c :: m ++ [d] := rfl
    rw [unquote_ends ht hlen, Value.unquote, List.getLast?_concat,
      Option.some_beq_some]
    split
    · rename_i hq
      obtain ⟨hc, hd⟩ := Bool.and_eq_true_iff.1 hq
      have hs := Text.slice?_append [c] m [d]
      rw [beq_iff_eq.1 hd] at hs ⊢
      rw [List.dropLast_concat]
      refine slice_eq_ok ?_
      simpa [Value.utf8Size_of_isQuote hc, Nat.add_comm] using hs
    · rfl

end Guarded

end Textbase
