/-! Text as a list of characters, with the measures and cuts that source spans need. An offset
counts the bytes of the UTF-8 encoding, and a cut that would split a character is refused. -/
namespace Textbase

/-- Commands, cells, lines and files all have this type. -/
abbrev Text := List Char

namespace Text

def byteLength : Text → Nat
  | [] => 0
  | c :: t => c.utf8Size + byteLength t

@[simp] theorem byteLength_nil : byteLength [] = 0 := rfl
@[simp] theorem byteLength_cons (c : Char) (t : Text) :
    byteLength (c :: t) = c.utf8Size + byteLength t := rfl
@[simp] theorem byteLength_append (s t : Text) :
    byteLength (s ++ t) = byteLength s + byteLength t := by
  induction s with
  | nil => simp
  | cons c s ih => simp [ih, Nat.add_assoc]

/-- Whether the text has at most `n` bytes; no more characters are looked at than that takes. -/
def fitsBytes : Nat → Text → Bool
  | _, [] => true
  | n, c :: t => c.utf8Size ≤ n && fitsBytes (n - c.utf8Size) t

theorem fitsBytes_iff {n : Nat} {t : Text} : fitsBytes n t = true ↔ byteLength t ≤ n := by
  induction t generalizing n with
  | nil => simp [fitsBytes]
  | cons c t ih =>
    simp only [fitsBytes, Bool.and_eq_true, decide_eq_true_eq, ih, byteLength_cons]
    omega

def dropBytes? : Nat → Text → Option Text
  | 0, t => some t
  | _ + 1, [] => none
  | n + 1, c :: t => if c.utf8Size ≤ n + 1 then dropBytes? (n + 1 - c.utf8Size) t else none

def takeBytes? : Nat → Text → Option Text
  | 0, _ => some []
  | _ + 1, [] => none
  | n + 1, c :: t =>
    if c.utf8Size ≤ n + 1 then (takeBytes? (n + 1 - c.utf8Size) t).map (c :: ·) else none

@[simp] theorem dropBytes?_byteLength (s t : Text) :
    dropBytes? (byteLength s) (s ++ t) = some t := by
  induction s with
  | nil => simp [dropBytes?]
  | cons c s ih =>
    obtain ⟨n, hn⟩ : ∃ n, c.utf8Size + byteLength s = n + 1 :=
      ⟨c.utf8Size + byteLength s - 1, by have := c.utf8Size_pos; omega⟩
    have hs : n + 1 - c.utf8Size = byteLength s := by omega
    simp [hn, dropBytes?, hs, ih, show c.utf8Size ≤ n + 1 by omega]

@[simp] theorem takeBytes?_byteLength (s t : Text) :
    takeBytes? (byteLength s) (s ++ t) = some s := by
  induction s with
  | nil => simp [takeBytes?]
  | cons c s ih =>
    obtain ⟨n, hn⟩ : ∃ n, c.utf8Size + byteLength s = n + 1 :=
      ⟨c.utf8Size + byteLength s - 1, by have := c.utf8Size_pos; omega⟩
    have hs : n + 1 - c.utf8Size = byteLength s := by omega
    simp [hn, takeBytes?, hs, ih, show c.utf8Size ≤ n + 1 by omega]

/-- The bytes from `start` up to `stop`; refused unless both are in order, inside the text and
between characters. -/
def slice? (t : Text) (start stop : Nat) : Option Text :=
  if start ≤ stop then (dropBytes? start t).bind (takeBytes? (stop - start)) else none

theorem slice?_append (a b c : Text) :
    slice? (a ++ b ++ c) (byteLength a) (byteLength a + byteLength b) = some b := by
  simp [slice?]

theorem dropBytes?_eq_some {t u : Text} {n : Nat} (h : dropBytes? n t = some u) :
    ∃ before, before ++ u = t ∧ byteLength before = n := by
  fun_induction dropBytes? n t with
  | case1 t =>
    cases h
    exact ⟨[], rfl, rfl⟩
  | case2 n => cases h
  | case3 n c t hc ih =>
    obtain ⟨before, rfl, hb⟩ := ih h
    exact ⟨c :: before, rfl, by rw [byteLength_cons, hb]; omega⟩
  | case4 n c t hc => cases h

theorem takeBytes?_eq_some {t s : Text} {n : Nat} (h : takeBytes? n t = some s) :
    ∃ after, s ++ after = t ∧ byteLength s = n := by
  fun_induction takeBytes? n t generalizing s with
  | case1 t =>
    cases h
    exact ⟨t, rfl, rfl⟩
  | case2 n => cases h
  | case3 n c t hc ih =>
    obtain ⟨s, hs, rfl⟩ := Option.map_eq_some_iff.1 h
    obtain ⟨after, rfl, hb⟩ := ih hs
    exact ⟨after, rfl, by rw [byteLength_cons, hb]; omega⟩
  | case4 n c t hc => cases h

theorem slice?_eq_some_iff {t s : Text} {start stop : Nat} :
    slice? t start stop = some s ↔ ∃ before after, before ++ s ++ after = t ∧
      byteLength before = start ∧ byteLength before + byteLength s = stop := by
  constructor
  · intro h
    simp only [slice?, Option.ite_none_right_eq_some, Option.bind_eq_some_iff] at h
    obtain ⟨hle, u, hu, hs⟩ := h
    obtain ⟨before, rfl, rfl⟩ := dropBytes?_eq_some hu
    obtain ⟨after, rfl, hs⟩ := takeBytes?_eq_some hs
    exact ⟨before, after, List.append_assoc _ _ _, rfl, by omega⟩
  · rintro ⟨before, after, rfl, rfl, rfl⟩
    exact slice?_append before s after

theorem byteLength_eq_zero_iff {t : Text} : byteLength t = 0 ↔ t = [] := by
  cases t with
  | nil => simp
  | cons c t =>
    have := c.utf8Size_pos
    simp only [byteLength_cons, reduceCtorEq, iff_false]
    omega

theorem prefix_of_byteLength_le {s u v : Text} (hu : u <+: s) (hv : v <+: s)
    (h : byteLength u ≤ byteLength v) : u <+: v := by
  rcases List.prefix_or_prefix_of_prefix hu hv with huv | ⟨m, rfl⟩
  · exact huv
  · have hm : byteLength m = 0 := by
      rw [byteLength_append] at h
      omega
    simp [byteLength_eq_zero_iff.1 hm]

theorem slice?_shift {s u v : Text} (hu : u <+: s) (hv : v <+: s) (before after : Text) :
    slice? (before ++ s ++ after) (byteLength before + byteLength u)
      (byteLength before + byteLength v) = slice? s (byteLength u) (byteLength v) := by
  by_cases h : byteLength u ≤ byteLength v
  · obtain ⟨m, rfl⟩ := prefix_of_byteLength_le hu hv h
    obtain ⟨c, rfl⟩ := hv
    have hl := slice?_append (before ++ u) m (c ++ after)
    have hr := slice?_append u m c
    simp only [byteLength_append, List.append_assoc, Nat.add_assoc] at hl hr ⊢
    rw [hl, hr]
  · have h' : ¬byteLength before + byteLength u ≤ byteLength before + byteLength v := by omega
    rw [slice?, slice?, if_neg h, if_neg h']

def foldAscii (t : Text) : Text := t.map Char.toLower

@[simp] theorem foldAscii_nil : foldAscii [] = [] := rfl

def sameFolded (s t : Text) : Bool := foldAscii s == foldAscii t

@[simp] theorem sameFolded_refl (t : Text) : sameFolded t t = true := by simp [sameFolded]
theorem sameFolded_iff {s t : Text} : sameFolded s t = true ↔ foldAscii s = foldAscii t := by
  simp [sameFolded]

/-- Order by code point, which is also the order of the UTF-8 bytes. -/
def order : Text → Text → Ordering
  | [], [] => .eq
  | [], _ :: _ => .lt
  | _ :: _, [] => .gt
  | a :: s, b :: t => (compare a.toNat b.toNat).then (order s t)

theorem order_eq_iff {s t : Text} : order s t = .eq ↔ s = t := by
  induction s generalizing t with
  | nil => cases t <;> simp [order]
  | cons a s ih =>
    cases t with
    | nil => simp [order]
    | cons b t => simp [order, Ordering.then_eq_eq, ih, Char.toNat_inj]

theorem order_swap (s t : Text) : (order s t).swap = order t s := by
  induction s generalizing t with
  | nil => cases t <;> rfl
  | cons a s ih =>
    cases t with
    | nil => rfl
    | cons b t => simp [order, Ordering.swap_then, ih, Nat.compare_swap]

def joinWith (gap : Text) (pieces : List Text) : Text := gap.intercalate pieces

@[simp] theorem joinWith_nil (gap : Text) : joinWith gap [] = [] := rfl
@[simp] theorem joinWith_singleton (gap p : Text) : joinWith gap [p] = p := by
  simp [joinWith, List.intercalate]
@[simp] theorem joinWith_cons_cons (gap p q : Text) (ps : List Text) :
    joinWith gap (p :: q :: ps) = p ++ gap ++ joinWith gap (q :: ps) := by
  simp [joinWith, List.intercalate]

def ofNat (n : Nat) : Text := Nat.toDigits 10 n

end Text

end Textbase
