import Textbase.Proofs.Json.RoundTrip

/-! What the text of a JSON value looks like: fields stand between commas, and whatever the strings
contain, the text itself has no control characters. -/
namespace Textbase

def Text.NoControls (t : Text) : Prop := ∀ c ∈ t, 0x20 ≤ c.toNat

namespace Text

theorem noControls_nil : NoControls [] := by simp [NoControls]

theorem noControls_of_all {t : Text} (h : t.all (0x20 ≤ ·.toNat) = true) : t.NoControls := by
  simpa [NoControls] using h

theorem noControls_cons {c : Char} {t : Text} (hc : 0x20 ≤ c.toNat) (ht : t.NoControls) :
    NoControls (c :: t) :=
  List.forall_mem_cons.2 ⟨hc, ht⟩

theorem NoControls.append {s t : Text} (hs : s.NoControls) (ht : t.NoControls) :
    (s ++ t).NoControls :=
  List.forall_mem_append.2 ⟨hs, ht⟩

theorem noControls_ofNat (n : Nat) : NoControls (ofNat n) := by
  intro c hc
  have hd := isDigit_of_mem_ofNat hc
  rw [Char.isDigit, Bool.and_eq_true, decide_eq_true_eq, decide_eq_true_eq] at hd
  exact Nat.le_trans (by decide) (UInt32.le_iff_toNat_le.1 hd.1)

end Text

namespace Json

open Text

theorem noControls_escape (c : Char) : NoControls (escape c) := by
  by_cases hshort : c ∈ ['"', '\\', '\x08', '\x0c', '\n', '\r', '\t']
  · simp only [List.mem_cons, List.not_mem_nil, or_false] at hshort
    rcases hshort with rfl | rfl | rfl | rfl | rfl | rfl | rfl <;>
      exact noControls_of_all (by decide)
  · simp only [List.mem_cons, List.not_mem_nil, or_false, not_or] at hshort
    obtain ⟨hquote, hslash, hb, hf, hn, hr, ht⟩ := hshort
    have hdigit : ∀ n < 16, 0x20 ≤ (hexDigit n).toNat := by decide
    by_cases hcontrol : c.toNat < 0x20
    · have hescape : escape c =
          "\\u00".toList ++ [hexDigit (c.toNat / 16), hexDigit (c.toNat % 16)] := by
        simp [escape, hquote, hslash, hb, hf, hn, hr, ht, hcontrol]
      have hlead : NoControls "\\u00".toList := noControls_of_all (by decide)
      rw [hescape]
      exact hlead.append (noControls_cons (hdigit _ (by omega))
        (noControls_cons (hdigit _ (by omega)) noControls_nil))
    · have hescape : escape c = [c] := by
        simp [escape, hquote, hslash, hb, hf, hn, hr, ht, hcontrol]
      rw [hescape]
      exact noControls_cons (Nat.le_of_not_lt hcontrol) noControls_nil

theorem noControls_quote (s : Text) : NoControls (quote s) := by
  have hbody : NoControls (s.flatMap escape) := by
    intro c hc
    obtain ⟨d, -, hd⟩ := List.mem_flatMap.1 hc
    exact noControls_escape d c hd
  exact noControls_cons (by decide) (hbody.append (noControls_cons (by decide) noControls_nil))

mutual

theorem noControls_write (x : Json) (hx : x.AllNatural) : NoControls x.write := by
  match x with
  | null => exact noControls_of_all (by decide)
  | bool b => cases b <;> exact noControls_of_all (by decide)
  | number literal =>
    obtain ⟨n, rfl⟩ := hx
    exact noControls_ofNat n
  | string s => exact noControls_quote s
  | array xs =>
    exact noControls_cons (by decide) ((noControls_writeItems xs hx).append
      (noControls_cons (by decide) noControls_nil))
  | object fs =>
    exact noControls_cons (by decide) ((noControls_writeFields fs hx).append
      (noControls_cons (by decide) noControls_nil))

theorem noControls_writeItems (xs : List Json) (hxs : ItemsNatural xs) :
    NoControls (writeItems xs) := by
  match xs with
  | [] => exact noControls_nil
  | [x] => exact noControls_write x hxs.1
  | x :: y :: xs =>
    exact (noControls_write x hxs.1).append
      (noControls_cons (by decide) (noControls_writeItems (y :: xs) hxs.2))

theorem noControls_writeFields (fs : List (Text × Json)) (hfs : FieldsNatural fs) :
    NoControls (writeFields fs) := by
  match fs with
  | [] => exact noControls_nil
  | [(k, x)] =>
    exact (noControls_quote k).append (noControls_cons (by decide) (noControls_write x hfs.1))
  | (k, x) :: f :: fs =>
    exact ((noControls_quote k).append (noControls_cons (by decide)
      (noControls_write x hfs.1))).append
        (noControls_cons (by decide) (noControls_writeFields (f :: fs) hfs.2))

end

theorem writeFields_eq_joinWith (fs : List (Text × Json)) :
    writeFields fs = joinWith [','] (fs.map fun f => quote f.1 ++ ':' :: f.2.write) := by
  match fs with
  | [] => rfl
  | [(k, x)] => simp [writeFields]
  | (k, x) :: f :: fs =>
    have hlater := writeFields_eq_joinWith (f :: fs)
    rw [List.map_cons] at hlater
    simp [writeFields, hlater]

end Json

end Textbase
