import Textbase.Proofs.Token.Case
import Mathlib.Data.List.Forall2

/-! Texts in which some letters change their case, and only inside chosen tokens. The tokens stay
where they are, those that are not chosen stay as they are, and so does the text that a run of them
covers. -/
namespace Textbase

namespace Text

/-- The second text is the first one with letters in the other case at offsets where this is
allowed. -/
inductive Recased (allowed : Nat → Prop) : Nat → Text → Text → Prop
  | nil {pos : Nat} : Recased allowed pos [] []
  | cons {pos : Nat} {c d : Char} {t u : Text} (hletter : c.toLower = d.toLower)
      (hplace : c ≠ d → allowed pos) (h : Recased allowed (pos + c.utf8Size) t u) :
      Recased allowed pos (c :: t) (d :: u)

variable {allowed : Nat → Prop} {pos : Nat} {t u : Text}

theorem recased_cons_iff {c d : Char} : Recased allowed pos (c :: t) (d :: u) ↔
    c.toLower = d.toLower ∧ (c ≠ d → allowed pos) ∧ Recased allowed (pos + c.utf8Size) t u :=
  ⟨fun | .cons hletter hplace h => ⟨hletter, hplace, h⟩, fun h => .cons h.1 h.2.1 h.2.2⟩

instance decidableRecased (allowed : Nat → Prop) [DecidablePred allowed] :
    ∀ pos t u, Decidable (Recased allowed pos t u)
  | _, [], [] => isTrue .nil
  | _, [], _ :: _ => isFalse nofun
  | _, _ :: _, [] => isFalse nofun
  | pos, c :: t, _ :: u =>
    have := decidableRecased allowed (pos + c.utf8Size) t u
    decidable_of_iff _ recased_cons_iff.symm

namespace Recased

theorem foldAscii_eq (h : Recased allowed pos t u) : foldAscii t = foldAscii u := by
  induction h with
  | nil => rfl
  | cons hletter _ _ ih => rw [foldAscii_cons, foldAscii_cons, hletter, ih]

theorem byteLength_eq (h : Recased allowed pos t u) : byteLength t = byteLength u := by
  rw [← byteLength_foldAscii, h.foldAscii_eq, byteLength_foldAscii]

theorem of_append {a b : Text} (h : Recased allowed pos (a ++ b) u) :
    ∃ a' b', a' ++ b' = u ∧ Recased allowed pos a a' ∧
      Recased allowed (pos + byteLength a) b b' := by
  induction a generalizing pos u with
  | nil => exact ⟨[], u, rfl, .nil, h⟩
  | cons c a ih =>
    cases h with
    | cons hletter hplace h =>
      obtain ⟨a', b', rfl, ha, hb⟩ := ih h
      exact ⟨_, b', rfl, .cons hletter hplace ha, by rwa [byteLength_cons, ← Nat.add_assoc]⟩

theorem eq_of_not_allowed (h : Recased allowed pos t u)
    (hno : ∀ o, pos ≤ o → o < pos + byteLength t → ¬allowed o) : t = u := by
  induction h with
  | nil => rfl
  | @cons pos c d t u hletter hplace h ih =>
    have hc := c.utf8Size_pos
    rw [byteLength_cons] at hno
    have heq : c = d :=
      Decidable.byContradiction fun hne => hno pos le_rfl (by omega) (hplace hne)
    rw [heq, ih fun o ho hlt => hno o (by omega) (by omega)]

theorem slice?_eq_some {start stop : Nat} {s : Text} (h : Recased allowed 0 t u)
    (hno : ∀ o, start ≤ o → o < stop → ¬allowed o) (hs : slice? t start stop = some s) :
    slice? u start stop = some s := by
  obtain ⟨before, after, rfl, rfl, rfl⟩ := slice?_eq_some_iff.1 hs
  rw [List.append_assoc] at h
  obtain ⟨before', rest, rfl, hbefore, hrest⟩ := h.of_append
  obtain ⟨s', after', rfl, hs', -⟩ := hrest.of_append
  rw [Nat.zero_add] at hs'
  obtain rfl := hs'.eq_of_not_allowed hno
  rw [hbefore.byteLength_eq, ← List.append_assoc]
  exact slice?_append before' s after'

end Recased

end Text

namespace Token

instance (x : Token) (offset : Nat) : Decidable (x.Spans offset) :=
  inferInstanceAs (Decidable (_ ∧ _))

def Within (ks : List Token) (offset : Nat) : Prop := ∃ x ∈ ks, x.Spans offset

instance (ks : List Token) : DecidablePred (Within ks) := fun offset =>
  inferInstanceAs (Decidable (∃ x ∈ ks, x.Spans offset))

/-- The tokens differ at most in the case of letters, and only if the first is among `ks`. -/
structure Agrees (ks : List Token) (x y : Token) : Prop where
  fold_eq : x.fold = y.fold
  eq_of_not_mem : x ∉ ks → x = y

variable {t u : Text} {ts us ks run : List Token}

theorem Agrees.isWord_eq {x y : Token} (h : Agrees ks x y) (k : Text) :
    x.isWord k = y.isWord k := by
  rw [← isWord_fold, h.fold_eq, isWord_fold]

theorem Agrees.eq_of_forall₂ (h : List.Forall₂ (Agrees ks) ts us) (hout : ∀ x ∈ ts, x ∉ ks) :
    ts = us := by
  induction h with
  | nil => rfl
  | cons hx _ ih =>
    obtain ⟨hhead, htail⟩ := List.forall_mem_cons.1 hout
    rw [hx.eq_of_not_mem hhead, ih htail]

theorem nodup_of_scan (h : scan t = .ok ts) : ts.Nodup := by
  have hstart := (accountsFor_of_scan h).start_lt_stop
  refine (pairwise_of_scanFrom h).2.imp_of_mem fun {x y} hx _ hle heq => ?_
  have hlt := hstart x hx
  rw [heq] at hle hlt
  omega

/-- Between the ends of a run no other token has a place. -/
theorem not_within_of_run (h : scan t = .ok ts) (hks : ks ⊆ ts) (hrun : run <:+: ts)
    (hout : ∀ x ∈ run, x ∉ ks) {a b : Token} (ha : run.head? = some a)
    (hb : run.getLast? = some b) {offset : Nat} (hstart : a.start ≤ offset)
    (hstop : offset < b.stop) : ¬Within ks offset := by
  rintro ⟨k, hk, hfrom, hto⟩
  obtain ⟨front, back, rfl⟩ := hrun
  have hordered := (pairwise_of_scanFrom h).2
  rw [List.append_assoc, List.pairwise_append, List.pairwise_append] at hordered
  obtain ⟨-, ⟨-, -, hback⟩, hfront⟩ := hordered
  have hk' := hks hk
  rw [List.append_assoc, List.mem_append, List.mem_append] at hk'
  rcases hk' with hm | hm | hm
  · have hle := hfront k hm a (List.mem_append_left _ (List.mem_of_mem_head? ha))
    omega
  · exact hout k hm hk
  · have hle := hback b (List.mem_of_getLast? hb) k hm
    omega

theorem sourceText_recased (h : scan t = .ok ts) (hks : ks ⊆ ts)
    (hu : Text.Recased (Within ks) 0 t u) (hrun : run <:+: ts) (hout : ∀ x ∈ run, x ∉ ks) :
    sourceText u run = sourceText t run := by
  obtain ⟨s, hs, -⟩ := exists_covers h hrun.sublist
  rw [hs.sourceText_eq]
  refine Covers.sourceText_eq ?_
  unfold Covers at hs ⊢
  split at hs
  · rename_i a b ha hb
    exact hu.slice?_eq_some (fun _ => not_within_of_run h hks hrun hout ha hb) hs
  · exact hs

/-- The tokens are found again, and those that are not chosen as they were. -/
theorem exists_scan_of_recased (h : scan t = .ok ts) (hks : ks ⊆ ts)
    (hu : Text.Recased (Within ks) 0 t u) :
    ∃ us, scan u = .ok us ∧ List.Forall₂ (Agrees ks) ts us := by
  obtain ⟨us, hus, hfold⟩ := exists_scan_of_foldAscii_eq h hu.foldAscii_eq
  have hpairs : List.Forall₂ (fun x y => x.fold = y.fold) ts us := by
    rwa [← List.forall₂_eq_eq_eq, List.forall₂_map_left_iff, List.forall₂_map_right_iff] at hfold
  rw [List.forall₂_iff_zip] at hpairs
  refine ⟨us, hus, List.forall₂_iff_zip.2 ⟨hpairs.1, fun {x y} hxy => ⟨hpairs.2 hxy, ?_⟩⟩⟩
  intro hout
  obtain ⟨hx, hy⟩ := List.of_mem_zip hxy
  have heq := hpairs.2 hxy
  obtain ⟨hlexeme, hstart⟩ := Token.mk.inj heq
  have hstop : x.stop = y.stop := by rw [← stop_fold, heq, stop_fold]
  have hone : [x] <:+: ts := by
    obtain ⟨front, back, rfl⟩ := List.append_of_mem hx
    exact ⟨front, back, by simp⟩
  have hx' : Text.slice? u x.start x.stop = some x.lexeme.source := hu.slice?_eq_some
    (fun _ => not_within_of_run h hks hone (by simpa using hout) rfl rfl)
    (slice?_of_liesIn (liesIn_of_scan h x hx))
  have hy' := slice?_of_liesIn (liesIn_of_scan hus y hy)
  rw [← hstart, ← hstop, hx', Option.some.injEq] at hy'
  rw [show x = ⟨x.lexeme, x.start⟩ from rfl, Lexeme.eq_of_fold_eq hlexeme hy', hstart]

end Token

end Textbase
