import Textbase.Error

/-! Partial operations. A part of a text can be cut out only between characters of it, an item of a
list taken only where there is one. A guarded computation ends at the first operation that is asked
for what there is not, and one that gives a value has met none. It goes by the name of the definition
that it is compared with. -/
namespace Textbase

inductive Breach
  | slice (t : Text) (start stop : Nat)
  | item (i length : Nat)
  | items (start stop length : Nat)
  | difference (m n : Nat)
  deriving DecidableEq, Repr

abbrev Guarded := Except Breach

namespace Guarded

variable {α β : Type}

/-- The bytes of a text from `start` up to `stop`. -/
def slice (t : Text) (start stop : Nat) : Guarded Text :=
  match t.slice? start stop with
  | some s => .ok s
  | none => .error (.slice t start stop)

def item (xs : List α) (i : Nat) : Guarded α :=
  match xs[i]? with
  | some x => .ok x
  | none => .error (.item i xs.length)

def items (xs : List α) (start stop : Nat) : Guarded (List α) :=
  if start ≤ stop ∧ stop ≤ xs.length then .ok ((xs.take stop).drop start)
  else .error (.items start stop xs.length)

def itemsFrom (xs : List α) (start : Nat) : Guarded (List α) := items xs start xs.length

def difference (m n : Nat) : Guarded Nat :=
  if n ≤ m then .ok (m - n) else .error (.difference m n)

/-- A part of a text can be cut out just when text stands before it and after it. -/
theorem slice_eq_ok_iff {t s : Text} {start stop : Nat} :
    slice t start stop = .ok s ↔ ∃ before after, before ++ s ++ after = t ∧
      Text.byteLength before = start ∧ Text.byteLength before + Text.byteLength s = stop := by
  rw [← Text.slice?_eq_some_iff, slice]
  cases t.slice? start stop <;> simp

/-- A character of two bytes cannot be cut in half. -/
example : slice "é".toList 0 1 = .error (.slice "é".toList 0 1) := rfl

theorem slice_eq_ok {t s : Text} {start stop : Nat} (h : t.slice? start stop = some s) :
    slice t start stop = .ok s := by
  rw [slice, h]

theorem item_eq_ok {xs : List α} {i : Nat} {x : α} (h : xs[i]? = some x) :
    item xs i = .ok x := by
  rw [item, h]

theorem item_append (xs ys : List α) (x : α) : item (xs ++ x :: ys) xs.length = .ok x :=
  item_eq_ok (by simp)

theorem items_append (xs ys zs : List α) :
    items (xs ++ ys ++ zs) xs.length (xs.length + ys.length) = .ok ys := by
  rw [items, if_pos (by simp), ← List.length_append, List.take_left, List.drop_left]

theorem itemsFrom_append (xs ys : List α) : itemsFrom (xs ++ ys) xs.length = .ok ys := by
  have h := items_append xs ys []
  rwa [List.append_nil, ← List.length_append] at h

theorem difference_eq_ok {m n : Nat} (h : n ≤ m) : difference m n = .ok (m - n) := if_pos h

theorem mapM_eq_ok {f : α → Guarded β} {g : α → β} {xs : List α} (h : ∀ x ∈ xs, f x = .ok (g x)) :
    xs.mapM f = .ok (xs.map g) := by
  induction xs with
  | nil => rfl
  | cons x xs ih =>
    obtain ⟨hx, hxs⟩ := List.forall_mem_cons.1 h
    rw [List.mapM_cons, hx, ih hxs]
    rfl

/-- No operation of the computation is asked for what there is not, and it comes to this, which may
be an error of the command. -/
def Gives (m : ExceptT Error Guarded α) (x : Except Error α) : Prop := m.run = .ok x

namespace Gives

theorem pure (a : α) : Gives (pure a) (.ok a) := rfl

theorem throw (e : Error) : Gives (throw e : ExceptT Error Guarded α) (.error e) := rfl

theorem lift_bind {g : Guarded α} {a : α} {k : α → ExceptT Error Guarded β} {x : Except Error β}
    (h : g = .ok a) (hk : Gives (k a) x) : Gives (liftM g >>= k) x := by
  rw [h]
  exact hk

theorem except (x : Except Error α) : Gives (liftExcept x) x := by
  cases x <;> rfl

theorem bind {m : ExceptT Error Guarded α} {x : Except Error α} {k : α → ExceptT Error Guarded β}
    {f : α → Except Error β} (hm : Gives m x) (hk : ∀ a, x = .ok a → Gives (k a) (f a)) :
    Gives (m >>= k) (x >>= f) := by
  unfold Gives at hm
  rw [Gives, ExceptT.run_bind, hm]
  cases x with
  | error e => rfl
  | ok a => exact hk a rfl

theorem map {m : ExceptT Error Guarded α} {x : Except Error α} (g : α → β) (hm : Gives m x) :
    Gives (g <$> m) (x.map g) := by
  unfold Gives at hm
  rw [Gives, ExceptT.run_map, hm]
  cases x <;> rfl

end Gives

end Guarded

end Textbase
