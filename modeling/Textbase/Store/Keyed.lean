import Textbase.Text.Basic

/-! Values under names, in the order in which the names were first used. A name has one value. -/
namespace Textbase

structure Keyed (α : Type) where
  entries : List (Text × α)
  distinct : (entries.map (·.1)).Nodup
  deriving DecidableEq, Repr

namespace Keyed

variable {α : Type}

def empty : Keyed α := ⟨[], .nil⟩

def names (k : Keyed α) : List Text := k.entries.map (·.1)

def get? (k : Keyed α) (name : Text) : Option α := k.entries.lookup name

def contains (k : Keyed α) (name : Text) : Bool := (k.get? name).isSome

def putEntry (name : Text) (a : α) : List (Text × α) → List (Text × α)
  | [] => [(name, a)]
  | (n, b) :: es => if n = name then (n, a) :: es else (n, b) :: putEntry name a es

theorem map_fst_putEntry (name : Text) (a : α) (es : List (Text × α)) :
    (putEntry name a es).map (·.1) =
      if name ∈ es.map (·.1) then es.map (·.1) else es.map (·.1) ++ [name] := by
  induction es with
  | nil => simp [putEntry]
  | cons e es ih =>
    obtain ⟨n, b⟩ := e
    by_cases hn : n = name
    · simp [putEntry, hn]
    · have hn' : name ≠ n := fun h => hn h.symm
      simp only [putEntry, hn, if_false, List.map_cons, ih, List.mem_cons, hn', false_or]
      split <;> simp

theorem nodup_putEntry {es : List (Text × α)} (h : (es.map (·.1)).Nodup) (name : Text) (a : α) :
    ((putEntry name a es).map (·.1)).Nodup := by
  rw [map_fst_putEntry]
  split
  · exact h
  · rename_i hn
    exact List.nodup_append.2 ⟨h, by simp, by rintro x hx y hy rfl; simp_all⟩

/-- The value under a name, replaced in its place or added at the end. -/
def put (k : Keyed α) (name : Text) (a : α) : Keyed α :=
  ⟨putEntry name a k.entries, nodup_putEntry k.distinct name a⟩

@[simp] theorem names_empty : (empty : Keyed α).names = [] := rfl
@[simp] theorem get?_empty (name : Text) : (empty : Keyed α).get? name = none := rfl

theorem lookup_cons_eq (name other : Text) (a : α) (es : List (Text × α)) :
    List.lookup other ((name, a) :: es) = if other = name then some a else es.lookup other := by
  by_cases h : other = name
  · simp [h]
  · have hb : (other == name) = false := by simpa using h
    simp [List.lookup_cons, hb, h]

theorem lookup_putEntry (name other : Text) (a : α) (es : List (Text × α)) :
    (putEntry name a es).lookup other = if other = name then some a else es.lookup other := by
  induction es with
  | nil => simp [putEntry, lookup_cons_eq]
  | cons e es ih =>
    obtain ⟨n, b⟩ := e
    by_cases hn : n = name
    · subst hn
      simp only [putEntry, if_true, lookup_cons_eq]
      split <;> rfl
    · simp only [putEntry, hn, if_false, lookup_cons_eq, ih]
      grind

@[simp] theorem get?_put (k : Keyed α) (name other : Text) (a : α) :
    (k.put name a).get? other = if other = name then some a else k.get? other :=
  lookup_putEntry name other a k.entries

@[simp] theorem names_put (k : Keyed α) (name : Text) (a : α) :
    (k.put name a).names = if name ∈ k.names then k.names else k.names ++ [name] :=
  map_fst_putEntry name a k.entries

theorem mem_names_put {k : Keyed α} {name other : Text} {a : α} :
    other ∈ (k.put name a).names ↔ other = name ∨ other ∈ k.names := by
  rw [names_put]
  split
  · rename_i h
    exact ⟨.inr, fun ho => ho.elim (fun he => he ▸ h) id⟩
  · rw [List.mem_append, List.mem_singleton, or_comm]

theorem isSome_lookup_iff (name : Text) (es : List (Text × α)) :
    (es.lookup name).isSome = true ↔ name ∈ es.map (·.1) := by
  induction es with
  | nil => simp
  | cons e es ih =>
    obtain ⟨n, b⟩ := e
    by_cases h : name = n
    · simp [h]
    · simp [lookup_cons_eq, h, ih]

theorem isSome_get?_iff {k : Keyed α} {name : Text} :
    (k.get? name).isSome = true ↔ name ∈ k.names :=
  isSome_lookup_iff name k.entries

theorem contains_iff {k : Keyed α} {name : Text} : k.contains name = true ↔ name ∈ k.names :=
  isSome_lookup_iff name k.entries

end Keyed

end Textbase
