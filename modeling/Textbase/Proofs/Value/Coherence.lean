import Textbase.Filter.Basic

/-! Comparisons fit together. Each pair of values is compared as numbers or as text, yet being the
same value is an equivalence, the order agrees with it and turns round with its arguments, and among
values of one kind it is transitive. So of every cell and literal exactly one of less, equal and
greater holds, and the other three relations are the opposites of these. -/
namespace Textbase

namespace Text

theorem order_eq_compareLex : order = List.compareLex (compareOn Char.toNat) := by
  funext s t
  induction s generalizing t with
  | nil => cases t <;> rfl
  | cons a s ih =>
    cases t with
    | nil => rfl
    | cons b t => simp [order, ih, List.compareLex_cons_cons, compareOn]

instance : Std.TransCmp order := by
  rw [order_eq_compareLex]
  infer_instance

end Text

namespace Value

variable {a b c : Text} {x y : Double}

theorem numbers_or_text (a b : Text) :
    (∃ x y, number? a = some x ∧ number? b = some y) ∨ (number? a = none ∨ number? b = none) := by
  cases number? a <;> cases number? b <;> simp

theorem compare_of_numbers (hx : number? a = some x) (hy : number? b = some y) :
    Value.compare a b = compare x.key y.key := by
  simp only [Value.compare, hx, hy, Double.compare]

theorem compare_of_text (h : number? a = none ∨ number? b = none) :
    Value.compare a b = Text.order a b := by
  unfold Value.compare
  split
  · simp_all
  · rfl

theorem same_of_numbers (hx : number? a = some x) (hy : number? b = some y) :
    same a b = true ↔ x.key = y.key := by
  simp only [same, hx, hy, beq_iff_eq]

theorem same_of_text (h : number? a = none ∨ number? b = none) : same a b = true ↔ a = b := by
  unfold same
  split
  · simp_all
  · exact beq_iff_eq

theorem same_iff : same a b = true ↔
    a = b ∨ ∃ x y, number? a = some x ∧ number? b = some y ∧ x.key = y.key := by
  rcases numbers_or_text a b with ⟨x, y, hx, hy⟩ | h
  · rw [same_of_numbers hx hy]
    constructor
    · exact fun he => .inr ⟨x, y, hx, hy, he⟩
    · rintro (rfl | ⟨x', y', hx', hy', he⟩)
      · rw [Option.some.inj (hx.symm.trans hy)]
      · rwa [Option.some.inj (hx.symm.trans hx'), Option.some.inj (hy.symm.trans hy')]
  · rw [same_of_text h]
    refine ⟨.inl, ?_⟩
    rintro (he | ⟨x, y, hx, hy, -⟩)
    · exact he
    · simp [hx, hy] at h

theorem same_self (v : Text) : same v v = true := same_iff.2 (.inl rfl)

theorem same_symm (h : same a b = true) : same b a = true := by
  rcases same_iff.1 h with rfl | ⟨x, y, hx, hy, he⟩
  · exact same_self a
  · exact same_iff.2 (.inr ⟨y, x, hy, hx, he.symm⟩)

theorem same_trans (hab : same a b = true) (hbc : same b c = true) : same a c = true := by
  rcases same_iff.1 hab with rfl | ⟨x, y, hx, hy, hxy⟩
  · exact hbc
  · rcases same_iff.1 hbc with rfl | ⟨y', z, hy', hz, hyz⟩
    · exact hab
    · cases hy.symm.trans hy'
      exact same_iff.2 (.inr ⟨x, z, hx, hz, hxy.trans hyz⟩)

theorem compare_eq_iff : Value.compare a b = .eq ↔ same a b = true := by
  rcases numbers_or_text a b with ⟨x, y, hx, hy⟩ | h
  · rw [compare_of_numbers hx hy, same_of_numbers hx hy, Int.compare_eq_eq]
  · rw [compare_of_text h, same_of_text h, Text.order_eq_iff]

theorem compare_swap (a b : Text) : (Value.compare a b).swap = Value.compare b a := by
  rcases numbers_or_text a b with ⟨x, y, hx, hy⟩ | h
  · rw [compare_of_numbers hx hy, compare_of_numbers hy hx]
    exact (Std.OrientedOrd.eq_swap (a := y.key)).symm
  · rw [compare_of_text h, compare_of_text h.symm, Text.order_swap]

theorem compare_lt_iff : Value.compare a b = .lt ↔ Value.compare b a = .gt := by
  rw [← compare_swap b a, Ordering.swap_eq_lt]

def OfOneKind (vs : List Text) : Prop :=
  (∀ v ∈ vs, ∃ x, number? v = some x) ∨ ∀ v ∈ vs, number? v = none

theorem compare_isLE_trans (h : OfOneKind [a, b, c]) (hab : (Value.compare a b).isLE = true)
    (hbc : (Value.compare b c).isLE = true) : (Value.compare a c).isLE = true := by
  simp only [OfOneKind, List.forall_mem_cons] at h
  rcases h with ⟨⟨x, hx⟩, ⟨y, hy⟩, ⟨z, hz⟩, -⟩ | ⟨ha, hb, -⟩
  · rw [compare_of_numbers hx hy] at hab
    rw [compare_of_numbers hy hz] at hbc
    rw [compare_of_numbers hx hz]
    exact Std.TransOrd.isLE_trans hab hbc
  · rw [compare_of_text (.inl ha)] at hab ⊢
    rw [compare_of_text (.inl hb)] at hbc
    exact Std.TransCmp.isLE_trans hab hbc

example : Value.compare "10".toList "1a".toList = .lt ∧ Value.compare "1a".toList "9".toList = .lt ∧
    Value.compare "10".toList "9".toList = .gt := by
  decide +kernel

end Value

/-- What the six relations say of one cell and one literal fits together. -/
structure Relation.Coherent (holds : Relation → Bool) : Prop where
  exactly_one : [Relation.lt, .eq, .gt].countP holds = 1
  ne : holds .ne = !holds .eq
  ge : holds .ge = !holds .lt
  le : holds .le = !holds .gt

theorem Relation.coherent_holds (cell literal : Text) :
    Coherent fun r => r.holds cell literal := by
  have hsame : Value.same cell literal = (Value.compare cell literal == .eq) := by
    rw [Bool.eq_iff_iff, ← Value.compare_eq_iff, beq_iff_eq]
  constructor
  · simp only [List.countP_cons, List.countP_nil, Relation.holds, hsame]
    cases Value.compare cell literal <;> rfl
  · rfl
  · rfl
  · rfl

theorem Comparison.holds_of_find? {c : Comparison} {schema : Schema} {i : Nat}
    (h : schema.find? c.column = some i) (row : Row) :
    c.holds schema row = c.relation.holds (Schema.cell row i) c.literal := by
  simp only [holds, h]

theorem Comparison.holds_of_find?_eq_none {c : Comparison} {schema : Schema}
    (h : schema.find? c.column = none) (row : Row) : c.holds schema row = false := by
  simp only [holds, h]

/-- Being the same value is an equivalence. The order of two values says so when they are the same,
it turns round with them, and it is transitive on values of one kind. So the comparisons of a column
with a literal are coherent in every row, a short one too, if the table has the column; if not, none
of them holds. -/
theorem Value.compare_coherent :
    (Equivalence fun a b => same a b = true) ∧
    (∀ a b, (Value.compare a b = .eq ↔ same a b = true) ∧
      (Value.compare a b = .lt ↔ Value.compare b a = .gt)) ∧
    (∀ a b c, OfOneKind [a, b, c] → Value.compare a b ≠ .gt → Value.compare b c ≠ .gt →
      Value.compare a c ≠ .gt) ∧
    ∀ (schema : Schema) (row : Row) (column literal : Text),
      let holds := fun r => (Filter.compare ⟨column, r, literal⟩).holds schema row
      ((schema.find? column).isSome = true → Relation.Coherent holds) ∧
      (schema.find? column = none → ∀ r, holds r = false) := by
  refine ⟨⟨same_self, same_symm, same_trans⟩, fun a b => ⟨compare_eq_iff, compare_lt_iff⟩, ?_, ?_⟩
  · intro a b c h hab hbc
    rw [Ne, ← Ordering.isLE_iff_ne_gt] at hab hbc ⊢
    exact compare_isLE_trans h hab hbc
  · intro schema row column literal holds
    constructor
    · intro h
      obtain ⟨i, hi⟩ := Option.isSome_iff_exists.1 h
      have hcell : holds = fun r => r.holds (Schema.cell row i) literal := by
        funext r
        exact Comparison.holds_of_find? (c := ⟨column, r, literal⟩) hi row
      rw [hcell]
      exact Relation.coherent_holds _ _
    · intro h r
      exact Comparison.holds_of_find?_eq_none (c := ⟨column, r, literal⟩) h row

/-- A zero with a sign, a zero without one and a number beyond the range of doubles, and a row that
is too short for its column. -/
theorem Value.compare_coherent_extreme :
    let a := "-0".toList
    let b := " 0.0".toList
    let c := "1e999".toList
    let schema : Schema := ⟨[['a'], "N n".toList]⟩
    OfOneKind [a, b, c] ∧ Value.compare a b ≠ .gt ∧ Value.compare b c ≠ .gt ∧
      Value.compare a c ≠ .gt ∧ (schema.find? "n N".toList).isSome = true ∧
      Relation.Coherent fun r => (Filter.compare ⟨"n N".toList, r, a⟩).holds schema [[]] := by
  intro a b c schema
  have ha : number? a = some ⟨true, 0⟩ := by decide +kernel
  have hb : number? b = some ⟨false, 0⟩ := by decide +kernel
  have hc : number? c = some ⟨false, Double.infinite⟩ := by decide +kernel
  have hkind : OfOneKind [a, b, c] := .inl <| List.forall_mem_cons.2 ⟨⟨_, ha⟩,
    List.forall_mem_cons.2 ⟨⟨_, hb⟩, List.forall_mem_cons.2 ⟨⟨_, hc⟩, by simp⟩⟩⟩
  have hab : Value.compare a b ≠ .gt := by decide +kernel
  have hbc : Value.compare b c ≠ .gt := by decide +kernel
  have hfound : (schema.find? "n N".toList).isSome = true := by decide +kernel
  obtain ⟨-, -, htrans, hcolumn⟩ := compare_coherent
  exact ⟨hkind, hab, hbc, htrans a b c hkind hab hbc, hfound, (hcolumn schema [[]] _ a).1 hfound⟩

end Textbase
