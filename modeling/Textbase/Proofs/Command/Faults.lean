import Textbase.Proofs.Command.Reading

/-! What a command that cannot be read is blamed for. A reader that stops finds fault with a command
of its own verb, wherever it stops, so a text with a verb is never taken for one without. -/
namespace Textbase

inductive Error.Blames (v : Verb) : Error → Prop
  | form (f : Fault) : Blames v (malformed v f)
  | filter (h : v = .select) (f : FilterFault) : Blames v (malformedFilter f)

theorem Error.kind_eq_malformed_iff {e : Error} :
    e.kind = "malformed_command".toList ↔ ∃ v, e.Blames v := by
  constructor
  · intro h
    cases e with
    | malformed v f => exact ⟨v, .form f⟩
    | malformedFilter f => exact ⟨.select, .filter rfl f⟩
    | unrecognized _ =>
      have hk : "unrecognized_command".toList ≠ "malformed_command".toList := by decide +kernel
      exact absurd h hk
    | tableNotFound _ =>
      have hk : "table_not_found".toList ≠ "malformed_command".toList := by decide +kernel
      exact absurd h hk
    | arityMismatch _ _ _ =>
      have hk : "arity_mismatch".toList ≠ "malformed_command".toList := by decide +kernel
      exact absurd h hk
  · rintro ⟨v, f | ⟨_, f⟩⟩ <;> rfl

namespace Command

variable {α β : Type} {v : Verb}

def BlamesOnly (v : Verb) (x : Except Error α) : Prop := ∀ e, x = .error e → e.Blames v

theorem blamesOnly_ok (a : α) : BlamesOnly v (.ok a : Except Error α) := nofun

theorem blamesOnly_error {e : Error} (h : e.Blames v) :
    BlamesOnly v (.error e : Except Error α) := by
  rintro _ ⟨⟩
  exact h

theorem BlamesOnly.bind {x : Except Error α} {k : α → Except Error β} (hx : BlamesOnly v x)
    (hk : ∀ a, BlamesOnly v (k a)) : BlamesOnly v (x >>= k) := by
  intro e he
  cases x with
  | error e' =>
    cases he
    exact hx e rfl
  | ok a => exact hk a e he

theorem blamesOnly_scan (v : Verb) (t : Text) : BlamesOnly v (scan v t) := by
  unfold scan
  split
  · exact blamesOnly_error (.form _)
  · exact blamesOnly_ok _

theorem blamesOnly_tableName (v : Verb) (t : Token) : BlamesOnly v (tableName v t) := by
  unfold tableName
  split
  · exact blamesOnly_ok _
  · exact blamesOnly_error (.form _)

theorem blamesOnly_readList (v : Verb) (second fourth source : Text) (ts : List Token) :
    BlamesOnly v (readList v second fourth source ts) := by
  have husage : BlamesOnly v (.error (.malformed v .usage) : Except Error (Text × List Text)) :=
    blamesOnly_error (.form .usage)
  unfold readList
  split
  · split
    · refine (blamesOnly_tableName v _).bind fun table => ?_
      split
      · exact blamesOnly_ok _
      · exact husage
    · exact husage
  · exact husage

theorem blamesOnly_ofTokens (source : Text) (ts : List Token) :
    BlamesOnly .select (Filter.ofTokens source ts) := by
  unfold Filter.ofTokens
  split
  · exact blamesOnly_error (.filter rfl .missing)
  · exact blamesOnly_ok _

theorem blamesOnly_readCreate (source : Text) : BlamesOnly .create (readCreate source) := by
  refine (blamesOnly_scan .create source).bind fun ts => ?_
  refine (blamesOnly_readList .create _ _ source ts).bind fun (table, columns) => ?_
  dsimp only
  split
  · exact blamesOnly_error (.form .emptyField)
  · exact blamesOnly_ok _

theorem blamesOnly_readInsert (source : Text) : BlamesOnly .insert (readInsert source) := by
  refine (blamesOnly_scan .insert source).bind fun ts => ?_
  exact (blamesOnly_readList .insert _ _ source ts).bind fun _ => blamesOnly_ok _

theorem blamesOnly_readSelect (source : Text) : BlamesOnly .select (readSelect source) := by
  have husage : BlamesOnly .select (.error (.malformed .select .usage) : Except Error Command) :=
    blamesOnly_error (.form .usage)
  refine (blamesOnly_scan .select source).bind fun ts => ?_
  split
  · split
    · refine (blamesOnly_tableName .select _).bind fun table => ?_
      split
      · exact blamesOnly_ok _
      · split
        · exact (blamesOnly_ofTokens source _).bind fun _ => blamesOnly_ok _
        · exact husage
    · exact husage
  · exact husage

theorem parse_of_no_verb {t : Text} (h : Verb.of? (Text.trim t) = none) :
    parse t = .error (.unrecognized ((Text.trim t).take 50)) := by
  rw [parse, h]
  rfl

theorem blamesOnly_parse {t : Text} (h : Verb.of? (Text.trim t) = some v) :
    BlamesOnly v (parse t) := by
  rw [parse, h]
  cases v with
  | create => exact blamesOnly_readCreate _
  | insert => exact blamesOnly_readInsert _
  | select => exact blamesOnly_readSelect _

/-- A text that is no command lacks a verb, or its form is at fault. -/
theorem parse_eq_error {t : Text} {e : Error} (h : parse t = .error e) :
    (Verb.of? (Text.trim t) = none ∧ e = .unrecognized ((Text.trim t).take 50)) ∨
      ∃ v, Verb.of? (Text.trim t) = some v ∧ e.Blames v := by
  cases hv : Verb.of? (Text.trim t) with
  | none =>
    rw [parse_of_no_verb hv] at h
    cases h
    exact .inl ⟨rfl, rfl⟩
  | some v => exact .inr ⟨v, rfl, blamesOnly_parse hv e h⟩

end Command

end Textbase
