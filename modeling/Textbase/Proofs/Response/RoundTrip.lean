import Textbase.Proofs.Json.Written
import Textbase.Response
import Mathlib.Data.List.Nodup

/-! Responses read back from their text: every field comes back, whether it is present or not. The
text has the fields that are present, each once and in a fixed order. -/
namespace Textbase

theorem Json.get?_object_present {fs : List (Text × Option Json)} (hd : (fs.map (·.1)).Nodup)
    (name : Text) :
    (object (fs.filterMap fun (n, x) => x.map (n, ·))).get? name = (fs.lookup name).join := by
  rw [get?]
  induction fs with
  | nil => rfl
  | cons f fs ih =>
    obtain ⟨n, x⟩ := f
    obtain ⟨hn, hfs⟩ := List.nodup_cons.1 hd
    have hlater := ih hfs
    have habsent : fs.lookup n = none := by
      rw [List.lookup_eq_none_iff]
      intro f hf
      exact bne_iff_ne.2 fun he => hn (List.mem_map.2 ⟨f, hf, he.symm⟩)
    cases x with
    | none =>
      by_cases he : name = n
      · subst he
        simpa [habsent] using hlater
      · simpa [List.lookup_cons, beq_false_of_ne he] using hlater
    | some x =>
      by_cases he : name = n
      · subst he
        simp [List.lookup_append, hlater, habsent]
      · simp [List.lookup_append, List.lookup_cons, hlater, beq_false_of_ne he]

theorem Json.repeats_eq_false {fs : List (Text × Json)} (h : (fs.map (·.1)).Nodup) (name : Text) :
    (object fs).repeats name = false := by
  have hcount : fs.countP (fun f => f.1 == name) = (fs.map (·.1)).count name := by
    rw [List.count, List.countP_map]
    rfl
  have hle := List.nodup_iff_count_le_one.1 h name
  rw [← hcount] at hle
  simpa [repeats] using hle

theorem Json.mem_present_iff {fs : List (Text × Option Json)} {name : Text} {x : Json} :
    (name, x) ∈ fs.filterMap (fun (n, x) => x.map (n, ·)) ↔ (name, some x) ∈ fs := by
  simp only [List.mem_filterMap, Option.map_eq_some_iff, Prod.mk.injEq, Prod.exists]
  constructor
  · rintro ⟨n, y, hf, z, rfl, rfl, rfl⟩
    exact hf
  · intro hf
    exact ⟨name, some x, hf, x, rfl, rfl, rfl⟩

theorem Json.map_fst_present_sublist (fs : List (Text × Option Json)) :
    List.Sublist ((fs.filterMap fun (n, x) => x.map (n, ·)).map (·.1)) (fs.map (·.1)) := by
  induction fs with
  | nil => exact .slnil
  | cons f fs ih =>
    obtain ⟨n, x⟩ := f
    cases x with
    | none => exact .cons n ih
    | some x => exact .cons_cons n ih

namespace Response

theorem optional_some {α : Type} (read : Json → Option α) {x : Json} (hx : x ≠ .null) :
    optional read (some x) = (read x).map some := by
  cases x <;> first | rfl | exact absurd rfl hx

theorem optional_text (t : Option Text) : optional Json.text? (t.map .string) = some t := by
  cases t <;> rfl

theorem count?_ofNat (n : UInt64) : count? (.ofNat n.toNat) = some n := by
  have hall : (Text.ofNat n.toNat).all Char.isDigit = true :=
    List.all_eq_true.2 fun c hc => Text.isDigit_of_mem_ofNat hc
  have hnatural : (Json.ofNat n.toNat).natural? = some n.toNat := by
    simp [Json.ofNat, Json.natural?, hall, Decimal.natOfDigits_ofNat]
  simp [count?, hnatural, n.toNat_lt_size, Option.filter]

theorem optional_count (n : Option UInt64) :
    optional count? (n.map fun n => .ofNat n.toNat) = some n := by
  cases n with
  | none => rfl
  | some n => rw [Option.map_some, optional_some count? (by simp [Json.ofNat]), count?_ofNat]; rfl

def fields (r : Response) : List (Text × Option Json) :=
  [("type".toList, r.kind.map .string), ("table".toList, r.table.map .string),
    ("message".toList, r.message.map .string), ("output".toList, r.output.map .string),
    ("row_count".toList, r.rowCount.map fun n => .ofNat n.toNat),
    ("error".toList, r.error.map .string)]

theorem toJson_eq (r : Response) :
    r.toJson = .object (r.fields.filterMap fun (n, x) => x.map (n, ·)) := rfl

theorem allNatural_toJson (r : Response) : r.toJson.AllNatural := by
  have hvalue : ∀ f ∈ r.fields, ∀ x, f.2 = some x → x.AllNatural := by
    simp only [fields, List.forall_mem_cons, Option.map_eq_some_iff]
    refine ⟨?_, ?_, ?_, ?_, ?_, ?_, by simp⟩ <;> rintro x ⟨y, -, rfl⟩
    case refine_5 => exact ⟨y.toNat, rfl⟩
    all_goals trivial
  rw [toJson_eq, Json.AllNatural, Json.fieldsNatural_iff]
  intro f hf
  obtain ⟨⟨n, x⟩, hx, he⟩ := List.mem_filterMap.1 hf
  obtain ⟨y, hy, rfl⟩ := Option.map_eq_some_iff.1 he
  exact hvalue _ hx y hy

theorem ofJson?_toJson (r : Response) : ofJson? r.toJson = some r := by
  have hd : (r.fields.map (·.1)).Nodup := by
    have hnames : r.fields.map (·.1) = fieldNames := rfl
    rw [hnames]
    decide
  have hany : (fieldNames.any fun name =>
      (Json.object (r.fields.filterMap fun (n, x) => x.map (n, ·))).repeats name) = false := by
    refine List.any_eq_false.2 fun name _ => ?_
    rw [Json.repeats_eq_false ((Json.map_fst_present_sublist r.fields).nodup hd)]
    decide
  have hkind : (r.fields.lookup "type".toList).join = r.kind.map .string := rfl
  have htable : (r.fields.lookup "table".toList).join = r.table.map .string := rfl
  have hmessage : (r.fields.lookup "message".toList).join = r.message.map .string := rfl
  have houtput : (r.fields.lookup "output".toList).join = r.output.map .string := rfl
  have hcount : (r.fields.lookup "row_count".toList).join =
      r.rowCount.map fun n => .ofNat n.toNat := rfl
  have herror : (r.fields.lookup "error".toList).join = r.error.map .string := rfl
  rw [toJson_eq, ofJson?]
  simp only [hany, Bool.false_eq_true, if_false, ofFields?, Json.get?_object_present hd, hkind, htable, hmessage, houtput, hcount,
    herror, optional_text, optional_count, Option.bind_eq_bind, Option.bind_some]

theorem read?_write (r : Response) : read? r.write = some r := by
  rw [read?, write, Json.read?_write r.allNatural_toJson, Option.bind_some, ofJson?_toJson]

/-- What the response has to tell under the name of a field. -/
inductive Has (r : Response) : Text → Json → Prop
  | kind {t : Text} (h : r.kind = some t) : Has r "type".toList (.string t)
  | table {t : Text} (h : r.table = some t) : Has r "table".toList (.string t)
  | message {t : Text} (h : r.message = some t) : Has r "message".toList (.string t)
  | output {t : Text} (h : r.output = some t) : Has r "output".toList (.string t)
  | rowCount {n : UInt64} (h : r.rowCount = some n) : Has r "row_count".toList (.ofNat n.toNat)
  | error {t : Text} (h : r.error = some t) : Has r "error".toList (.string t)

theorem mem_fields_iff {r : Response} {name : Text} {x : Json} :
    (name, some x) ∈ r.fields ↔ r.Has name x := by
  constructor
  · intro hf
    simp only [fields, List.mem_cons, Prod.mk.injEq, eq_comm (a := some x), Option.map_eq_some_iff,
      List.not_mem_nil, or_false] at hf
    rcases hf with ⟨rfl, t, h, rfl⟩ | ⟨rfl, t, h, rfl⟩ | ⟨rfl, t, h, rfl⟩ | ⟨rfl, t, h, rfl⟩ |
      ⟨rfl, n, h, rfl⟩ | ⟨rfl, t, h, rfl⟩
    · exact .kind h
    · exact .table h
    · exact .message h
    · exact .output h
    · exact .rowCount h
    · exact .error h
  · rintro (h | h | h | h | h | h) <;> simp [fields, h]

/-- The text of a response is read back as the response. It is an object of just those fields that
the response has, in the order of their names, and no control character stands in it. -/
theorem write_has_fields (r : Response) :
    read? r.write = some r ∧
    (∃ fs : List (Text × Json),
      r.write = '{' :: Text.joinWith [','] (fs.map fun f => Json.quote f.1 ++ ':' :: f.2.write) ++
        ['}'] ∧
      Json.read? r.write = some (.object fs) ∧
      List.Sublist (fs.map (·.1)) fieldNames ∧
      ∀ name x, (name, x) ∈ fs ↔ r.Has name x) ∧
    r.write.NoControls := by
  have hnatural := r.allNatural_toJson
  refine ⟨r.read?_write, ⟨r.fields.filterMap fun (n, x) => x.map (n, ·), ?_, ?_, ?_, ?_⟩,
    Json.noControls_write _ hnatural⟩
  · rw [← Json.writeFields_eq_joinWith]
    rfl
  · rw [write, Json.read?_write hnatural, toJson_eq]
  · exact Json.map_fst_present_sublist r.fields
  · exact fun name x => Json.mem_present_iff.trans mem_fields_iff

end Response

end Textbase
