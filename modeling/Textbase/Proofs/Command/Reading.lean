import Textbase.Command.Reading

/-! What a text that was read as a command consists of. The table of every command is a name, and
the columns of a new table are neither missing nor empty nor surrounded by whitespace. -/
namespace Textbase

theorem bind_eq_ok {ε α β : Type} {x : Except ε α} {f : α → Except ε β} {b : β} :
    (x >>= f) = .ok b ↔ ∃ a, x = .ok a ∧ f a = .ok b := by
  cases x <;> simp [bind, Except.bind]

namespace Token

theorem name?_eq_some_iff {t : Token} {n : Text} :
    t.name? = some n ↔ t.lexeme = .word n ∧ n.IsName := by
  unfold name?
  cases t.lexeme with
  | word w =>
    simp only [Option.ite_none_right_eq_some, Option.some.injEq, Bool.and_eq_true,
      Bool.not_eq_true', List.isEmpty_eq_false_iff, List.all_eq_true, Lexeme.word.injEq]
    constructor
    · rintro ⟨⟨hn, hc⟩, rfl⟩
      exact ⟨rfl, hn, hc⟩
    · rintro ⟨rfl, hn, hc⟩
      exact ⟨⟨hn, hc⟩, rfl⟩
  | quoted q b => simp
  | comma => simp
  | star => simp
  | relation r => simp

theorem items_ne_nil (source : Text) (ts : List Token) : items source ts ≠ [] := by
  simp [items]

theorem trimmed_of_mem_items {source c : Text} {ts : List Token} (h : c ∈ items source ts) :
    c.Trimmed := by
  obtain ⟨item, -, rfl⟩ := List.mem_map.1 h
  exact Text.trimmed_trim _

end Token

namespace Command

theorem scan_eq_ok_iff {verb : Verb} {t : Text} {ts : List Token} :
    scan verb t = .ok ts ↔ Token.scan t = .ok ts := by
  unfold scan
  cases Token.scan t <;> simp

theorem tableName_eq_ok_iff {verb : Verb} {t : Token} {table : Text} :
    tableName verb t = .ok table ↔ t.lexeme = .word table ∧ table.IsName := by
  rw [← Token.name?_eq_some_iff]
  unfold tableName
  cases t.name? <;> simp

theorem readList_eq_ok_iff {verb : Verb} {second fourth source : Text} {ts : List Token}
    {table : Text} {list : List Text} :
    readList verb second fourth source ts = .ok (table, list) ↔
      ∃ v joint name opener t rest, ts = v :: joint :: name :: opener :: t :: rest ∧
        joint.isWord second = true ∧ (name.lexeme = .word table ∧ table.IsName) ∧
        opener.isWord fourth = true ∧ Token.items source (t :: rest) = list := by
  constructor
  · intro h
    unfold readList at h
    split at h
    · rename_i v joint name opener t rest
      split at h
      · rename_i hj
        obtain ⟨n, hn, h⟩ := bind_eq_ok.1 h
        split at h
        · rename_i ho
          cases h
          exact ⟨v, joint, name, opener, t, rest, rfl, hj, tableName_eq_ok_iff.1 hn, ho, rfl⟩
        · cases h
      · cases h
    · cases h
  · rintro ⟨v, joint, name, opener, t, rest, rfl, hj, hn, ho, rfl⟩
    simp [readList, hj, tableName_eq_ok_iff.2 hn, ho, bind, Except.bind]

theorem readCreate_eq_ok_iff {source : Text} {c : Command} :
    readCreate source = .ok c ↔
      ∃ ts table columns, Token.scan source = .ok ts ∧
        readList .create "table".toList "fields".toList source ts = .ok (table, columns) ∧
        [] ∉ columns ∧ create table columns = c := by
  simp only [readCreate, bind_eq_ok, scan_eq_ok_iff, Prod.exists]
  refine exists_congr fun ts => ?_
  simp only [← exists_and_left]
  refine exists_congr fun table => exists_congr fun columns => ?_
  by_cases he : columns.any List.isEmpty = true <;> grind

theorem readInsert_eq_ok_iff {source : Text} {c : Command} :
    readInsert source = .ok c ↔
      ∃ ts table list, Token.scan source = .ok ts ∧
        readList .insert "into".toList "values".toList source ts = .ok (table, list) ∧
        insert table (list.map Value.unquote) = c := by
  simp [readInsert, bind_eq_ok, scan_eq_ok_iff]

theorem readCreate_of_scan {source : Text} {ts : List Token} (hs : Token.scan source = .ok ts) :
    readCreate source =
      (readList .create "table".toList "fields".toList source ts).bind fun (table, columns) =>
        if [] ∈ columns then .error (.malformed .create .emptyField)
        else .ok (create table columns) := by
  have hempty : ∀ columns : List Text, columns.any List.isEmpty = true ↔ [] ∈ columns := by
    simp
  rw [readCreate, scan_eq_ok_iff.2 hs]
  simp only [bind, Except.bind, hempty]

theorem readInsert_of_scan {source : Text} {ts : List Token} (hs : Token.scan source = .ok ts) :
    readInsert source =
      (readList .insert "into".toList "values".toList source ts).map fun (table, values) =>
        insert table (values.map Value.unquote) := by
  rw [readInsert, scan_eq_ok_iff.2 hs]
  simp only [bind, Except.bind]
  cases readList .insert "into".toList "values".toList source ts <;> rfl

theorem readSelect_of_scan {source table : Text} {v star joint name w : Token}
    {condition : List Token}
    (hs : Token.scan source = .ok (v :: star :: joint :: name :: w :: condition))
    (hstar : star.lexeme = .star) (hj : joint.isWord "from".toList = true)
    (hn : name.lexeme = .word table ∧ table.IsName) (hw : w.isWord "where".toList = true) :
    readSelect source = (Filter.ofTokens source condition).map fun f => select table (some f) := by
  rw [readSelect, scan_eq_ok_iff.2 hs]
  simp only [bind, Except.bind, hstar, hj, hw, tableName_eq_ok_iff.2 hn, beq_self_eq_true,
    Bool.and_self, if_true]
  cases Filter.ofTokens source condition <;> rfl

theorem readSelect_eq_ok_iff {source : Text} {c : Command} :
    readSelect source = .ok c ↔
      ∃ v star joint name rest table, Token.scan source = .ok (v :: star :: joint :: name :: rest) ∧
        star.lexeme = .star ∧ joint.isWord "from".toList = true ∧
        (name.lexeme = .word table ∧ table.IsName) ∧
        ((rest = [] ∧ select table none = c) ∨
          ∃ w condition f, rest = w :: condition ∧ w.isWord "where".toList = true ∧
            Filter.ofTokens source condition = .ok f ∧ select table (some f) = c) := by
  constructor
  · intro h
    obtain ⟨ts, hs, h⟩ := bind_eq_ok.1 h
    split at h
    · rename_i v star joint name rest
      split at h
      · rename_i hk
        rw [Bool.and_eq_true, beq_iff_eq] at hk
        obtain ⟨table, hn, h⟩ := bind_eq_ok.1 h
        refine ⟨v, star, joint, name, rest, table, scan_eq_ok_iff.1 hs, hk.1, hk.2,
          tableName_eq_ok_iff.1 hn, ?_⟩
        cases rest with
        | nil =>
          cases h
          exact .inl ⟨rfl, rfl⟩
        | cons w condition =>
          dsimp only at h
          split at h
          · rename_i hw
            obtain ⟨f, hf, h⟩ := bind_eq_ok.1 h
            cases h
            exact .inr ⟨w, condition, f, rfl, hw, hf, rfl⟩
          · cases h
      · cases h
    · cases h
  · rintro ⟨v, star, joint, name, rest, table, hs, hv, hj, hn, h⟩
    rcases h with ⟨rfl, rfl⟩ | ⟨w, condition, f, rfl, hw, hf, rfl⟩
    · rw [readSelect, scan_eq_ok_iff.2 hs]
      simp only [bind, Except.bind, hv, hj, tableName_eq_ok_iff.2 hn, beq_self_eq_true,
        Bool.and_self, if_true]
    · rw [readSelect_of_scan hs hv hj hn hw, hf]
      rfl

def WellFormed : Command → Prop
  | create table columns => table.IsName ∧ columns ≠ [] ∧ ∀ c ∈ columns, c ≠ [] ∧ c.Trimmed
  | insert table values => table.IsName ∧ values ≠ []
  | select table _ => table.IsName

theorem wellFormed_of_readCreate {source : Text} {c : Command} (h : readCreate source = .ok c) :
    c.WellFormed := by
  obtain ⟨ts, table, columns, -, hl, he, rfl⟩ := readCreate_eq_ok_iff.1 h
  obtain ⟨v, joint, name, opener, t, rest, -, -, hn, -, rfl⟩ := readList_eq_ok_iff.1 hl
  refine ⟨hn.2, Token.items_ne_nil source _, fun c hc => ⟨?_, Token.trimmed_of_mem_items hc⟩⟩
  rintro rfl
  exact he hc

theorem wellFormed_of_readInsert {source : Text} {c : Command} (h : readInsert source = .ok c) :
    c.WellFormed := by
  obtain ⟨ts, table, list, -, hl, rfl⟩ := readInsert_eq_ok_iff.1 h
  obtain ⟨v, joint, name, opener, t, rest, -, -, hn, -, rfl⟩ := readList_eq_ok_iff.1 hl
  exact ⟨hn.2, by simp [Token.items_ne_nil]⟩

theorem wellFormed_of_readSelect {source : Text} {c : Command} (h : readSelect source = .ok c) :
    c.WellFormed := by
  obtain ⟨v, star, joint, name, rest, table, -, -, -, hn, hc⟩ := readSelect_eq_ok_iff.1 h
  rcases hc with ⟨-, rfl⟩ | ⟨w, condition, f, -, -, -, rfl⟩
  · exact hn.2
  · exact hn.2

theorem wellFormed_of_parse {t : Text} {c : Command} (h : parse t = .ok c) : c.WellFormed := by
  simp only [parse] at h
  split at h
  · cases h
  · exact wellFormed_of_readCreate h
  · exact wellFormed_of_readInsert h
  · exact wellFormed_of_readSelect h

end Command

end Textbase
