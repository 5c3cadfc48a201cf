import Textbase.Proofs.Command.Grammar
import Textbase.Proofs.Command.Listing
import Textbase.Proofs.Token.Composition

/-! The lists of commands as texts. Without quotes a list is cut at every comma, and that is all.
With quotes an item may contain commas, but each item is written as it was: the columns of a new
table, one after another with commas between them, are the fields that make the same table. -/
namespace Textbase

theorem Value.unquote_of_no_quote {t : Text} (h : ∀ c ∈ t, isQuote c = false) :
    unquote t = t := by
  cases t with
  | nil => rfl
  | cons c t => simp [unquote, h c List.mem_cons_self]

theorem Text.lists_name {w : Text} (hw : w.IsName) : w.Lists [w] := by
  have hscan : Token.scan w = .ok [⟨.word w, 0⟩] := by
    have hend : Lexeme.Delimits [] := Lexeme.delimits_of_opensBlank (by simp [OpensBlank])
    have h := Token.scanFrom_name hw hend 0
    rw [List.append_nil, Token.scanFrom_nil] at h
    exact h
  have htrim : trim w = w := by
    have h := trim_name hw []
    rwa [List.append_nil, trimEnd_nil, List.append_nil] at h
  have hlist := lists_of_no_comma hscan (by simp)
  rwa [htrim] at hlist

namespace Command

theorem parse_creation_name {table column : Text} (ht : table.IsName) (hc : column.IsName) :
    parse (creation table column) = .ok (create table [column]) := by
  have hlist := Text.lists_name hc
  have hne : [] ∉ [column] := by
    rw [List.mem_singleton]
    exact hc.ne_nil.symm
  rw [parse_creation_eq ht hlist, if_neg (hlist.not_blank hne), if_neg hne]

/-- In a list without quotes the items are the pieces between the commas, without the whitespace
around them and otherwise as they are. A list is refused when it is blank, a list of fields also
when one of the pieces is. -/
theorem parse_list_of_no_quote {table list : Text} (ht : table.IsName) (hd : '"' ∉ list)
    (hs : '\'' ∉ list) :
    let pieces := (list.splitOn ',').map Text.trim
    parse (insertion table list) =
        (if list.all Text.isSpace then .error (.malformed .insert .usage)
        else .ok (insert table pieces)) ∧
      parse (creation table list) =
        if list.all Text.isSpace then .error (.malformed .create .usage)
        else if [] ∈ pieces then .error (.malformed .create .emptyField)
        else .ok (create table pieces) := by
  intro pieces
  have hq : ∀ c ∈ list, Value.isQuote c = false := by
    intro c hc
    rw [Value.isQuote, Bool.or_eq_false_iff, beq_eq_false_iff_ne, beq_eq_false_iff_ne]
    exact ⟨fun he => hd (he ▸ hc), fun he => hs (he ▸ hc)⟩
  have hlist : list.Lists pieces := Text.lists_splitOn hq
  have hplain : pieces.map Value.unquote = pieces := by
    refine (List.map_congr_left fun item hi => ?_).trans (List.map_id _)
    obtain ⟨piece, hp, rfl⟩ := List.mem_map.1 hi
    have hpart := (Text.infix_trim piece).trans (Text.infix_of_mem_splitOn hp)
    exact Value.unquote_of_no_quote fun c hc => hq c (hpart.subset hc)
  refine ⟨?_, parse_creation_eq ht hlist⟩
  rw [parse_insertion_eq ht hlist, hplain]

/-- Relation symbols, words of commands and an apostrophe of another kind are kept. The empty pieces
are values, but they are no fields. -/
theorem parse_list_of_no_quote_symbols :
    let list := " <= a*b ,, from\u3000Where,o’k ".toList
    let pieces := ["<= a*b".toList, [], "from\u3000Where".toList, "o’k".toList]
    Text.IsName "Ü_1".toList ∧ '"' ∉ list ∧ '\'' ∉ list ∧
      parse (insertion "Ü_1".toList list) = .ok (insert "Ü_1".toList pieces) ∧
      parse (creation "Ü_1".toList list) = .error (.malformed .create .emptyField) := by
  intro list pieces
  have ht : Text.IsName "Ü_1".toList := by decide +kernel
  have hd : '"' ∉ list := by decide
  have hs : '\'' ∉ list := by decide
  have hpieces : (list.splitOn ',').map Text.trim = pieces := by decide +kernel
  have hblank : ¬list.all Text.isSpace = true := by decide
  have hempty : [] ∈ pieces := by decide
  obtain ⟨hinsert, hcreate⟩ := parse_list_of_no_quote ht hd hs
  rw [hpieces, if_neg hblank] at hinsert hcreate
  rw [if_pos hempty] at hcreate
  exact ⟨ht, hd, hs, hinsert, hcreate⟩

theorem readCreate_of_parse {t table : Text} {columns : List Text}
    (h : parse t = .ok (create table columns)) :
    readCreate (Text.trim t) = .ok (create table columns) := by
  obtain ⟨v, -, hread⟩ := parse_eq_ok_iff_readAs.1 h
  cases verb_of_readAs hread
  exact hread

/-- However a table is made, its columns can be written down as the list of fields that makes the
same table. -/
theorem parse_creation_of_parse {t table : Text} {columns : List Text}
    (h : parse t = .ok (create table columns)) :
    parse (creation table (Text.joinWith ", ".toList columns)) = .ok (create table columns) := by
  obtain ⟨ts, _, _, hs, hread, hne, he⟩ := readCreate_eq_ok_iff.1 (readCreate_of_parse h)
  cases he
  obtain ⟨v, joint, name, opener, x, list, rfl, -, hn, -, rfl⟩ := readList_eq_ok_iff.1 hread
  have hsplit : Token.scan (Text.trim t) = .ok ([v, joint, name, opener] ++ (x :: list)) := hs
  obtain ⟨fields, hfields⟩ := Text.exists_lists_items hsplit
  have hlist := Text.lists_joinWith (Token.items_ne_nil _ _) fun c hc => hfields.of_mem hc
  rw [parse_creation_eq hn.2 hlist, if_neg (hlist.not_blank hne), if_neg hne]

/-- A star next to the word before the list, a comma between marks, and marks in and next to a
word. -/
theorem parse_creation_of_parse_marks :
    let t := " CREATE Table T fields*x ,\"a, b\" c,it's='d''e'".toList
    let columns := ["*x".toList, "\"a, b\" c".toList, "it's='d''e'".toList]
    parse t = .ok (create ['T'] columns) ∧
      parse (creation ['T'] (Text.joinWith ", ".toList columns)) = .ok (create ['T'] columns) :=
  have h : parse " CREATE Table T fields*x ,\"a, b\" c,it's='d''e'".toList =
      .ok (create ['T'] ["*x".toList, "\"a, b\" c".toList, "it's='d''e'".toList]) := by
    decide +kernel
  ⟨h, parse_creation_of_parse h⟩

end Command

end Textbase
