import Textbase.Proofs.Command.Opening
import Textbase.Proofs.Command.Reading
import Textbase.Proofs.Token.Items

/-! Commands with a list at their end: four words and the list. The items of the list are read as
they are from the list by itself, whatever they contain. -/
namespace Textbase

def Text.spaced (ws : List Text) : Text := ws.flatMap (· ++ [' '])

@[simp] theorem Text.spaced_nil : spaced [] = [] := rfl
@[simp] theorem Text.spaced_cons (w : Text) (ws : List Text) :
    spaced (w :: ws) = w ++ ' ' :: spaced ws := by
  simp [spaced]

theorem Text.spaced_append (first second table fourth t : Text) :
    spaced [first, second, table, fourth] ++ t =
      first ++ ' ' :: (second ++ [' ']) ++ table ++ ' ' :: (fourth ++ [' ']) ++ t := by
  simp

namespace Token

/-- The tokens of spaced words that stand at offset `pos`. -/
def words : Nat → List Text → List Token
  | _, [] => []
  | pos, w :: ws => ⟨.word w, pos⟩ :: words (pos + Text.byteLength w + ' '.utf8Size) ws

theorem scanFrom_spaced {ws : List Text} (h : ∀ w ∈ ws, w.IsName) (pos : Nat) (t : Text) :
    scanFrom pos (Text.spaced ws ++ t) =
      (scanFrom (pos + Text.byteLength (Text.spaced ws)) t).map (words pos ws ++ ·) := by
  induction ws generalizing pos with
  | nil =>
    rw [Text.spaced_nil, List.nil_append, Text.byteLength_nil, Nat.add_zero]
    cases scanFrom pos t <;> rfl
  | cons w ws ih =>
    have hs : Text.isSpace ' ' = true := by decide
    have hd : Lexeme.Delimits (' ' :: (Text.spaced ws ++ t)) :=
      Lexeme.delimits_of_opensBlank (Text.opensBlank_cons hs _)
    have hpos : pos + Text.byteLength w + ' '.utf8Size + Text.byteLength (Text.spaced ws) =
        pos + Text.byteLength (Text.spaced (w :: ws)) := by
      simp [Nat.add_assoc]
    rw [← hpos, Text.spaced_cons, List.append_assoc, List.cons_append,
      scanFrom_name (h w List.mem_cons_self) hd, scanFrom_space hs,
      ih fun v hv => h v (List.mem_cons_of_mem w hv)]
    cases scanFrom (pos + _ + _ + _) t <;> rfl

end Token

namespace Command

section

variable {first second table fourth list : Text} (h : ∀ w ∈ [first, second, table, fourth], w.IsName)
include h

theorem exists_append_trim_spaced (list : Text) :
    let whole := Text.spaced [first, second, table, fourth] ++ list
    ∃ u, Text.trim whole ++ u = whole ∧ ∀ c ∈ u, Text.isSpace c = true := by
  rw [Text.spaced_cons, List.append_assoc, List.cons_append]
  exact Text.exists_append_trim_name (h first (by simp)) _

theorem scan_trim_spaced (list : Text) :
    let before := Text.spaced [first, second, table, fourth]
    Token.scan (Text.trim (before ++ list)) = (Token.scan list).map fun ts =>
      Token.words 0 [first, second, table, fourth] ++
        ts.map (Token.shift (Text.byteLength before)) := by
  intro before
  obtain ⟨u, hu, hspaces⟩ := exists_append_trim_spaced h list
  rw [Token.scan, ← Token.scanFrom_append_spaces hspaces, hu, Token.scanFrom_spaced h,
    Nat.zero_add, Token.scanFrom_eq_scan]
  cases Token.scan list <;> rfl

/-- A command is read as its table and the items of its list, taken by themselves, if the words
around the table are those that belong there and the list is not blank. -/
theorem readList_spaced (verb : Verb) {items : List Text} (hl : list.Lists items) :
    let source := Text.trim (Text.spaced [first, second, table, fourth] ++ list)
    ∃ ts, Token.scan source = .ok ts ∧ readList verb second fourth source ts =
      if list.all Text.isSpace then .error (.malformed verb .usage) else .ok (table, items) := by
  intro source
  obtain ⟨ts, hts, rfl⟩ := hl
  let before := Text.spaced [first, second, table, fourth]
  have hscan : Token.scan source = .ok (Token.words 0 [first, second, table, fourth] ++
      ts.map (Token.shift (Text.byteLength before))) := by
    have hs := scan_trim_spaced h list
    rwa [hts] at hs
  refine ⟨_, hscan, ?_⟩
  cases ts with
  | nil =>
    rw [if_pos (List.all_eq_true.2 (Token.isSpace_of_scanFrom_nil hts))]
    rfl
  | cons x rest =>
    have hblank : ¬list.all Text.isSpace = true := by
      intro hb
      have hs : Token.scan list = .ok [] := Token.scanFrom_of_spaces (List.all_eq_true.1 hb) 0
      rw [hts] at hs
      cases hs
    obtain ⟨u, hu, -⟩ := exists_append_trim_spaced h list
    -- The source and the list are part of the whole, the one at its start, the other at its end.
    have hlies : ∀ y ∈ (x :: rest).map (Token.shift (Text.byteLength before)),
        Token.LiesIn source y :=
      fun y hy => Token.liesIn_of_scan hscan y (List.mem_append_right _ hy)
    have hsource := Token.items_shift hlies [] u
    have hlist := Token.items_shift (Token.liesIn_of_scan hts) before []
    rw [List.nil_append, hu, Token.map_shift_nil] at hsource
    rw [List.append_nil] at hlist
    rw [if_neg hblank]
    exact readList_eq_ok_iff.2 ⟨_, _, _, _, _, _, rfl, Text.sameFolded_refl _,
      ⟨rfl, h table (by simp)⟩, Text.sameFolded_refl _, hsource.symm.trans hlist⟩

end

theorem of?_trim_spaced {first second : Text} (hf : first.IsName) (hs : second.IsName)
    (ws : List Text) (list : Text) :
    Verb.of? (Text.trim (Text.spaced (first :: second :: ws) ++ list)) =
      Verb.of? (first ++ ' ' :: second) := by
  have ht : Text.OpensBlank (Text.trimEnd (' ' :: (Text.spaced ws ++ list))) :=
    Text.opensBlank_trimEnd (Text.opensBlank_cons (by decide) _)
  have hnil : Text.OpensBlank [] := by simp [Text.OpensBlank]
  have hend := Verb.of?_two_names hf hs hnil
  rw [List.append_nil] at hend
  rw [Text.spaced_cons, List.append_assoc, List.cons_append, Text.spaced_cons, List.append_assoc,
    List.cons_append, Text.trim_two_names hf hs, Verb.of?_two_names hf hs ht, hend]

theorem isName_of_mem_words {first second table fourth : Text} (h₁ : first.IsName)
    (h₂ : second.IsName) (h₃ : table.IsName) (h₄ : fourth.IsName) :
    ∀ w ∈ [first, second, table, fourth], w.IsName := by
  simp only [List.forall_mem_cons, h₁, h₂, h₃, h₄, true_and]
  exact fun w hw => absurd hw List.not_mem_nil

def insertion (table list : Text) : Text :=
  "insert into ".toList ++ table ++ " values ".toList ++ list

theorem insertion_eq_spaced (table list : Text) : insertion table list =
    Text.spaced ["insert".toList, "into".toList, table, "values".toList] ++ list := by
  have hi : "insert into ".toList = "insert".toList ++ ' ' :: ("into".toList ++ [' ']) := by
    decide +kernel
  have hv : " values ".toList = ' ' :: ("values".toList ++ [' ']) := by decide +kernel
  unfold insertion
  rw [hi, hv, Text.spaced_append]

theorem isName_of_mem_insertion {table : Text} (ht : table.IsName) :
    ∀ w ∈ ["insert".toList, "into".toList, table, "values".toList], Text.IsName w :=
  isName_of_mem_words (by decide) (by decide) ht (by decide)

theorem of?_trim_insertion (table list : Text) :
    Verb.of? (Text.trim (insertion table list)) = some .insert := by
  have hinsert : Text.IsName "insert".toList := by decide
  have hinto : Text.IsName "into".toList := by decide
  rw [insertion_eq_spaced, of?_trim_spaced hinsert hinto]
  decide +kernel

theorem parse_insertion_eq {table : Text} (ht : table.IsName) {list : Text} {items : List Text}
    (hl : list.Lists items) :
    parse (insertion table list) =
      if list.all Text.isSpace then .error (.malformed .insert .usage)
      else .ok (insert table (items.map Value.unquote)) := by
  obtain ⟨ts, hts, hread⟩ := readList_spaced (isName_of_mem_insertion ht) .insert hl
  rw [← insertion_eq_spaced] at hts hread
  simp only [parse, of?_trim_insertion, readInsert_of_scan hts, hread]
  split <;> rfl

theorem parse_insertion {table : Text} (ht : table.IsName) {list : Text} {items : List Text}
    (hl : list.Lists items) (hne : ∃ c ∈ list, Text.isSpace c = false) :
    parse (insertion table list) = .ok (insert table (items.map Value.unquote)) := by
  obtain ⟨c, hc, hs⟩ := hne
  have hblank : ¬list.all Text.isSpace = true := fun hb => by
    rw [List.all_eq_true.1 hb c hc] at hs
    cases hs
  rw [parse_insertion_eq ht hl, if_neg hblank]

def creation (table list : Text) : Text :=
  "make table ".toList ++ table ++ " fields ".toList ++ list

theorem creation_eq_spaced (table list : Text) : creation table list =
    Text.spaced ["make".toList, "table".toList, table, "fields".toList] ++ list := by
  have hm : "make table ".toList = "make".toList ++ ' ' :: ("table".toList ++ [' ']) := by
    decide +kernel
  have hf : " fields ".toList = ' ' :: ("fields".toList ++ [' ']) := by decide +kernel
  unfold creation
  rw [hm, hf, Text.spaced_append]

theorem isName_of_mem_creation {table : Text} (ht : table.IsName) :
    ∀ w ∈ ["make".toList, "table".toList, table, "fields".toList], Text.IsName w :=
  isName_of_mem_words (by decide) (by decide) ht (by decide)

theorem of?_trim_creation (table list : Text) :
    Verb.of? (Text.trim (creation table list)) = some .create := by
  have hmake : Text.IsName "make".toList := by decide
  have htable : Text.IsName "table".toList := by decide
  rw [creation_eq_spaced, of?_trim_spaced hmake htable]
  decide +kernel

theorem parse_creation_eq {table : Text} (ht : table.IsName) {list : Text} {items : List Text}
    (hl : list.Lists items) :
    parse (creation table list) =
      if list.all Text.isSpace then .error (.malformed .create .usage)
      else if [] ∈ items then .error (.malformed .create .emptyField)
      else .ok (create table items) := by
  obtain ⟨ts, hts, hread⟩ := readList_spaced (isName_of_mem_creation ht) .create hl
  rw [← creation_eq_spaced] at hts hread
  simp only [parse, of?_trim_creation, readCreate_of_scan hts, hread]
  split <;> rfl

end Command

end Textbase
