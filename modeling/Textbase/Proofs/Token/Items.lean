import Textbase.Proofs.Token.Scan
import Textbase.Command.Reading
import Mathlib.Data.Set.List

/-! The items of a list that is written out. A list can be read item by item: a comma between two
texts joins the lists that they are. A value between marks is one item whatever it contains, so any
values that leave a mark unused can be written as a list and are read back as they were. -/
namespace Textbase

namespace Token

theorem items_shift {s : Text} {ts : List Token} (h : ∀ x ∈ ts, LiesIn s x)
    (before after : Text) :
    items (before ++ s ++ after) (ts.map (shift (Text.byteLength before))) = items s ts := by
  rw [items, splitOnP_map_shift _ (fun x => by rw [lexeme_shift]), List.map_map, items]
  refine List.map_congr_left fun run hr => ?_
  rw [Function.comp_apply, sourceText_shift fun x hx => h x (mem_of_mem_splitOnP hr hx)]

theorem items_append_comma (source : Text) (ts us : List Token) (pos : Nat) :
    items source (ts ++ ⟨.comma, pos⟩ :: us) = items source ts ++ items source us := by
  rw [items, List.splitOnP_append_cons _ _ (by rfl), List.map_append]
  rfl

theorem items_singleton {source : Text} {x : Token} (h : x.lexeme ≠ .comma) :
    items source [x] = [Text.trim (sourceText source [x])] := by
  rw [items, List.splitOnP_eq_singleton (by simpa using h)]
  rfl

theorem isSpace_of_scanFrom_nil {t : Text} {pos : Nat} (h : scanFrom pos t = .ok []) :
    ∀ c ∈ t, Text.isSpace c = true := by
  induction t using scan_induction generalizing pos with
  | nil => simp
  | space c t hc ih =>
    rw [scanFrom_space hc] at h
    intro d hd
    rcases List.mem_cons.1 hd with rfl | hd
    · exact hc
    · exact ih h d hd
  | error c t e hc he =>
    rw [scanFrom_error hc he] at h
    cases h
  | read c t x r hc hr ih =>
    obtain ⟨later, -, he⟩ := (scanFrom_read_eq_ok_iff hc hr).1 h
    cases he

end Token

namespace Text

/-- The text can be read, and these are the items between its commas. -/
def Lists (t : Text) (list : List Text) : Prop :=
  ∃ ts, Token.scan t = .ok ts ∧ Token.items t ts = list

theorem Lists.comma {a b : Text} {xs ys : List Text} (ha : a.Lists xs) (hb : b.Lists ys) :
    (a ++ ',' :: b).Lists (xs ++ ys) := by
  obtain ⟨ts, hts, rfl⟩ := ha
  obtain ⟨us, hus, rfl⟩ := hb
  have hcomma : Lexeme.read ',' b = .ok (.comma, b) := rfl
  have hlength : byteLength (a ++ [',']) = byteLength a + byteLength Lexeme.comma.source := by
    rw [byteLength_append]
    rfl
  have hscan : Token.scan (a ++ ',' :: b) =
      .ok (ts ++ ⟨.comma, byteLength a⟩ :: us.map (Token.shift (byteLength (a ++ [','])))) := by
    rw [Token.scan] at hts
    rw [Token.scan, Token.scanFrom_append hts (Lexeme.delimits_comma b), Nat.zero_add,
      Token.scanFrom_read (by decide) hcomma, ← hlength, Token.scanFrom_eq_scan, hus]
    rfl
  have hleft : Token.items (a ++ ',' :: b) ts = Token.items a ts := by
    have h := Token.items_shift (Token.liesIn_of_scan hts) [] (',' :: b)
    rwa [List.nil_append, Token.map_shift_nil] at h
  have hright : Token.items (a ++ ',' :: b)
      (us.map (Token.shift (byteLength (a ++ [','])))) = Token.items b us := by
    have h := Token.items_shift (Token.liesIn_of_scan hus) (a ++ [',']) []
    rwa [List.append_nil, List.append_assoc, List.singleton_append] at h
  refine ⟨_, hscan, ?_⟩
  rw [Token.items_append_comma, hleft, hright]

theorem Lists.space {c : Char} {t : Text} {xs : List Text} (hc : isSpace c = true)
    (h : t.Lists xs) : Lists (c :: t) xs := by
  obtain ⟨ts, hts, rfl⟩ := h
  have hitems := Token.items_shift (Token.liesIn_of_scan hts) [c] []
  have hscan : Token.scan (c :: t) = .ok (ts.map (Token.shift c.utf8Size)) := by
    rw [Token.scan, Token.scanFrom_space hc, Nat.zero_add, Token.scanFrom_eq_scan, hts]
    rfl
  refine ⟨_, hscan, ?_⟩
  simpa using hitems

/-- Texts that list one item each, themselves, can be joined to a list. -/
theorem lists_joinWith {ps : List Text} (hne : ps ≠ []) (h : ∀ p ∈ ps, p.Lists [p]) :
    (joinWith ", ".toList ps).Lists ps := by
  have hgap : ", ".toList = [',', ' '] := by decide +kernel
  induction ps with
  | nil => exact absurd rfl hne
  | cons p ps ih =>
    cases ps with
    | nil => simpa using h
    | cons q ps =>
      have hrest := ih (List.cons_ne_nil q ps) fun r hr => h r (List.mem_cons_of_mem p hr)
      have hjoin : joinWith ", ".toList (p :: q :: ps) =
          p ++ ',' :: ' ' :: joinWith ", ".toList (q :: ps) := by
        simp [hgap]
      rw [hjoin]
      exact (h p List.mem_cons_self).comma (hrest.space (by decide))

end Text

/-- A value between two equal marks that it does not contain. -/
structure Literal where
  mark : Char
  value : Text
  isQuote_mark : Value.isQuote mark = true
  mark_not_mem : mark ∉ value

namespace Literal

def text (l : Literal) : Text := l.mark :: l.value ++ [l.mark]

theorem isSpace_mark (l : Literal) : Text.isSpace l.mark = false := by
  have h := l.isQuote_mark
  rw [Value.isQuote, Bool.or_eq_true, beq_iff_eq, beq_iff_eq] at h
  rcases h with h | h <;> rw [h] <;> decide

theorem exists_value_eq_iff {v : Text} : (∃ l : Literal, l.value = v) ↔ '"' ∉ v ∨ '\'' ∉ v := by
  constructor
  · rintro ⟨⟨mark, value, hq, hm⟩, rfl⟩
    rw [Value.isQuote, Bool.or_eq_true, beq_iff_eq, beq_iff_eq] at hq
    rcases hq with rfl | rfl
    · exact .inl hm
    · exact .inr hm
  · rintro (h | h)
    · exact ⟨⟨'"', v, rfl, h⟩, rfl⟩
    · exact ⟨⟨'\'', v, rfl, h⟩, rfl⟩

theorem exists_map_value_eq_iff {vs : List Text} :
    (∃ ls : List Literal, ls.map value = vs) ↔ ∀ v ∈ vs, '"' ∉ v ∨ '\'' ∉ v := by
  rw [← Set.mem_range, Set.range_list_map]
  exact forall₂_congr fun v _ => exists_value_eq_iff

theorem unquote_text (l : Literal) : Value.unquote l.text = l.value :=
  Value.unquote_wrapped l.mark l.value l.isQuote_mark

theorem trim_text (l : Literal) : Text.trim l.text = l.text := by
  have hs : Text.trimStart l.text = l.mark :: l.value ++ [l.mark] := by
    rw [text, List.cons_append, Text.trimStart_cons, if_neg (by simp [l.isSpace_mark])]
  rw [Text.trim, hs, Text.trimEnd_append_singleton, if_neg (by simp [l.isSpace_mark]), text]

theorem scan_text (l : Literal) : Token.scan l.text = .ok [⟨.quoted l.mark l.value, 0⟩] := by
  have hread := Lexeme.read_quoted l.isQuote_mark l.mark_not_mem []
  rw [Token.scan, text, List.cons_append, Token.scanFrom_read l.isSpace_mark hread]
  simp [Except.map]

theorem lists_text (l : Literal) : l.text.Lists [l.text] := by
  refine ⟨_, l.scan_text, ?_⟩
  have hsource : Token.sourceText l.text [⟨.quoted l.mark l.value, 0⟩] = l.text := by
    have h := Text.slice?_append [] l.text []
    rw [List.nil_append, List.append_nil, Text.byteLength_nil, Nat.zero_add] at h
    simp only [Token.sourceText, List.head?_cons, List.getLast?_singleton, Token.stop,
      Lexeme.source, Nat.zero_add]
    rw [← text, h]
    rfl
  rw [Token.items_singleton (by simp), hsource, trim_text]

def joined (ls : List Literal) : Text := Text.joinWith ", ".toList (ls.map text)

theorem mark_mem_joined (l : Literal) (ls : List Literal) : l.mark ∈ joined (l :: ls) := by
  cases ls <;> simp [joined, text]

theorem lists_joined {ls : List Literal} (h : ls ≠ []) : (joined ls).Lists (ls.map text) := by
  refine Text.lists_joinWith (by simpa using h) fun p hp => ?_
  obtain ⟨l, -, rfl⟩ := List.mem_map.1 hp
  exact l.lists_text

end Literal

end Textbase
