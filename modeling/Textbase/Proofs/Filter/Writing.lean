import Textbase.Proofs.Filter.Placement
import Textbase.Proofs.Token.Items
import Mathlib.Data.List.TakeWhile

/-! Filters that are written out. A text can be read part by part: `and` between two texts joins
the parts that they have, `or` the alternatives. A comparison with a value between marks is one
part whatever the value contains, so any filter of such comparisons can be written and is read back
as it was. -/
namespace Textbase

namespace Filter

/-- What the runs of tokens between the `or`s and the `and`s are by themselves. -/
def leaves (source : Text) (ts : List Token) : List (List Filter) :=
  (segments ts).map fun s => (parts s).map (ofRun source)

theorem map_ofSegment_segments (source : Text) (ts : List Token) :
    (segments ts).map (ofSegment source) = (leaves source ts).map (chain and) := by
  rw [leaves, List.map_map]
  rfl

theorem leaves_shift {s : Text} {ts : List Token} (h : ∀ x ∈ ts, Token.LiesIn s x)
    (before after : Text) :
    leaves (before ++ s ++ after) (ts.map (Token.shift (Text.byteLength before))) =
      leaves s ts := by
  rw [leaves, segments, Token.splitAtWord_map_shift, List.map_map]
  refine List.map_congr_left fun segment hs => ?_
  exact map_ofRun_parts_shift (fun x hx => h x (Token.mem_of_mem_splitAtWord hs hx)) before after

theorem leaves_of_no_or {ts : List Token} (h : ∀ x ∈ ts, x.isWord "or".toList = false)
    (source : Text) : leaves source ts = [(parts ts).map (ofRun source)] := by
  rw [leaves, segments, Token.splitAtWord, List.splitOnP_eq_singleton h]
  rfl

theorem leaves_append_or {source : Text} {t : Token} (h : t.isWord "or".toList = true)
    (ts us : List Token) :
    leaves source (ts ++ t :: us) = leaves source ts ++ leaves source us := by
  rw [leaves, segments, Token.splitAtWord_append h, List.map_append]
  rfl

theorem parts_append_and {t : Token} (h : t.isWord "and".toList = true) (ts us : List Token) :
    parts (ts ++ t :: us) = parts ts ++ parts us :=
  Token.splitAtWord_append h ts us

end Filter

namespace Text

/-- The text can be read, it has no `or`, and these are the parts between its `and`s. -/
def Conjoins (t : Text) (fs : List Filter) : Prop :=
  ∃ ts, Token.scan t = .ok ts ∧ (∀ x ∈ ts, x.isWord "or".toList = false) ∧
    (Filter.parts ts).map (Filter.ofRun t) = fs

def Alternates (t : Text) (fss : List (List Filter)) : Prop :=
  ∃ ts, Token.scan t = .ok ts ∧ Filter.leaves t ts = fss

theorem Conjoins.alternates {t : Text} {fs : List Filter} (h : t.Conjoins fs) :
    t.Alternates [fs] := by
  obtain ⟨ts, hts, hor, rfl⟩ := h
  exact ⟨ts, hts, Filter.leaves_of_no_or hor t⟩

variable {a b : Text}

theorem Conjoins.and {fs gs : List Filter} (ha : a.Conjoins fs) (hb : b.Conjoins gs) :
    (a ++ " and ".toList ++ b).Conjoins (fs ++ gs) := by
  obtain ⟨ts, hts, hta, rfl⟩ := ha
  obtain ⟨us, hus, hua, rfl⟩ := hb
  have hgap : " and ".toList = ' ' :: "and".toList ++ [' '] := by decide +kernel
  have hname : IsName "and".toList := by decide
  have hscan := Token.scan_joined hts hname hus
  rw [← hgap] at hscan
  refine ⟨_, hscan, ?_, ?_⟩
  · have hand : Text.sameFolded "and".toList "or".toList = false := by decide
    intro x hx
    rcases List.mem_append.1 hx with hx | hx
    · exact hta x hx
    · rcases List.mem_cons.1 hx with rfl | hx
      · exact hand
      · obtain ⟨y, hy, rfl⟩ := List.mem_map.1 hx
        exact hua y hy
  · have hleft := Filter.map_ofRun_parts_shift (Token.liesIn_of_scan hts) [] (" and ".toList ++ b)
    have hright := Filter.map_ofRun_parts_shift (Token.liesIn_of_scan hus) (a ++ " and ".toList) []
    rw [List.nil_append, Token.map_shift_nil, ← List.append_assoc] at hleft
    rw [List.append_nil] at hright
    rw [Filter.parts_append_and (Token.isWord_self _ _), List.map_append, hleft, hright]

theorem Alternates.or {fss gss : List (List Filter)} (ha : a.Alternates fss)
    (hb : b.Alternates gss) : (a ++ " or ".toList ++ b).Alternates (fss ++ gss) := by
  obtain ⟨ts, hts, rfl⟩ := ha
  obtain ⟨us, hus, rfl⟩ := hb
  have hgap : " or ".toList = ' ' :: "or".toList ++ [' '] := by decide +kernel
  have hname : IsName "or".toList := by decide
  have hscan := Token.scan_joined hts hname hus
  rw [← hgap] at hscan
  refine ⟨_, hscan, ?_⟩
  have hleft := Filter.leaves_shift (Token.liesIn_of_scan hts) [] (" or ".toList ++ b)
  have hright := Filter.leaves_shift (Token.liesIn_of_scan hus) (a ++ " or ".toList) []
  rw [List.nil_append, Token.map_shift_nil, ← List.append_assoc] at hleft
  rw [List.append_nil] at hright
  rw [Filter.leaves_append_or (Token.isWord_self _ _), hleft, hright]

end Text

theorem Token.scanFrom_symbol (r : Relation) {t : Text} (ht : Lexeme.Delimits t) (pos : Nat) :
    scanFrom pos (r.symbol ++ t) =
      (scanFrom (pos + Text.byteLength r.symbol) t).map (⟨.relation r, pos⟩ :: ·) := by
  obtain ⟨c, u, hs⟩ := List.exists_cons_of_ne_nil r.symbol_ne_nil
  have hread : Text.isSpace c = false ∧ Lexeme.read c u = .ok (.relation r, []) := by
    cases r <;> cases hs <;> exact ⟨by decide, rfl⟩
  rw [hs, List.cons_append, scanFrom_read hread.1 (Lexeme.read_append hread.2 ht), ← hs]
  rfl

theorem Filter.trailingName?_of_isName {w : Text} (h : w.IsName) (pos : Nat) :
    trailingName? ⟨.word w, pos⟩ = some w := by
  have htake : w.reverse.takeWhile Text.isNameChar = w.reverse :=
    List.takeWhile_eq_self_iff.2 fun c hc => h.isNameChar c (List.mem_reverse.1 hc)
  simp [trailingName?, htake, h.ne_nil]

/-- A comparison of a column with a literal. The column is a name and not one of the words that
join comparisons. -/
structure Clause where
  column : Text
  relation : Relation
  literal : Literal
  isName_column : column.IsName
  ne_and : Text.sameFolded column "and".toList = false
  ne_or : Text.sameFolded column "or".toList = false

structure Comparison.Writable (c : Comparison) : Prop where
  isName_column : c.column.IsName
  ne_and : Text.sameFolded c.column "and".toList = false
  ne_or : Text.sameFolded c.column "or".toList = false
  lacks_mark : '"' ∉ c.literal ∨ '\'' ∉ c.literal

instance (c : Comparison) : Decidable c.Writable :=
  decidable_of_iff (c.column.IsName ∧ Text.sameFolded c.column "and".toList = false ∧
      Text.sameFolded c.column "or".toList = false ∧ ('"' ∉ c.literal ∨ '\'' ∉ c.literal))
    ⟨fun h => ⟨h.1, h.2.1, h.2.2.1, h.2.2.2⟩,
      fun h => ⟨h.isName_column, h.ne_and, h.ne_or, h.lacks_mark⟩⟩

namespace Clause

def comparison (c : Clause) : Comparison := ⟨c.column, c.relation, c.literal.value⟩

def text (c : Clause) : Text := c.column ++ ' ' :: (c.relation.symbol ++ ' ' :: c.literal.text)

theorem exists_comparison_eq_iff {c : Comparison} :
    (∃ w : Clause, w.comparison = c) ↔ c.Writable := by
  constructor
  · rintro ⟨w, rfl⟩
    exact ⟨w.isName_column, w.ne_and, w.ne_or, Literal.exists_value_eq_iff.1 ⟨w.literal, rfl⟩⟩
  · intro h
    obtain ⟨l, hl⟩ := Literal.exists_value_eq_iff.2 h.lacks_mark
    refine ⟨⟨c.column, c.relation, l, h.isName_column, h.ne_and, h.ne_or⟩, ?_⟩
    rw [comparison, hl]

theorem exists_map_comparison_eq_iff {css : List (List Comparison)} :
    (∃ wss : List (List Clause), wss.map (List.map comparison) = css) ↔
      ∀ cs ∈ css, ∀ c ∈ cs, c.Writable := by
  have hrow : ∀ cs : List Comparison,
      cs ∈ Set.range (List.map comparison) ↔ ∀ c ∈ cs, c.Writable := by
    intro cs
    rw [Set.range_list_map]
    exact forall₂_congr fun c _ => exists_comparison_eq_iff
  rw [← Set.mem_range, Set.range_list_map]
  exact forall₂_congr fun cs _ => hrow cs

def literalStart (c : Clause) : Nat :=
  Text.byteLength (c.column ++ ' ' :: (c.relation.symbol ++ [' ']))

def tokens (c : Clause) : List Token :=
  [⟨.word c.column, 0⟩, ⟨.relation c.relation, Text.byteLength c.column + ' '.utf8Size⟩,
    ⟨.quoted c.literal.mark c.literal.value, c.literalStart⟩]

theorem scan_text (c : Clause) : Token.scan c.text = .ok c.tokens := by
  have hs : Text.isSpace ' ' = true := by decide
  have hd : ∀ t, Lexeme.Delimits (' ' :: t) := fun t =>
    Lexeme.delimits_of_opensBlank (Text.opensBlank_cons hs t)
  have hpos : 0 + Text.byteLength c.column + ' '.utf8Size +
      Text.byteLength c.relation.symbol + ' '.utf8Size = c.literalStart := by
    simp [literalStart, Nat.add_assoc]
  rw [Token.scan, text, Token.scanFrom_name c.isName_column (hd _), Token.scanFrom_space hs,
    Token.scanFrom_symbol c.relation (hd _), Token.scanFrom_space hs, hpos, Token.scanFrom_eq_scan,
    c.literal.scan_text, Nat.zero_add]
  rfl

theorem sourceText_literal (c : Clause) :
    Token.sourceText c.text [⟨.quoted c.literal.mark c.literal.value, c.literalStart⟩] =
      c.literal.text := by
  have hs := Text.slice?_append (c.column ++ ' ' :: (c.relation.symbol ++ [' '])) c.literal.text []
  have ht : c.column ++ ' ' :: (c.relation.symbol ++ [' ']) ++ c.literal.text ++ [] = c.text := by
    simp [text]
  rw [ht] at hs
  simp only [Token.sourceText, List.head?_cons, List.getLast?_singleton, Token.stop,
    Lexeme.source]
  rw [← Literal.text, literalStart, hs]
  rfl

theorem isWord_of_mem_tokens {c : Clause} {k : Text} (hk : Text.sameFolded c.column k = false) :
    ∀ x ∈ c.tokens, x.isWord k = false := by
  simp only [tokens, List.forall_mem_cons, Token.isWord_word, hk, true_and]
  exact ⟨rfl, rfl, fun x hx => absurd hx List.not_mem_nil⟩

theorem comparison?_tokens (c : Clause) :
    Filter.comparison? c.text c.tokens = some c.comparison := by
  simp [tokens, Filter.comparison?, Filter.splitAtRelation?,
    Filter.trailingName?_of_isName c.isName_column, c.sourceText_literal, c.literal.trim_text,
    c.literal.unquote_text, comparison]

theorem conjoins_text (c : Clause) : c.text.Conjoins [.compare c.comparison] := by
  refine ⟨_, c.scan_text, isWord_of_mem_tokens c.ne_or, ?_⟩
  rw [Filter.parts, Token.splitAtWord, List.splitOnP_eq_singleton (isWord_of_mem_tokens c.ne_and),
    List.map_singleton, Filter.ofRun, comparison?_tokens]

def conjunction (cs : List Clause) : Text := Text.joinWith " and ".toList (cs.map text)

def disjunction (css : List (List Clause)) : Text :=
  Text.joinWith " or ".toList (css.map conjunction)

theorem conjoins_conjunction {cs : List Clause} (h : cs ≠ []) :
    (conjunction cs).Conjoins (cs.map fun c => .compare c.comparison) := by
  induction cs with
  | nil => exact absurd rfl h
  | cons c cs ih =>
    cases cs with
    | nil => simpa [conjunction] using c.conjoins_text
    | cons d cs =>
      rw [conjunction, List.map_cons, List.map_cons, Text.joinWith_cons_cons, ← List.map_cons,
        ← conjunction]
      exact c.conjoins_text.and (ih (by simp))

theorem alternates_disjunction {css : List (List Clause)} (h : css ≠ [])
    (hcs : ∀ cs ∈ css, cs ≠ []) :
    (disjunction css).Alternates (css.map fun cs => cs.map fun c => .compare c.comparison) := by
  induction css with
  | nil => exact absurd rfl h
  | cons cs css ih =>
    have hfirst := (conjoins_conjunction (hcs cs List.mem_cons_self)).alternates
    cases css with
    | nil => simpa [disjunction] using hfirst
    | cons ds css =>
      rw [disjunction, List.map_cons, List.map_cons, Text.joinWith_cons_cons, ← List.map_cons,
        ← disjunction]
      exact hfirst.or (ih (by simp) fun ds hds => hcs ds (List.mem_cons_of_mem cs hds))

theorem exists_disjunction_eq (c : Clause) (cs : List Clause) (css : List (List Clause)) :
    ∃ rest, disjunction ((c :: cs) :: css) = c.column ++ ' ' :: rest := by
  have hconjunction : ∃ rest, conjunction (c :: cs) = c.column ++ ' ' :: rest := by
    cases cs <;> simp [conjunction, text]
  obtain ⟨rest, hr⟩ := hconjunction
  cases css <;> simp [disjunction, hr]

end Clause

namespace Filter

section

variable {t w rest : Text} {fss : List (List Filter)} (h : t.Alternates fss)
  (ht : t = w ++ ' ' :: rest) (hw : w.IsName)
include h ht hw

theorem exists_leaves_eq_of_name :
    ∃ later, Token.scan t = .ok (⟨.word w, 0⟩ :: later) ∧
      leaves t (⟨.word w, 0⟩ :: later) = fss := by
  obtain ⟨ts, hts, hl⟩ := h
  have hd : Lexeme.Delimits (' ' :: rest) :=
    Lexeme.delimits_of_opensBlank (Text.opensBlank_cons (by decide) rest)
  have hscan := Token.scanFrom_name hw hd 0
  rw [← ht, ← Token.scan, hts] at hscan
  cases hr : Token.scanFrom (0 + Text.byteLength w) (' ' :: rest) with
  | error e =>
    rw [hr] at hscan
    cases hscan
  | ok later =>
    rw [hr] at hscan
    cases hscan
    exact ⟨later, hts, hl⟩

/-- The alternatives of a text that starts with a name are its filter, unless the name is
`where`. -/
theorem parse_of_alternates (hne : Text.sameFolded w "where".toList = false) :
    parse t = .ok (chain or (fss.map (chain and))) := by
  obtain ⟨later, hscan, rfl⟩ := exists_leaves_eq_of_name h ht hw
  have hb : body (⟨.word w, 0⟩ :: later) = ⟨.word w, 0⟩ :: later := by
    rw [body, Token.isWord_word, hne, if_neg Bool.false_ne_true]
  refine parse_eq_ok_iff.2 ⟨_, hscan, ?_, ?_⟩
  · rw [hb]
    exact List.cons_ne_nil _ later
  · rw [hb, map_ofSegment_segments]

theorem parse_where_of_alternates :
    parse ("where ".toList ++ t) = .ok (chain or (fss.map (chain and))) := by
  obtain ⟨later, hscan, rfl⟩ := exists_leaves_eq_of_name h ht hw
  have hs : Text.isSpace ' ' = true := by decide
  have hname : Text.IsName "where".toList := by decide
  have hgap : "where ".toList = "where".toList ++ [' '] := by decide +kernel
  have hlength : 0 + Text.byteLength "where".toList + ' '.utf8Size =
      Text.byteLength "where ".toList := by decide
  have hwhole : Token.scan ("where ".toList ++ t) = .ok (⟨.word "where".toList, 0⟩ ::
      List.map (Token.shift (Text.byteLength "where ".toList)) (⟨.word w, 0⟩ :: later)) := by
    rw [Token.scan, hgap, List.append_assoc, List.singleton_append, Token.scanFrom_name hname
      (Lexeme.delimits_of_opensBlank (Text.opensBlank_cons hs t)), Token.scanFrom_space hs, hlength,
      Token.scanFrom_eq_scan, hscan]
    rfl
  have hleaves := leaves_shift (Token.liesIn_of_scan hscan) "where ".toList []
  rw [List.append_nil] at hleaves
  have hb : ∀ ts, body (⟨.word "where".toList, 0⟩ :: ts) = ts := fun ts => by
    rw [body, if_pos (Token.isWord_self _ _)]
  refine parse_eq_ok_iff.2 ⟨_, hwhole, ?_, ?_⟩
  · rw [hb]
    exact List.cons_ne_nil _ _
  · rw [hb, map_ofSegment_segments, hleaves]

end

/-- Comparisons whose values each leave one of the two marks unused can be written, and however
they are, joined by `and` and what comes of it by `or`, the text is read as just these comparisons,
joined from the left. It may have a `where` in front, and only a first column of that name needs
it. -/
theorem parse_disjunction {css : List (List Comparison)} (hne : css ≠ [])
    (hcs : ∀ cs ∈ css, cs ≠ []) (hw : ∀ cs ∈ css, ∀ c ∈ cs, c.Writable) :
    (∃ wss : List (List Clause), wss.map (List.map Clause.comparison) = css) ∧
    ∀ wss : List (List Clause), wss.map (List.map Clause.comparison) = css →
      parse ("where ".toList ++ Clause.disjunction wss) =
        .ok (chain or (css.map fun cs => chain and (cs.map compare))) ∧
      ((∀ c ∈ css.flatten.head?, Text.sameFolded c.column "where".toList = false) →
        parse (Clause.disjunction wss) =
          .ok (chain or (css.map fun cs => chain and (cs.map compare)))) := by
  refine ⟨Clause.exists_map_comparison_eq_iff.2 hw, ?_⟩
  rintro wss rfl
  obtain ⟨ws, wss, rfl⟩ := List.exists_cons_of_ne_nil fun he : wss = [] => hne (by rw [he]; rfl)
  obtain ⟨w, ws, rfl⟩ := List.exists_cons_of_ne_nil fun he : ws = [] =>
    hcs [] (by simp [he]) rfl
  have hwritten : ∀ vs ∈ (w :: ws) :: wss, vs ≠ [] := by
    rintro vs hvs rfl
    exact hcs [] (List.mem_map.2 ⟨[], hvs, rfl⟩) rfl
  have halternates := Clause.alternates_disjunction (List.cons_ne_nil _ _) hwritten
  obtain ⟨rest, hrest⟩ := w.exists_disjunction_eq ws wss
  have htree : ((((w :: ws) :: wss).map fun cs => cs.map fun c => compare c.comparison).map
      (chain and)) = ((((w :: ws) :: wss).map (List.map Clause.comparison)).map fun cs =>
        chain and (cs.map compare)) := by
    rw [List.map_map, List.map_map]
    refine List.map_congr_left fun cs _ => ?_
    rw [Function.comp_apply, Function.comp_apply, List.map_map]
    rfl
  rw [← htree]
  refine ⟨parse_where_of_alternates halternates hrest w.isName_column, fun hfirst => ?_⟩
  exact parse_of_alternates halternates hrest w.isName_column (hfirst w.comparison rfl)

/-- Words that join comparisons, symbols, commas and marks of the other kind stay in the values. -/
theorem parse_disjunction_keywords :
    let a : Comparison := ⟨['a'], .ne, "it's, or".toList⟩
    let b : Comparison := ⟨"WHERE".toList, .le, " and \"= ".toList⟩
    let c : Comparison := ⟨['é', '_'], .gt, []⟩
    (∀ cs ∈ [[a, b], [c]], ∀ d ∈ cs, d.Writable) ∧
      (∃ wss : List (List Clause), wss.map (List.map Clause.comparison) = [[a, b], [c]]) ∧
      ∀ wss : List (List Clause), wss.map (List.map Clause.comparison) = [[a, b], [c]] →
        parse ("where ".toList ++ Clause.disjunction wss) =
          .ok (((compare a).and (compare b)).or (compare c)) ∧
        parse (Clause.disjunction wss) = .ok (((compare a).and (compare b)).or (compare c)) := by
  intro a b c
  have hw : ∀ cs ∈ [[a, b], [c]], ∀ d ∈ cs, d.Writable := by decide
  have hfirst : ∀ d ∈ [[a, b], [c]].flatten.head?,
      Text.sameFolded d.column "where".toList = false := by decide
  obtain ⟨hwritten, hparse⟩ := parse_disjunction (List.cons_ne_nil _ _) (by decide) hw
  exact ⟨hw, hwritten, fun wss h => ⟨(hparse wss h).1, (hparse wss h).2 hfirst⟩⟩

end Filter

end Textbase
