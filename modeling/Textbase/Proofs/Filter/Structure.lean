import Textbase.Filter.Reading
import Mathlib.Data.List.Basic

/-! The filter that a text is, told from its tokens: they are split at every `or`, each segment at
every `and`, and the parts are joined again from the left. A row passes when all parts of one
segment let it through. -/
namespace Textbase

namespace Relation

/-- What the relation says: the cell is the same value as the literal or not, or how they are
ordered. -/
def Relates : Relation → Text → Text → Prop
  | eq, cell, literal => Value.same cell literal = true
  | ne, cell, literal => Value.same cell literal = false
  | gt, cell, literal => Value.compare cell literal = .gt
  | lt, cell, literal => Value.compare cell literal = .lt
  | ge, cell, literal => Value.compare cell literal = .gt ∨ Value.compare cell literal = .eq
  | le, cell, literal => Value.compare cell literal = .lt ∨ Value.compare cell literal = .eq

theorem holds_iff_relates {r : Relation} {cell literal : Text} :
    r.holds cell literal = true ↔ r.Relates cell literal := by
  cases r with
  | eq => exact Iff.rfl
  | ne => simp [holds, Relates]
  | gt => simp [holds, Relates]
  | lt => simp [holds, Relates]
  | ge => cases h : Value.compare cell literal <;> simp [holds, Relates, h]
  | le => cases h : Value.compare cell literal <;> simp [holds, Relates, h]

end Relation

namespace Token

theorem isWord_self (k : Text) (start : Nat) : (⟨.word k, start⟩ : Token).isWord k = true :=
  Text.sameFolded_refl k

/-- The runs of tokens between the words `k`, whatever their case. -/
def splitAtWord (k : Text) (ts : List Token) : List (List Token) := ts.splitOnP fun t => t.isWord k

theorem exists_splitAtWord (k : Text) (ts : List Token) : ∃ s ss, splitAtWord k ts = s :: ss :=
  List.exists_cons_of_ne_nil (List.splitOnP_ne_nil _ ts)

@[simp] theorem splitAtWord_nil (k : Text) : splitAtWord k [] = [[]] := rfl

theorem splitAtWord_cons_of_isWord {k : Text} {t : Token} (h : t.isWord k = true)
    (ts : List Token) : splitAtWord k (t :: ts) = [] :: splitAtWord k ts := by
  rw [splitAtWord, List.splitOnP_cons_eq_if_modifyHead, if_pos h]
  rfl

theorem splitAtWord_cons {k : Text} {t : Token} {ts s : List Token} {ss : List (List Token)}
    (h : t.isWord k = false) (hs : splitAtWord k ts = s :: ss) :
    splitAtWord k (t :: ts) = (t :: s) :: ss := by
  rw [splitAtWord] at hs
  rw [splitAtWord, List.splitOnP_cons_eq_if_modifyHead, if_neg (by simp [h]), hs,
    List.modifyHead_cons]

theorem splitAtWord_eq_cons {k : Text} {s p : List Token} {ps : List (List Token)}
    (h : splitAtWord k s = p :: ps) :
    (∀ t ∈ p, t.isWord k = false) ∧
      ((s = p ∧ ps = []) ∨
        ∃ t s', s = p ++ t :: s' ∧ t.isWord k = true ∧ splitAtWord k s' = ps) := by
  induction s generalizing p with
  | nil =>
    cases h
    exact ⟨by simp, .inl ⟨rfl, rfl⟩⟩
  | cons t s ih =>
    cases ht : t.isWord k with
    | true =>
      rw [splitAtWord_cons_of_isWord ht] at h
      cases h
      exact ⟨by simp, .inr ⟨t, s, rfl, ht, rfl⟩⟩
    | false =>
      obtain ⟨q, qs, hq⟩ := exists_splitAtWord k s
      rw [splitAtWord_cons ht hq] at h
      cases h
      obtain ⟨hno, hrest⟩ := ih hq
      refine ⟨List.forall_mem_cons.2 ⟨ht, hno⟩, ?_⟩
      rcases hrest with ⟨rfl, rfl⟩ | ⟨t', s', rfl, ht', rfl⟩
      · exact .inl ⟨rfl, rfl⟩
      · exact .inr ⟨t', s', rfl, ht', rfl⟩

theorem splitAtWord_append {k : Text} {t : Token} (h : t.isWord k = true) (ts us : List Token) :
    splitAtWord k (ts ++ t :: us) = splitAtWord k ts ++ splitAtWord k us :=
  List.splitOnP_append_cons ts us h

theorem flatten_splitAtWord (k : Text) (ts : List Token) :
    (splitAtWord k ts).flatten = ts.filter fun t => !t.isWord k := by
  induction ts with
  | nil => rfl
  | cons t ts ih =>
    obtain ⟨s, ss, hs⟩ := exists_splitAtWord k ts
    cases h : t.isWord k with
    | true => simp [splitAtWord_cons_of_isWord h, h, ih]
    | false =>
      rw [hs, List.flatten_cons] at ih
      simp [splitAtWord_cons h hs, h, ih]

end Token

namespace Filter

/-- The filters joined from the left; there is at least one. -/
def chain (join : Filter → Filter → Filter) : List Filter → Filter
  | [] => unmatched []
  | f :: fs => fs.foldl join f

def segments (ts : List Token) : List (List Token) := Token.splitAtWord "or".toList ts

def parts (ts : List Token) : List (List Token) := Token.splitAtWord "and".toList ts

theorem exists_segments (ts : List Token) : ∃ s ss, segments ts = s :: ss :=
  Token.exists_splitAtWord _ ts

theorem exists_parts (s : List Token) : ∃ r rs, parts s = r :: rs := Token.exists_splitAtWord _ s

def ofSegment (source : Text) (segment : List Token) : Filter :=
  chain and ((parts segment).map (ofRun source))

theorem ofSegment_of_parts {source : Text} {s r : List Token} {rs : List (List Token)}
    (h : parts s = r :: rs) :
    ofSegment source s = (rs.map (ofRun source)).foldl and (ofRun source r) := by
  rw [ofSegment, h]
  rfl

/-- What reading on from any progress comes to: the first part of the tokens still belongs to the
current run, the first segment to the current alternative. -/
theorem disjunction_foldl_step (source : Text) (ts : List Token) (p : Progress)
    {s r : List Token} {ss rs : List (List Token)} (hs : segments ts = s :: ss)
    (hr : parts s = r :: rs) :
    (ts.foldl (Progress.step source) p).disjunction source =
      (ss.map (ofSegment source)).foldl or (joinTo or p.alternatives
        ((rs.map (ofRun source)).foldl and
          (joinTo and p.conjuncts (ofRun source (p.run ++ r))))) := by
  induction ts generalizing p s r ss rs with
  | nil =>
    cases hs
    cases hr
    simp [Progress.disjunction, Progress.conjunction]
  | cons t ts ih =>
    obtain ⟨s', ss', hs'⟩ := exists_segments ts
    obtain ⟨r', rs', hr'⟩ := exists_parts s'
    rw [List.foldl_cons]
    cases ho : t.isWord "or".toList with
    | true =>
      rw [segments, Token.splitAtWord_cons_of_isWord ho, ← segments, hs'] at hs
      cases hs
      cases hr
      rw [Progress.step_or ho, ih _ hs' hr']
      simp [Progress.disjunction, Progress.conjunction, joinTo, ofSegment_of_parts hr']
    | false =>
      rw [segments, Token.splitAtWord_cons ho hs'] at hs
      cases hs
      cases ha : t.isWord "and".toList with
      | true =>
        rw [parts, Token.splitAtWord_cons_of_isWord ha, ← parts, hr'] at hr
        cases hr
        rw [Progress.step_and ho ha, ih _ hs' hr']
        simp [Progress.conjunction, joinTo]
      | false =>
        rw [parts, Token.splitAtWord_cons ha hr'] at hr
        cases hr
        rw [Progress.step_run ho ha, ih _ hs' hr']
        simp

theorem disjunction_foldl_start (source : Text) (ts : List Token) :
    (ts.foldl (Progress.step source) .start).disjunction source =
      chain or ((segments ts).map (ofSegment source)) := by
  obtain ⟨s, ss, hs⟩ := exists_segments ts
  obtain ⟨r, rs, hr⟩ := exists_parts s
  rw [disjunction_foldl_step source ts .start hs hr, hs]
  simp [Progress.start, joinTo, chain, ofSegment_of_parts hr]

def hasNoOr : Filter → Bool
  | compare _ => true
  | unmatched _ => true
  | and f g => f.hasNoOr && g.hasNoOr
  | or _ _ => false

def hasOrsOutermost : Filter → Bool
  | or f g => f.hasOrsOutermost && g.hasOrsOutermost
  | f => f.hasNoOr

theorem hasOrsOutermost_of_hasNoOr {f : Filter} (h : f.hasNoOr = true) :
    f.hasOrsOutermost = true := by
  cases f with
  | or f g => cases h
  | compare c => rfl
  | unmatched t => rfl
  | and f g => exact h

theorem hasNoOr_ofRun (source : Text) (run : List Token) : (ofRun source run).hasNoOr = true := by
  unfold ofRun
  split <;> rfl

theorem hasNoOr_foldl_and {f : Filter} (hf : f.hasNoOr = true) {fs : List Filter}
    (hfs : ∀ g ∈ fs, g.hasNoOr = true) : (fs.foldl and f).hasNoOr = true := by
  refine List.foldlRecOn (motive := fun f => f.hasNoOr = true) fs and hf ?_
  intro f hf g hg
  rw [hasNoOr, hf, hfs g hg]
  rfl

theorem hasNoOr_ofSegment (source : Text) (s : List Token) :
    (ofSegment source s).hasNoOr = true := by
  obtain ⟨r, rs, hr⟩ := exists_parts s
  rw [ofSegment_of_parts hr]
  refine hasNoOr_foldl_and (hasNoOr_ofRun source r) fun g hg => ?_
  obtain ⟨run, -, rfl⟩ := List.mem_map.1 hg
  exact hasNoOr_ofRun source run

theorem hasOrsOutermost_foldl_or {f : Filter} (hf : f.hasOrsOutermost = true) {fs : List Filter}
    (hfs : ∀ g ∈ fs, g.hasOrsOutermost = true) : (fs.foldl or f).hasOrsOutermost = true := by
  refine List.foldlRecOn (motive := fun f => f.hasOrsOutermost = true) fs or hf ?_
  intro f hf g hg
  rw [hasOrsOutermost, hf, hfs g hg]
  rfl

theorem hasOrsOutermost_chain_or (source : Text) (ts : List Token) :
    (chain or ((segments ts).map (ofSegment source))).hasOrsOutermost = true := by
  obtain ⟨s, ss, hs⟩ := exists_segments ts
  have h : ∀ s, (ofSegment source s).hasOrsOutermost = true :=
    fun s => hasOrsOutermost_of_hasNoOr (hasNoOr_ofSegment source s)
  rw [hs]
  refine hasOrsOutermost_foldl_or (h s) fun g hg => ?_
  obtain ⟨segment, -, rfl⟩ := List.mem_map.1 hg
  exact h segment

theorem flatten_flatMap_parts (ts : List Token) :
    ((segments ts).flatMap parts).flatten =
      ts.filter fun t => !t.isWord "or".toList && !t.isWord "and".toList := by
  have hp : ∀ ss : List (List Token),
      (ss.flatMap parts).flatten = ss.flatten.filter fun t => !t.isWord "and".toList := by
    intro ss
    induction ss with
    | nil => rfl
    | cons s ss ih =>
      rw [List.flatMap_cons, List.flatten_append, ih, List.flatten_cons, List.filter_append, parts,
        Token.flatten_splitAtWord]
  rw [hp, segments, Token.flatten_splitAtWord, List.filter_filter]
  simp only [Bool.and_comm]

/-- What a filter without `and` and `or` asks of a row: text that is no comparison asks nothing, and
a comparison is with the cell in the first column of its name, which a short row has empty. -/
def LeafHolds (schema : Schema) (row : Row) : Filter → Prop
  | compare c => ∃ i, schema.IsFirstColumn c.column i ∧
      c.relation.Relates (row[i]?.getD []) c.literal
  | unmatched _ => True
  | and _ _ => False
  | or _ _ => False

theorem holds_ofRun_iff (schema : Schema) (row : Row) (source : Text) (run : List Token) :
    (ofRun source run).holds schema row = true ↔ LeafHolds schema row (ofRun source run) := by
  unfold ofRun
  split
  · rename_i c _
    simp only [holds_compare, Comparison.holds, LeafHolds, ← Schema.find?_eq_some_iff,
      ← Relation.holds_iff_relates]
    cases schema.find? c.column <;> simp [Schema.cell]
  · simp [LeafHolds]

theorem holds_foldl_and (schema : Schema) (row : Row) (f : Filter) (fs : List Filter) :
    (fs.foldl and f).holds schema row = (f :: fs).all fun g => g.holds schema row := by
  induction fs generalizing f with
  | nil => simp
  | cons g gs ih => simp [ih, Bool.and_assoc]

theorem holds_foldl_or (schema : Schema) (row : Row) (f : Filter) (fs : List Filter) :
    (fs.foldl or f).holds schema row = (f :: fs).any fun g => g.holds schema row := by
  induction fs generalizing f with
  | nil => simp
  | cons g gs ih => simp [ih, Bool.or_assoc]

theorem holds_ofSegment_iff (schema : Schema) (row : Row) (source : Text) (s : List Token) :
    (ofSegment source s).holds schema row = true ↔
      ∀ part ∈ parts s, LeafHolds schema row (ofRun source part) := by
  obtain ⟨r, rs, hr⟩ := exists_parts s
  rw [ofSegment_of_parts hr, holds_foldl_and, hr, ← List.map_cons, List.all_map, List.all_eq_true]
  exact forall₂_congr fun part _ => holds_ofRun_iff schema row source part

theorem holds_chain_or_iff (schema : Schema) (row : Row) (source : Text) (ts : List Token) :
    (chain or ((segments ts).map (ofSegment source))).holds schema row = true ↔
      ∃ s ∈ segments ts, ∀ part ∈ parts s, LeafHolds schema row (ofRun source part) := by
  obtain ⟨s, ss, hs⟩ := exists_segments ts
  rw [hs, List.map_cons, chain, holds_foldl_or, ← List.map_cons, List.any_map, List.any_eq_true]
  exact exists_congr fun s => and_congr_right' (holds_ofSegment_iff schema row source s)

theorem parse_eq_ok_iff {t : Text} {f : Filter} :
    parse t = .ok f ↔
      ∃ ts, Token.scan t = .ok ts ∧ body ts ≠ [] ∧
        chain or ((segments (body ts)).map (ofSegment t)) = f := by
  unfold parse ofTokens
  cases Token.scan t with
  | error e => simp
  | ok ts => by_cases hb : body ts = [] <;> simp [hb, disjunction_foldl_start]

/-- The filter that a text is. Without one leading `where` its tokens are split at the `or`s and
each segment at the `and`s, no other token is lost, and what the runs in between are by themselves
is joined from the left, first by `and`, then by `or`. A row passes when one segment has no part
that stops it. -/
theorem parse_structure {t : Text} {f : Filter} (h : parse t = .ok f) :
    ∃ ts, Token.scan t = .ok ts ∧
      f = chain or ((segments (body ts)).map fun s => chain and ((parts s).map (ofRun t))) ∧
      ((segments (body ts)).flatMap parts).flatten =
        (body ts).filter (fun x => !x.isWord "or".toList && !x.isWord "and".toList) ∧
      f.hasOrsOutermost = true ∧
      ∀ schema row, f.holds schema row = true ↔
        ∃ s ∈ segments (body ts), ∀ part ∈ parts s, LeafHolds schema row (ofRun t part) := by
  obtain ⟨ts, hs, -, rfl⟩ := parse_eq_ok_iff.1 h
  exact ⟨ts, hs, rfl, flatten_flatMap_parts (body ts), hasOrsOutermost_chain_or t (body ts),
    fun schema row => holds_chain_or_iff schema row t (body ts)⟩

/-- A part before an `or` is empty, the numbers are compared as such, and the row has no cell for
the last comparison. -/
theorem parse_structure_empty_part :
    let t := "where A > 9 AND or a <= 2 and b = ''".toList
    let f := or (and (compare ⟨['A'], .gt, ['9']⟩) (unmatched []))
      (and (compare ⟨['a'], .le, ['2']⟩) (compare ⟨['b'], .eq, []⟩))
    let schema : Schema := ⟨[['a'], ['b']]⟩
    parse t = .ok f ∧ ∃ ts, Token.scan t = .ok ts ∧
      f = chain or ((segments (body ts)).map fun s => chain and ((parts s).map (ofRun t))) ∧
      ((segments (body ts)).flatMap parts).flatten =
        (body ts).filter (fun x => !x.isWord "or".toList && !x.isWord "and".toList) ∧
      f.hasOrsOutermost = true ∧
      (∃ s ∈ segments (body ts), ∀ part ∈ parts s,
        LeafHolds schema [['1', '0']] (ofRun t part)) ∧
      (∃ s ∈ segments (body ts), ∀ part ∈ parts s, LeafHolds schema [['2']] (ofRun t part)) ∧
      ¬∃ s ∈ segments (body ts), ∀ part ∈ parts s, LeafHolds schema [['9']] (ofRun t part) := by
  intro t f schema
  have h : parse t = .ok f := by decide +kernel
  obtain ⟨ts, hts, hf, hparts, hors, hholds⟩ := parse_structure h
  have hten : f.holds schema [['1', '0']] = true := by decide +kernel
  have htwo : f.holds schema [['2']] = true := by decide +kernel
  have hnine : ¬f.holds schema [['9']] = true := by decide +kernel
  exact ⟨h, ts, hts, hf, hparts, hors, (hholds schema _).1 hten, (hholds schema _).1 htwo,
    mt (hholds schema _).2 hnine⟩

end Filter

end Textbase
