import Textbase.Proofs.Filter.Comparison
import Textbase.Proofs.Filter.Structure
import Textbase.Proofs.Token.Recasing

/-! The words of a filter that count in either case: one leading `where`, every `and` and every
`or`. A filter is not changed when letters of these words change their case, and everything else of
it is cut out of the text as it is written there. -/
namespace Textbase

namespace Filter

open Token

variable {source other : Text} {ts us ks run condition : List Token} {x : Token}

def joins (x : Token) : Bool := x.isWord "or".toList || x.isWord "and".toList

def runs (ts : List Token) : List (List Token) := (segments ts).flatMap parts

/-- One leading `where` of a condition, and all words that join its runs. -/
def keywords (condition : List Token) : List Token :=
  (condition.take 1).filter (·.isWord "where".toList) ++ (body condition).filter joins

theorem joins_of_mem_runs (h : run ∈ runs ts) : ∀ x ∈ run, joins x = false := by
  intro x hx
  have hm : x ∈ (runs ts).flatten := List.mem_flatten_of_mem h hx
  rw [runs, flatten_flatMap_parts, List.mem_filter, Bool.and_eq_true, Bool.not_eq_true',
    Bool.not_eq_true'] at hm
  rw [joins, hm.2.1, hm.2.2]
  rfl

theorem infix_of_mem_runs (h : run ∈ runs ts) : run <:+: ts := by
  obtain ⟨s, hs, hr⟩ := List.mem_flatMap.1 h
  exact (infix_of_mem_splitOnP hr).trans (infix_of_mem_splitOnP hs)

theorem suffix_body (condition : List Token) : body condition <:+ condition := by
  cases condition with
  | nil => exact List.suffix_rfl
  | cons x condition =>
    rw [body]
    split
    · exact List.suffix_cons x condition
    · exact List.suffix_rfl

theorem keywords_subset (condition : List Token) : keywords condition ⊆ condition := by
  refine List.append_subset.2 ⟨?_, ?_⟩
  · exact List.Subset.trans (List.filter_subset_self _) (List.take_subset 1 condition)
  · exact List.Subset.trans (List.filter_subset_self _) (suffix_body condition).subset

theorem not_mem_keywords (hn : condition.Nodup) (hx : x ∈ body condition)
    (hj : joins x = false) : x ∉ keywords condition := by
  rw [keywords, List.mem_append, List.mem_filter, List.mem_filter, not_or]
  refine ⟨?_, fun h => by rw [hj] at h; cases h.2⟩
  rintro ⟨hfirst, hw⟩
  cases condition with
  | nil => cases hfirst
  | cons y condition =>
    obtain rfl := List.mem_singleton.1 hfirst
    rw [body, if_pos hw] at hx
    exact (List.nodup_cons.1 hn).1 hx

theorem ofRun_congr (h : ∀ r, r <:+: run → sourceText other r = sourceText source r) :
    ofRun other run = ofRun source run := by
  have hc : comparison? other run = comparison? source run := by
    unfold comparison?
    cases hs : splitAtRelation? run with
    | none => rfl
    | some s =>
      obtain ⟨before, r, after⟩ := s
      obtain ⟨⟨start, rfl⟩, -⟩ := splitAtRelation?_eq_some_iff.1 hs
      have hafter := h after
        ((List.suffix_cons _ after).trans (List.suffix_append before _)).isInfix
      simp only [Option.bind_eq_bind, Option.bind_some, hafter]
  unfold ofRun
  rw [hc, h run List.infix_rfl]

theorem map_parts_segments (h : List.Forall₂ (Agrees ks) ts us)
    (hout : ∀ x ∈ ts, joins x = false → x ∉ ks) :
    (segments ts).map parts = (segments us).map parts := by
  induction h with
  | nil => rfl
  | @cons x y ts us hxy _ ih =>
    obtain ⟨hx, hlater⟩ := List.forall_mem_cons.1 hout
    have ih := ih hlater
    obtain ⟨s, ss, hs⟩ := exists_segments ts
    obtain ⟨s', ss', hs'⟩ := exists_segments us
    rw [hs, hs', List.map_cons, List.map_cons, List.cons.injEq] at ih
    cases ho : x.isWord "or".toList with
    | true =>
      rw [segments, segments, splitAtWord_cons_of_isWord ho,
        splitAtWord_cons_of_isWord (hxy.isWord_eq _ ▸ ho), ← segments, ← segments, hs, hs']
      simp only [List.map_cons, ih]
    | false =>
      rw [segments, segments, splitAtWord_cons ho hs, splitAtWord_cons (hxy.isWord_eq _ ▸ ho) hs',
        List.map_cons, List.map_cons, ih.2]
      cases ha : x.isWord "and".toList with
      | true =>
        rw [parts, parts, splitAtWord_cons_of_isWord ha,
          splitAtWord_cons_of_isWord (hxy.isWord_eq _ ▸ ha), ← parts, ← parts, ih.1]
      | false =>
        obtain rfl := hxy.eq_of_not_mem (hx (by rw [joins, ho, ha]; rfl))
        obtain ⟨r, rs, hr⟩ := exists_parts s
        rw [parts, parts, splitAtWord_cons ha hr, splitAtWord_cons ha (ih.1 ▸ hr)]

/-- A condition keeps its filter when its keywords change their case, and no other tokens do. -/
theorem ofTokens_recased (h : List.Forall₂ (Agrees ks) ts us)
    (hout : ∀ x ∈ body ts, joins x = false → x ∉ ks)
    (hcover : ∀ run ∈ runs (body ts), ∀ r, r <:+: run → sourceText other r = sourceText source r) :
    ofTokens other us = ofTokens source ts := by
  have hbody : List.Forall₂ (Agrees ks) (body ts) (body us) := by
    cases h with
    | nil => exact .nil
    | @cons x y _ _ hxy hlater =>
      rw [body, body, ← hxy.isWord_eq]
      split
      · exact hlater
      · exact .cons hxy hlater
  have hempty : (body us).isEmpty = (body ts).isEmpty := by
    have hl := hbody.length_eq
    cases ht : body ts <;> cases hu : body us <;> simp_all
  have hparts := map_parts_segments hbody hout
  have hsegments : ∀ (source : Text) (ts : List Token), (segments ts).map (ofSegment source) =
      ((segments ts).map parts).map fun ps => chain and (ps.map (ofRun source)) := by
    intro source ts
    rw [List.map_map]
    rfl
  have hread : (segments (body us)).map (ofSegment other) =
      (segments (body ts)).map (ofSegment source) := by
    rw [hsegments, ← hparts, hsegments]
    refine List.map_congr_left fun ps hps => ?_
    obtain ⟨s, hs, rfl⟩ := List.mem_map.1 hps
    refine congrArg (chain and) (List.map_congr_left fun run hr => ?_)
    exact ofRun_congr (hcover run (List.mem_flatMap.2 ⟨s, hs, hr⟩))
  rw [ofTokens, ofTokens, hempty, disjunction_foldl_start, disjunction_foldl_start, hread]

def atoms : Filter → List Filter
  | and f g => f.atoms ++ g.atoms
  | or f g => f.atoms ++ g.atoms
  | f => [f]

theorem atoms_foldl {join : Filter → Filter → Filter}
    (hjoin : ∀ f g, (join f g).atoms = f.atoms ++ g.atoms) (f : Filter) (fs : List Filter) :
    (fs.foldl join f).atoms = (f :: fs).flatMap atoms := by
  induction fs generalizing f with
  | nil => simp
  | cons g fs ih => rw [List.foldl_cons, ih, List.flatMap_cons, hjoin, List.append_assoc]; rfl

theorem atoms_ofRun (source : Text) (run : List Token) :
    (ofRun source run).atoms = [ofRun source run] := by
  unfold ofRun
  split <;> rfl

theorem atoms_ofSegment (source : Text) (s : List Token) :
    (ofSegment source s).atoms = (parts s).map (ofRun source) := by
  obtain ⟨r, rs, hr⟩ := exists_parts s
  rw [ofSegment_of_parts hr, atoms_foldl (fun _ _ => rfl), hr, ← List.map_cons, List.flatMap_map]
  simp only [atoms_ofRun, List.map_eq_flatMap]

theorem atoms_of_ofTokens {f : Filter} (h : ofTokens source ts = .ok f) :
    f.atoms = (runs (body ts)).map (ofRun source) := by
  unfold ofTokens at h
  split at h
  · cases h
  · rw [disjunction_foldl_start] at h
    cases h
    obtain ⟨s, ss, hs⟩ := exists_segments (body ts)
    rw [runs, hs, List.map_cons, chain, atoms_foldl (fun _ _ => rfl), ← List.map_cons,
      List.flatMap_map, List.map_flatMap]
    simp only [atoms_ofSegment]

theorem forall₂_reads_atoms {f : Filter} (hs : scan source = .ok us) (hts : ts.Sublist us)
    (h : ofTokens source ts = .ok f) :
    List.Forall₂ (fun run g => Reads source run NoRelation g) (runs (body ts)) f.atoms := by
  rw [atoms_of_ofTokens h, List.forall₂_map_right_iff, List.forall₂_same]
  intro run hr
  refine (ofRun_eq_iff hs ?_).1 rfl
  exact (infix_of_mem_runs hr).sublist.trans ((suffix_body ts).sublist.trans hts)

end Filter

end Textbase
