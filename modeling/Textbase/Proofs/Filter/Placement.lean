import Textbase.Proofs.Filter.Structure
import Textbase.Proofs.Token.Scan

/-! A filter does not depend on where its text stands. Tokens that lie in a text give the same
filter after the text was put into a longer one and they were moved along. -/
namespace Textbase

namespace Token

theorem mem_of_mem_splitAtWord {k : Text} {ts s : List Token} {x : Token}
    (hs : s ∈ splitAtWord k ts) (hx : x ∈ s) : x ∈ ts :=
  mem_of_mem_splitOnP hs hx

theorem splitAtWord_map_shift (n : Nat) (k : Text) (ts : List Token) :
    splitAtWord k (ts.map (shift n)) = (splitAtWord k ts).map (List.map (shift n)) :=
  splitOnP_map_shift n (fun x => isWord_shift n x k) ts

end Token

namespace Filter

open Token

theorem splitAtRelation?_map_shift (n : Nat) (ts : List Token) :
    splitAtRelation? (ts.map (shift n)) =
      (splitAtRelation? ts).map fun (before, r, after) =>
        (before.map (shift n), r, after.map (shift n)) := by
  induction ts with
  | nil => rfl
  | cons t ts ih =>
    rw [List.map_cons]
    unfold splitAtRelation?
    rw [lexeme_shift, ih]
    split
    · rfl
    · cases splitAtRelation? ts <;> rfl

theorem mem_of_splitAtRelation? {ts before after : List Token} {r : Relation}
    (h : splitAtRelation? ts = some (before, r, after)) {x : Token} (hx : x ∈ after) : x ∈ ts := by
  induction ts generalizing before with
  | nil => cases h
  | cons t ts ih =>
    unfold splitAtRelation? at h
    split at h
    · cases h
      exact List.mem_cons_of_mem t hx
    · obtain ⟨⟨before', r', after'⟩, h', he⟩ := Option.map_eq_some_iff.1 h
      cases he
      exact List.mem_cons_of_mem t (ih h')

variable {s : Text} {ts : List Token} (h : ∀ x ∈ ts, LiesIn s x) (before after : Text)
include h

theorem comparison?_shift :
    comparison? (before ++ s ++ after) (ts.map (shift (Text.byteLength before))) =
      comparison? s ts := by
  unfold comparison?
  rw [splitAtRelation?_map_shift]
  cases hs : splitAtRelation? ts with
  | none => rfl
  | some split =>
    obtain ⟨left, r, right⟩ := split
    have hr := sourceText_shift (fun x hx => h x (mem_of_splitAtRelation? hs hx)) before after
    have hl : (left.map (shift (Text.byteLength before))).getLast?.bind trailingName? =
        left.getLast?.bind trailingName? := by
      rw [List.getLast?_map, Option.bind_map]
      rfl
    simp only [Option.map_some, Option.bind_eq_bind, Option.bind_some, hl, hr, List.isEmpty_map]

theorem ofRun_shift :
    ofRun (before ++ s ++ after) (ts.map (shift (Text.byteLength before))) = ofRun s ts := by
  unfold ofRun
  rw [comparison?_shift h, sourceText_shift h]

theorem map_ofRun_parts_shift :
    (parts (ts.map (shift (Text.byteLength before)))).map (ofRun (before ++ s ++ after)) =
      (parts ts).map (ofRun s) := by
  rw [parts, splitAtWord_map_shift, List.map_map]
  refine List.map_congr_left fun part hp => ?_
  exact ofRun_shift (fun x hx => h x (mem_of_mem_splitAtWord hp hx)) before after

theorem ofSegment_shift :
    ofSegment (before ++ s ++ after) (ts.map (shift (Text.byteLength before))) =
      ofSegment s ts := by
  rw [ofSegment, map_ofRun_parts_shift h, ofSegment]

omit h in
theorem body_map_shift (n : Nat) (ts : List Token) :
    body (ts.map (shift n)) = (body ts).map (shift n) := by
  cases ts with
  | nil => rfl
  | cons t ts =>
    rw [List.map_cons, body, body, isWord_shift]
    split <;> rfl

omit h in
theorem mem_of_mem_body {x : Token} (hx : x ∈ body ts) : x ∈ ts := by
  cases ts with
  | nil => exact hx
  | cons t ts =>
    rw [body] at hx
    split at hx
    · exact List.mem_cons_of_mem t hx
    · exact hx

/-- Tokens that lie in a text are the same filter when the text is part of a longer one. -/
theorem ofTokens_shift :
    ofTokens (before ++ s ++ after) (ts.map (shift (Text.byteLength before))) = ofTokens s ts := by
  have hs : (segments ((body ts).map (shift (Text.byteLength before)))).map
      (ofSegment (before ++ s ++ after)) = (segments (body ts)).map (ofSegment s) := by
    rw [segments, splitAtWord_map_shift, List.map_map]
    refine List.map_congr_left fun segment hm => ?_
    exact ofSegment_shift
      (fun x hx => h x (mem_of_mem_body (mem_of_mem_splitAtWord hm hx))) before after
  simp only [ofTokens, body_map_shift, List.isEmpty_map, disjunction_foldl_start, hs]

end Filter

end Textbase
