import Textbase.Proofs.Filter.Comparison
import Textbase.Proofs.Filter.Structure
import Textbase.Proofs.Guarded.Value

/-! Filters read by position. A run of tokens is looked up in the list by where it starts and ends,
a comparison by where its relation stands, and text is cut out of the source by the offsets of the
tokens. Nothing is looked up or cut where there is nothing. -/
namespace Textbase

namespace Token

def relation? (t : Token) : Option Relation :=
  match t.lexeme with
  | .relation r => some r
  | _ => none

theorem findIdx?_relation (run : List Token) :
    run.findIdx? (fun t => t.relation?.isSome) =
      (Filter.splitAtRelation? run).map fun (before, _, _) => before.length := by
  induction run with
  | nil => rfl
  | cons t run ih =>
    rw [List.findIdx?_cons, ih, relation?, Filter.splitAtRelation?]
    cases t.lexeme <;> simp [Function.comp_def]

/-- No token is two words that differ by more than case. -/
theorem isWord_eq_false {t : Token} {k l : Text} (hk : t.isWord k = true)
    (h : Text.foldAscii k ≠ Text.foldAscii l) : t.isWord l = false := by
  unfold isWord at hk ⊢
  split
  · rename_i w hw
    rw [hw] at hk
    rw [Bool.eq_false_iff]
    intro hl
    exact h ((Text.sameFolded_iff.1 hk).symm.trans (Text.sameFolded_iff.1 hl))
  · rfl

def isOneOf (ks : List Text) (t : Token) : Bool := ks.any t.isWord

end Token

namespace Guarded

open Token (isOneOf splitAtWord)

def sourceText (source : Text) (run : List Token) : Guarded Text :=
  match run.head?, run.getLast? with
  | some a, some b => slice source a.start b.stop
  | _, _ => pure []

theorem sourceText_of_covers {source s : Text} {run : List Token} (h : Token.Covers source run s) :
    sourceText source run = .ok s := by
  unfold sourceText
  cases ha : run.head? <;> cases hb : run.getLast? <;> simp only [Token.Covers, ha, hb] at h ⊢
  case some.some => exact slice_eq_ok h
  all_goals
    rw [h]
    rfl

variable {source : Text} {all ts run s p : List Token} {k : Text} {ks : List Text} {i : Nat}

/-- Offsets of tokens of one text, the later ones last, lie between its characters. -/
theorem sourceText_eq (h : Token.scan source = .ok all) (hr : run.Sublist all) :
    sourceText source run = .ok (Token.sourceText source run) := by
  obtain ⟨s, hs, -⟩ := Token.exists_covers h hr
  rw [sourceText_of_covers hs, hs.sourceText_eq]

/-- The name at the end of the token before position `k`, if there is one. -/
def columnBefore (run : List Token) : Nat → Guarded (Option Text)
  | 0 => pure none
  | k + 1 => do
    let t ← item run k
    pure (Filter.trailingName? t)

theorem columnBefore_append (before after : List Token) :
    columnBefore (before ++ after) before.length =
      .ok (before.getLast?.bind Filter.trailingName?) := by
  obtain rfl | ⟨before, t, rfl⟩ := List.eq_nil_or_concat' before
  · rfl
  · rw [List.length_append, List.length_singleton, columnBefore, List.append_assoc,
      List.singleton_append, item_append, List.getLast?_concat]
    rfl

/-- As `Filter.comparison?`, by the position of the first relation. -/
def comparison? (source : Text) (run : List Token) : Guarded (Option Comparison) :=
  match run.findIdx? fun t => t.relation?.isSome with
  | none => pure none
  | some k => do
    let column ← columnBefore run k
    let t ← item run k
    match column, t.relation? with
    | some column, some r =>
      if k + 1 < run.length then do
        let after ← itemsFrom run (k + 1)
        let covered ← sourceText source after
        let literal ← unquote (Text.trim covered)
        pure (some ⟨column, r, literal⟩)
      else pure none
    | _, _ => pure none

theorem comparison?_eq (h : Token.scan source = .ok all) (hr : run.Sublist all) :
    comparison? source run = .ok (Filter.comparison? source run) := by
  rw [comparison?, Token.findIdx?_relation, Filter.comparison?]
  cases hs : Filter.splitAtRelation? run with
  | none => rfl
  | some parts =>
    obtain ⟨before, r, after⟩ := parts
    obtain ⟨⟨start, rfl⟩, -⟩ := Filter.splitAtRelation?_eq_some_iff.1 hs
    have hafter : itemsFrom (before ++ ⟨.relation r, start⟩ :: after) (before.length + 1) =
        .ok after := by
      have he := itemsFrom_append (before ++ [⟨.relation r, start⟩]) after
      rwa [List.append_assoc, List.singleton_append, List.length_append,
        List.length_singleton] at he
    have hcovered := sourceText_eq h ((Filter.sublist_after rfl).trans hr)
    simp only [Option.map_some, columnBefore_append, item_append, bind, Except.bind,
      Option.bind_some]
    cases before.getLast?.bind Filter.trailingName? with
    | none => rfl
    | some column =>
      cases after with
      | nil => simp [Token.relation?, pure, Except.pure]
      | cons t after =>
        simp [Token.relation?, hafter, hcovered, unquote_eq, pure, Except.pure]

def ofRun (source : Text) (run : List Token) : Guarded Filter := do
  match ← comparison? source run with
  | some c => pure (.compare c)
  | none => do
    let covered ← sourceText source run
    pure (.unmatched covered)

theorem ofRun_eq (h : Token.scan source = .ok all) (hr : run.Sublist all) :
    ofRun source run = .ok (Filter.ofRun source run) := by
  rw [ofRun, comparison?_eq h hr, Filter.ofRun]
  cases Filter.comparison? source run with
  | some c => rfl
  | none =>
    have hcovered := sourceText_eq h hr
    simp only [bind, Except.bind, hcovered]
    rfl

/-- Position from `i` on of the first of the words, or the end. -/
def runEnd (ks : List Text) (ts : List Token) (i : Nat) : Guarded {j // i ≤ j} :=
  if i < ts.length then do
    let t ← item ts i
    if t.isOneOf ks then pure ⟨i, Nat.le_refl i⟩
    else do
      let ⟨j, hj⟩ ← runEnd ks ts (i + 1)
      pure ⟨j, Nat.le_of_succ_le hj⟩
  else pure ⟨i, Nat.le_refl i⟩
termination_by ts.length - i

/-- Reads a filter at a position, and gives the position after it. -/
abbrev Reader := (i : Nat) → Guarded (Filter × {j // i ≤ j})

/-- The filter of the tokens up to the next `and` or `or`. -/
def atom (source : Text) (ts : List Token) : Reader := fun i => do
  let j ← runEnd ["and".toList, "or".toList] ts i
  let run ← items ts i j.1
  let f ← ofRun source run
  pure (f, j)

/-- As long as the word `k` follows, the filter after it is joined to the ones before. -/
def joinedFrom (k : Text) (join : Filter → Filter → Filter) (ts : List Token) (read : Reader)
    (f : Filter) (i : Nat) : Guarded (Filter × {j // i ≤ j}) :=
  if i < ts.length then do
    let t ← item ts i
    if t.isWord k then do
      let ⟨g, j, hj⟩ ← read (i + 1)
      let ⟨joined, l, hl⟩ ← joinedFrom k join ts read (join f g) j
      pure (joined, ⟨l, by omega⟩)
    else pure (f, ⟨i, Nat.le_refl i⟩)
  else pure (f, ⟨i, Nat.le_refl i⟩)
termination_by ts.length - i

def joined (k : Text) (join : Filter → Filter → Filter) (ts : List Token) (read : Reader) :
    Reader := fun i => do
  let ⟨f, j, hj⟩ ← read i
  let ⟨g, l, hl⟩ ← joinedFrom k join ts read f j
  pure (g, ⟨l, hj.trans hl⟩)

def conjunction (source : Text) (ts : List Token) : Reader :=
  joined "and".toList .and ts (atom source ts)

def disjunction (source : Text) (ts : List Token) : Reader :=
  joined "or".toList .or ts (conjunction source ts)

/-- Tokens from position `i` on, none of which is one of the words, up to one of them or up to the
end. -/
structure Stretch (ks : List Text) (ts : List Token) (i : Nat) (s : List Token) : Prop where
  placed : ∃ before after, before ++ s ++ after = ts ∧ before.length = i ∧
    ∀ t ∈ after.head?, t.isOneOf ks = true
  inside : ∀ t ∈ s, t.isOneOf ks = false

namespace Stretch

theorem sublist (h : Stretch ks ts i s) : s.Sublist ts := by
  obtain ⟨before, after, rfl, -⟩ := h.placed
  exact (List.sublist_append_right before s).trans (List.sublist_append_left _ after)

theorem items_eq (h : Stretch ks ts i s) : items ts i (i + s.length) = .ok s := by
  obtain ⟨before, after, rfl, rfl, -⟩ := h.placed
  exact items_append before s after

theorem end_or_item (h : Stretch ks ts i s) :
    ts.length = i + s.length ∨
      i + s.length < ts.length ∧ ∃ t, item ts (i + s.length) = .ok t ∧ t.isOneOf ks = true := by
  obtain ⟨before, after, rfl, rfl, hafter⟩ := h.placed
  rw [← List.length_append]
  cases after with
  | nil => exact .inl (by rw [List.append_nil])
  | cons t after => exact .inr ⟨by simp, t, item_append _ _ _, hafter t rfl⟩

theorem head {t : Token} (h : Stretch ks ts i (t :: s)) :
    i < ts.length ∧ item ts i = .ok t ∧ t.isOneOf ks = false ∧ Stretch ks ts (i + 1) s := by
  obtain ⟨before, after, rfl, rfl, hafter⟩ := h.placed
  obtain ⟨ht, hs⟩ := List.forall_mem_cons.1 h.inside
  rw [List.append_assoc, List.cons_append]
  refine ⟨by simp, item_append _ _ _, ht, ⟨before ++ [t], after, by simp, by simp, hafter⟩, hs⟩

end Stretch

theorem runEnd_eq (h : Stretch ks ts i s) : ∃ j, runEnd ks ts i = .ok j ∧ j.1 = i + s.length := by
  induction s generalizing i with
  | nil =>
    refine ⟨⟨i, Nat.le_refl i⟩, ?_, rfl⟩
    rw [runEnd]
    have hend := h.end_or_item
    simp only [List.length_nil, Nat.add_zero] at hend
    rcases hend with hi | ⟨hi, t, ht, hk⟩
    · rw [if_neg (Nat.not_lt_of_le hi.le)]
      rfl
    · rw [if_pos hi]
      simp only [ht, hk, bind, Except.bind]
      rfl
  | cons t s ih =>
    obtain ⟨hi, ht, hk, hs⟩ := h.head
    obtain ⟨⟨j, hj⟩, hend, rfl⟩ := ih hs
    refine ⟨⟨_, Nat.le_of_succ_le hj⟩, ?_, by simp only [List.length_cons]; omega⟩
    rw [runEnd, if_pos hi]
    simp only [ht, hk, hend, bind, Except.bind]
    rfl

/-- The filter that is read of tokens up to one of the words. -/
def Reads (read : Reader) (ks : List Text) (ts : List Token) (f : List Token → Filter) : Prop :=
  ∀ i s, Stretch ks ts i s → ∃ j, read i = .ok (f s, j) ∧ j.1 = i + s.length

theorem reads_atom (h : Token.scan source = .ok all) (hts : ts.Sublist all) :
    Reads (atom source ts) ["and".toList, "or".toList] ts (Filter.ofRun source) := by
  intro i s hs
  obtain ⟨j, hend, hj⟩ := runEnd_eq hs
  refine ⟨j, ?_, hj⟩
  simp only [atom, hend, hj, hs.items_eq, ofRun_eq h (hs.sublist.trans hts), bind, Except.bind]
  rfl

namespace Stretch

/-- A piece of a stretch goes up to the word `k` or to the end of the stretch. -/
theorem piece {ps : List (List Token)} (h : Stretch ks ts i s) (hs : splitAtWord k s = p :: ps) :
    Stretch (k :: ks) ts i p := by
  obtain ⟨before, after, rfl, rfl, hafter⟩ := h.placed
  have hone : ∀ t, isOneOf (k :: ks) t = (t.isWord k || t.isOneOf ks) := fun _ => rfl
  obtain ⟨hno, ⟨rfl, -⟩ | ⟨t, s', rfl, ht, -⟩⟩ := Token.splitAtWord_eq_cons hs
  · refine ⟨⟨before, after, rfl, rfl, fun t ht => ?_⟩, fun t ht => ?_⟩
    · rw [hone, hafter t ht, Bool.or_true]
    · rw [hone, hno t ht, h.inside t ht]
      rfl
  · refine ⟨⟨before, t :: s' ++ after, by simp, rfl, ?_⟩, fun t ht => ?_⟩
    · simp [hone, ht]
    · rw [hone, hno t ht, h.inside t (List.mem_append_left _ ht)]
      rfl

theorem rest {q : List Token} {ps : List (List Token)} (h : Stretch ks ts i s)
    (hs : splitAtWord k s = p :: q :: ps) :
    i + p.length < ts.length ∧ (∃ t, item ts (i + p.length) = .ok t ∧ t.isWord k = true) ∧
      ∃ s', Stretch ks ts (i + p.length + 1) s' ∧ splitAtWord k s' = q :: ps ∧
        i + p.length + 1 + s'.length = i + s.length := by
  obtain ⟨before, after, rfl, rfl, hafter⟩ := h.placed
  obtain ⟨-, ⟨-, he⟩ | ⟨t, s', rfl, ht, hs'⟩⟩ := Token.splitAtWord_eq_cons hs
  · cases he
  · have hitem := item_append (before ++ p) (s' ++ after) t
    simp only [List.append_assoc, List.length_append] at hitem
    refine ⟨by simp, ⟨t, by simpa using hitem, ht⟩, s', ⟨⟨before ++ p ++ [t], after, by simp,
      by simp [Nat.add_assoc], hafter⟩, fun x hx => h.inside x (by simp [hx])⟩, hs', ?_⟩
    simp only [List.length_append, List.length_cons]
    omega

end Stretch

variable {read : Reader} {f : List Token → Filter}

theorem joinedFrom_eq (join : Filter → Filter → Filter) (hread : Reads read (k :: ks) ts f)
    (hk : ∀ t : Token, t.isOneOf ks = true → t.isWord k = false) {ps : List (List Token)}
    (h : Stretch ks ts i s) (hs : splitAtWord k s = p :: ps) (acc : Filter) :
    ∃ j, joinedFrom k join ts read acc (i + p.length) = .ok ((ps.map f).foldl join acc, j) ∧
      j.1 = i + s.length := by
  induction ps generalizing i s p acc with
  | nil =>
    obtain ⟨-, ⟨rfl, -⟩ | ⟨t, s', -, -, he⟩⟩ := Token.splitAtWord_eq_cons hs
    · refine ⟨⟨_, Nat.le_refl _⟩, ?_, rfl⟩
      rw [joinedFrom]
      rcases h.end_or_item with hi | ⟨hi, t, ht, hstop⟩
      · rw [if_neg (Nat.not_lt_of_le hi.le)]
        rfl
      · rw [if_pos hi]
        simp only [ht, hk t hstop, bind, Except.bind]
        rfl
    · exact absurd he (List.splitOnP_ne_nil _ s')
  | cons q ps ih =>
    obtain ⟨hi, ⟨t, hitem, ht⟩, s', hrest, hs', hlength⟩ := h.rest hs
    obtain ⟨⟨j, hj⟩, hfirst, rfl⟩ := hread _ _ (hrest.piece hs')
    obtain ⟨⟨l, hl⟩, hlater, rfl⟩ := ih hrest hs' (join acc (f q))
    refine ⟨⟨_, ?_⟩, ?_, hlength⟩
    · omega
    · rw [joinedFrom, if_pos hi]
      simp only [hitem, ht, hfirst, hlater, bind, Except.bind, if_true]
      rfl

/-- What is read between the words `k` is joined from the left. -/
theorem reads_joined (join : Filter → Filter → Filter) (hread : Reads read (k :: ks) ts f)
    (hk : ∀ t : Token, t.isOneOf ks = true → t.isWord k = false) :
    Reads (joined k join ts read) ks ts fun s => Filter.chain join ((splitAtWord k s).map f) := by
  intro i s h
  obtain ⟨p, ps, hs⟩ := Token.exists_splitAtWord k s
  obtain ⟨⟨j, hj⟩, hfirst, rfl⟩ := hread i p (h.piece hs)
  obtain ⟨⟨l, hl⟩, hlater, rfl⟩ := joinedFrom_eq join hread hk h hs (f p)
  refine ⟨⟨_, hj.trans hl⟩, ?_, rfl⟩
  simp only [joined, hfirst, hlater, hs, bind, Except.bind, List.map_cons, Filter.chain]
  rfl

theorem reads_conjunction (h : Token.scan source = .ok all) (hts : ts.Sublist all) :
    Reads (conjunction source ts) ["or".toList] ts (Filter.ofSegment source) :=
  reads_joined .and (reads_atom h hts) fun t ht =>
    Token.isWord_eq_false (k := "or".toList) (by simpa [isOneOf] using ht) (by decide)

/-- The list as a whole is a stretch before which and after which there is nothing. -/
theorem disjunction_eq (h : Token.scan source = .ok all) (hts : ts.Sublist all) :
    ∃ j, disjunction source ts 0 =
      .ok (Filter.chain .or ((Filter.segments ts).map (Filter.ofSegment source)), j) := by
  have hread : Reads (disjunction source ts) [] ts fun s =>
      Filter.chain .or ((Filter.segments s).map (Filter.ofSegment source)) :=
    reads_joined .or (reads_conjunction h hts) fun t ht => by cases ht
  obtain ⟨j, hj, -⟩ := hread 0 ts ⟨⟨[], [], by simp, rfl, by simp⟩, fun _ _ => rfl⟩
  exact ⟨j, hj⟩

def body (ts : List Token) : Guarded (List Token) :=
  match ts.head? with
  | some t => if t.isWord "where".toList then itemsFrom ts 1 else pure ts
  | none => pure ts

theorem body_eq (ts : List Token) : body ts = .ok (Filter.body ts) := by
  cases ts with
  | nil => rfl
  | cons t ts =>
    rw [body, List.head?_cons, Filter.body, show itemsFrom (t :: ts) 1 = .ok ts from
      itemsFrom_append [t] ts]
    dsimp only
    split <;> rfl

theorem sublist_body (ts : List Token) : (Filter.body ts).Sublist ts := by
  cases ts with
  | nil => exact List.nil_sublist []
  | cons t ts =>
    rw [Filter.body]
    split
    · exact List.sublist_cons_self t ts
    · exact List.Sublist.refl _

def ofTokens (source : Text) (ts : List Token) : ExceptT Error Guarded Filter := do
  let rest ← liftM (body ts)
  if rest.isEmpty then throw (.malformedFilter .missing)
  else do
    let (f, _) ← liftM (disjunction source rest 0)
    pure f

theorem ofTokens_gives (h : Token.scan source = .ok all) (hts : ts.Sublist all) :
    Gives (ofTokens source ts) (Filter.ofTokens source ts) := by
  obtain ⟨j, hj⟩ := disjunction_eq h ((sublist_body ts).trans hts)
  rw [← Filter.disjunction_foldl_start] at hj
  refine .lift_bind (body_eq ts) ?_
  rw [Filter.ofTokens]
  split
  · exact .throw _
  · exact .lift_bind hj (.pure _)

def parseFilter (t : Text) : ExceptT Error Guarded Filter :=
  match Token.scan t with
  | .error e => throw (.malformedFilter (.unclosedQuote e))
  | .ok ts => ofTokens t ts

theorem parseFilter_gives (t : Text) : Gives (parseFilter t) (Filter.parse t) := by
  rw [parseFilter, Filter.parse]
  cases h : Token.scan t with
  | error e => exact .throw _
  | ok ts => exact ofTokens_gives h (List.Sublist.refl ts)

def accepts (columns : List Text) (row : Row) (t : Text) : ExceptT Error Guarded Bool :=
  Filter.holds ⟨columns⟩ row <$> parseFilter t

theorem accepts_gives (columns : List Text) (row : Row) (t : Text) :
    Gives (accepts columns row t) (Filter.accepts columns row t) :=
  (parseFilter_gives t).map _

end Guarded

end Textbase
