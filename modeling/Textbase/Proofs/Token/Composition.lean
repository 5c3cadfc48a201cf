import Textbase.Proofs.Token.Order

/-! Texts that are put together and texts that are taken apart. Whitespace between two texts keeps
their tokens apart, and so does a comma. The other way round, the comma that ends the first item of
a list leaves two texts that can be read by themselves, so a list is cut at its commas and each of
its items is, by itself, a list of that one item. -/
namespace Textbase

namespace Lexeme

variable {c : Char} {t b r : Text} {x : Lexeme}

theorem exists_quoted_of_read (hq : Value.isQuote c = true) (h : read c t = .ok (x, r)) :
    ∃ body, x = quoted c body := by
  obtain ⟨hcomma, hstar⟩ := ne_separators_of_isQuote hq
  rw [read, if_neg hcomma, if_neg hstar, if_pos hq] at h
  split at h
  · cases h
  · cases h
    exact ⟨_, rfl⟩

theorem read_of_append (h : read c (t ++ b) = .ok (x, r ++ b)) (hb : Delimits b) :
    read c t = .ok (x, r) := by
  cases hr : read c t with
  | error e =>
    -- The quote would be closed in the longer text only, but what is read ends before that.
    obtain ⟨hq, hopen, -⟩ := read_eq_error_iff.1 hr
    obtain ⟨body, rfl⟩ := exists_quoted_of_read hq h
    have hs := source_append_of_read h
    rw [← List.append_assoc, ← List.cons_append, List.append_cancel_right_eq] at hs
    have ht : body ++ [c] ++ r = t := (List.cons.inj hs).2
    exact absurd (by simp [← ht]) hopen
  | ok y =>
    obtain ⟨x', r'⟩ := y
    have hread := read_append hr hb
    rw [h, Except.ok.injEq, Prod.mk.injEq] at hread
    obtain ⟨rfl, he⟩ := hread
    rw [List.append_cancel_right he]

end Lexeme

namespace Token

variable {u : Text} {pos : Nat} {ts : List Token}

/-- Whitespace between two texts keeps their tokens apart: first come the tokens of the one, then
those of the other, as much further on as there are bytes before it. If the other one has a quote
that is never closed, so has the whole. -/
theorem scan_append_spaces {a w : Text} (ha : scan a = .ok ts) (hne : w ≠ [])
    (hw : ∀ c ∈ w, Text.isSpace c = true) (b : Text) :
    scan (a ++ w ++ b) =
      (scan b).map fun us => ts ++ us.map (shift (Text.byteLength (a ++ w))) := by
  have hd : Lexeme.Delimits (w ++ b) := by
    obtain ⟨c, w, rfl⟩ := List.exists_cons_of_ne_nil hne
    exact Lexeme.delimits_of_opensBlank (Text.opensBlank_cons (hw c List.mem_cons_self) _)
  rw [scan] at ha
  rw [List.append_assoc, scan, scanFrom_append ha hd, scanFrom_spaces hw, Nat.zero_add,
    ← Text.byteLength_append, scanFrom_eq_scan]
  cases scan b <;> rfl

/-- Without the gap the exclamation mark would become part of a relation symbol, and the quote part
of the word. -/
theorem scan_append_spaces_mark :
    let a := "it's!".toList
    let w := "\u3000 ".toList
    scan a = .ok [⟨.word a, 0⟩] ∧ w ≠ [] ∧ (∀ c ∈ w, Text.isSpace c = true) ∧
      scan (a ++ w ++ "= é".toList) =
        .ok [⟨.word a, 0⟩, ⟨.relation .eq, 9⟩, ⟨.word ['é'], 11⟩] ∧
      scan (a ++ w ++ "'é".toList) = .error ⟨'\''⟩ := by
  intro a w
  have ha : scan a = .ok [⟨.word a, 0⟩] := by decide +kernel
  have hne : w ≠ [] := by decide
  have hw : ∀ c ∈ w, Text.isSpace c = true := List.all_eq_true.1 (by decide)
  have hequals : scan "= é".toList = .ok [⟨.relation .eq, 0⟩, ⟨.word ['é'], 2⟩] := by
    decide +kernel
  have hquote : scan "'é".toList = .error ⟨'\''⟩ := by decide +kernel
  refine ⟨ha, hne, hw, ?_, ?_⟩
  · rw [scan_append_spaces ha hne hw, hequals]
    decide +kernel
  · rw [scan_append_spaces ha hne hw, hquote]
    rfl

theorem exists_scan_of_scanFrom (h : scanFrom pos u = .ok ts) :
    ∃ us, scan u = .ok us ∧ us.map (shift pos) = ts := by
  rw [scanFrom_eq_scan] at h
  cases hu : scan u with
  | error e =>
    rw [hu] at h
    cases h
  | ok us =>
    rw [hu] at h
    cases h
    exact ⟨us, rfl, rfl⟩

theorem exists_suffix_of_scanFrom {xs ys : List Token} (h : scanFrom pos u = .ok (xs ++ ys)) :
    ∃ front back, front ++ back = u ∧ scanFrom (pos + Text.byteLength front) back = .ok ys := by
  induction xs generalizing pos u with
  | nil => exact ⟨[], u, rfl, h⟩
  | cons x xs ih =>
    obtain ⟨gap, c, t, r, rfl, -, -, hr, hstart, hlater⟩ := exists_of_scanFrom_cons h
    obtain ⟨front, back, rfl, hback⟩ := ih hlater
    refine ⟨gap ++ (x.lexeme.source ++ front), back, ?_, ?_⟩
    · rw [← Lexeme.source_append_of_read hr]
      simp only [List.append_assoc]
    · rwa [Text.byteLength_append, Text.byteLength_append, ← Nat.add_assoc, ← Nat.add_assoc,
        hstart, ← stop]

theorem exists_scan_of_no_quote (h : ∀ c ∈ u, Value.isQuote c = false) (pos : Nat) :
    ∃ ts, scanFrom pos u = .ok ts := by
  induction u using scan_induction generalizing pos with
  | nil => exact ⟨[], scanFrom_nil pos⟩
  | space c t hc ih =>
    rw [scanFrom_space hc]
    exact ih (fun d hd => h d (List.mem_cons_of_mem c hd)) _
  | error c t e hc he =>
    have hq := (Lexeme.read_eq_error_iff.1 he).1
    rw [h c List.mem_cons_self] at hq
    cases hq
  | read c t x r hc hr ih =>
    rw [← Lexeme.source_append_of_read hr] at h
    obtain ⟨later, hl⟩ := ih (fun d hd => h d (List.mem_append_right _ hd)) _
    exact ⟨_, (scanFrom_read_eq_ok_iff hc hr).2 ⟨later, hl, rfl⟩⟩

theorem exists_append_of_getLast? {y : Token} (h : scanFrom pos u = .ok ts)
    (hy : ts.getLast? = some y) :
    ∃ m after, m ++ after = u ∧ pos + Text.byteLength m = y.stop ∧
      ∀ c ∈ after, Text.isSpace c = true := by
  induction ts generalizing pos u with
  | nil => cases hy
  | cons x ts ih =>
    obtain ⟨before, c, t, r, rfl, -, -, hr, hstart, hlater⟩ := exists_of_scanFrom_cons h
    have hstop : pos + Text.byteLength (before ++ x.lexeme.source) = x.stop := by
      rw [Text.byteLength_append, ← Nat.add_assoc, hstart, stop]
    rw [← Lexeme.source_append_of_read hr]
    cases ts with
    | nil =>
      cases hy
      exact ⟨before ++ x.lexeme.source, r, List.append_assoc .., hstop,
        isSpace_of_scanFrom_nil hlater⟩
    | cons z ts =>
      rw [List.getLast?_cons_cons] at hy
      obtain ⟨m, after, rfl, hm, hspaces⟩ := ih hlater hy
      refine ⟨before ++ x.lexeme.source ++ m, after, by simp only [List.append_assoc], ?_, hspaces⟩
      rw [Text.byteLength_append, ← Nat.add_assoc, hstop, hm]

/-- All the tokens of a text cover it, but for the whitespace at either end. -/
theorem sourceText_of_scan (h : scan u = .ok ts) : sourceText u ts = Text.trim u := by
  obtain ⟨s, hs, htrimmed, hnil⟩ := exists_covers h (List.Sublist.refl ts)
  rw [hs.sourceText_eq]
  cases ts with
  | nil => rw [Text.trim_of_spaces (isSpace_of_scanFrom_nil h), show s = [] from hs]
  | cons x ts =>
    obtain ⟨y, hy⟩ : ∃ y, (x :: ts).getLast? = some y :=
      ⟨_, List.getLast?_eq_some_getLast (List.cons_ne_nil x ts)⟩
    rw [Covers, List.head?_cons, hy] at hs
    obtain ⟨before, after, hu, hstart, hstop⟩ := Text.slice?_eq_some_iff.1 hs
    obtain ⟨gap, c, t, -, hgap, hspaces, -, -, hx, -⟩ := exists_of_scanFrom_cons h
    obtain ⟨m, rest, hm, hlast, hrest⟩ := exists_append_of_getLast? h hy
    rw [Nat.zero_add] at hx hlast
    have hfront : before ++ (s ++ after) = gap ++ c :: t := by
      rw [hgap, ← List.append_assoc, hu]
    have hback : before ++ s ++ after = m ++ rest := hu.trans hm.symm
    obtain ⟨rfl, -⟩ := Text.append_inj_of_byteLength hfront (hstart.trans hx.symm)
    obtain ⟨-, rfl⟩ := Text.append_inj_of_byteLength hback (by
      rw [Text.byteLength_append, hstop, hlast])
    rw [← hu, Text.trim_append_spaces hspaces htrimmed (fun he => by cases hnil he) hrest]

/-- A text with a comma among its tokens is cut by the first one into texts that can be read. -/
theorem exists_cut_of_scanFrom (h : scanFrom pos u = .ok ts) :
    (∀ x ∈ ts, x.lexeme ≠ .comma) ∨
      ∃ a b front back, a ++ ',' :: b = u ∧ scanFrom pos a = .ok front ∧
        (∀ x ∈ front, x.lexeme ≠ .comma) ∧ scan b = .ok back := by
  induction u using scan_induction generalizing pos ts with
  | nil =>
    rw [scanFrom_nil] at h
    cases h
    exact .inl (by simp)
  | space c t hc ih =>
    rw [scanFrom_space hc] at h
    rcases ih h with hfree | ⟨a, b, front, back, rfl, ha, hfront, hb⟩
    · exact .inl hfree
    · exact .inr ⟨c :: a, b, front, back, rfl, by rwa [scanFrom_space hc], hfront, hb⟩
  | error c t e hc he =>
    rw [scanFrom_error hc he] at h
    cases h
  | read c t x r hc hr ih =>
    obtain ⟨later, hl, rfl⟩ := (scanFrom_read_eq_ok_iff hc hr).1 h
    by_cases hx : x = .comma
    · subst hx
      obtain ⟨back, hback, -⟩ := exists_scan_of_scanFrom hl
      exact .inr ⟨[], r, [], back, Lexeme.source_append_of_read hr, scanFrom_nil pos, by simp, hback⟩
    · rcases ih hl with hfree | ⟨a, b, front, back, rfl, ha, hfront, hb⟩
      · exact .inl (List.forall_mem_cons.2 ⟨hx, hfree⟩)
      · have hsource := Lexeme.source_append_of_read hr
        obtain ⟨d, s, hd⟩ := List.exists_cons_of_ne_nil (Lexeme.source_ne_nil_of_read hr)
        rw [hd, List.cons_append, ← List.append_assoc, List.cons.injEq] at hsource
        obtain ⟨rfl, rfl⟩ := hsource
        -- The same lexeme is read when the text ends before the comma.
        have hread := Lexeme.read_of_append hr (Lexeme.delimits_comma b)
        exact .inr ⟨d :: (s ++ a), b, ⟨x, pos⟩ :: front, back, by simp,
          (scanFrom_read_eq_ok_iff hc hread).2 ⟨front, ha, rfl⟩,
          List.forall_mem_cons.2 ⟨hx, hfront⟩, hb⟩

end Token

namespace Text

open Token

theorem lists_of_no_comma {t : Text} {ts : List Token} (h : scan t = .ok ts)
    (hfree : ∀ x ∈ ts, x.lexeme ≠ .comma) : t.Lists [trim t] := by
  refine ⟨ts, h, ?_⟩
  rw [items, List.splitOnP_eq_singleton (by simpa using hfree), List.map_singleton,
    sourceText_of_scan h, (trimmed_trim t).trim_eq]

theorem Lists.unique {t : Text} {xs ys : List Text} (hx : t.Lists xs) (hy : t.Lists ys) :
    xs = ys := by
  obtain ⟨ts, hts, rfl⟩ := hx
  obtain ⟨us, hus, rfl⟩ := hy
  rw [hts] at hus
  cases hus
  rfl

/-- A list is one item, or its first item ends at a comma and what follows is a list. -/
theorem Lists.singleton_or_comma {t : Text} {xs : List Text} (h : t.Lists xs) :
    xs = [trim t] ∨ ∃ (a b : Text) (ys : List Text),
      a ++ ',' :: b = t ∧ a.Lists [trim a] ∧ b.Lists ys ∧ trim a :: ys = xs := by
  obtain ⟨ts, hts, -⟩ := id h
  rcases exists_cut_of_scanFrom hts with hfree | ⟨a, b, front, back, rfl, ha, hfront, hb⟩
  · exact .inl (h.unique (lists_of_no_comma hts hfree))
  · have hitem := lists_of_no_comma ha hfront
    have hrest : Lists b (items b back) := ⟨back, hb, rfl⟩
    exact .inr ⟨a, b, _, rfl, hitem, hrest, (hitem.comma hrest).unique h⟩

theorem lists_trim_iff {t : Text} {xs : List Text} : (trim t).Lists xs ↔ t.Lists xs := by
  obtain ⟨before, after, ht, hbefore, hafter⟩ := exists_trim t
  have hscan : scan t = scanFrom (byteLength before) (trim t) := by
    conv_lhs => rw [← ht]
    rw [scan, scanFrom_append_spaces hafter, scanFrom_spaces hbefore, Nat.zero_add]
  have hitems : ∀ ts, scan (trim t) = .ok ts →
      items t (ts.map (shift (byteLength before))) = items (trim t) ts := by
    intro ts hts
    have hshift := items_shift (liesIn_of_scan hts) before after
    rwa [ht] at hshift
  constructor
  · rintro ⟨ts, hts, rfl⟩
    rw [scanFrom_eq_scan, hts] at hscan
    exact ⟨_, hscan, hitems ts hts⟩
  · rintro ⟨us, hus, rfl⟩
    rw [hscan] at hus
    obtain ⟨ts, hts, rfl⟩ := exists_scan_of_scanFrom hus
    exact ⟨ts, hts, (hitems ts hts).symm⟩

theorem Lists.of_mem {t c : Text} {xs : List Text} (h : t.Lists xs) (hc : c ∈ xs) :
    c.Lists [c] := by
  have hitem : ∀ {a : Text}, a.Lists [trim a] → (trim a).Lists [trim a] := lists_trim_iff.2
  induction xs generalizing t with
  | nil => cases hc
  | cons x xs ih =>
    rcases h.singleton_or_comma with he | ⟨a, b, ys, rfl, ha, hb, he⟩
    · rw [he] at h hc
      rw [List.mem_singleton.1 hc]
      exact hitem h
    · cases he
      rcases List.mem_cons.1 hc with rfl | hc
      · exact hitem ha
      · exact ih hb hc

theorem exists_lists_items {t : Text} {xs ys : List Token} (h : scan t = .ok (xs ++ ys)) :
    ∃ back : Text, back.Lists (items t ys) := by
  obtain ⟨front, back, rfl, hback⟩ := exists_suffix_of_scanFrom h
  rw [Nat.zero_add] at hback
  obtain ⟨us, hus, rfl⟩ := exists_scan_of_scanFrom hback
  have hitems := items_shift (liesIn_of_scan hus) front []
  rw [List.append_nil] at hitems
  exact ⟨back, us, hus, hitems.symm⟩

theorem Lists.not_blank {t : Text} {xs : List Text} (h : t.Lists xs) (hn : [] ∉ xs) :
    ¬t.all isSpace = true := by
  intro hblank
  have hspaces := List.all_eq_true.1 hblank
  have hempty := lists_of_no_comma (scanFrom_of_spaces hspaces 0) (by simp)
  rw [h.unique hempty, trim_of_spaces hspaces] at hn
  exact hn List.mem_cons_self

theorem lists_of_not_mem {t : Text} (h : ∀ c ∈ t, Value.isQuote c = false) (hcomma : ',' ∉ t) :
    t.Lists [trim t] := by
  obtain ⟨ts, hts⟩ := exists_scan_of_no_quote h 0
  refine lists_of_no_comma hts fun x hx he => hcomma ?_
  obtain ⟨u, ⟨v, rfl⟩, -⟩ := liesIn_of_scan hts x hx
  simp [he, Lexeme.source, Lexeme.text]

theorem lists_splitOn {t : Text} (h : ∀ c ∈ t, Value.isQuote c = false) :
    t.Lists ((t.splitOn ',').map trim) := by
  induction hn : t.length using Nat.strongRecOn generalizing t with
  | _ n ih =>
    by_cases hcomma : ',' ∈ t
    · obtain ⟨a, b, rfl, ha⟩ := List.eq_append_cons_of_mem hcomma
      rw [List.splitOn_append_cons_self_of_not_mem ha, List.map_cons]
      have hitem := lists_of_not_mem (fun c hc => h c (by simp [hc])) ha
      have hrest := ih b.length (by simp [← hn]; omega) (fun c hc => h c (by simp [hc])) rfl
      exact hitem.comma hrest
    · rw [List.splitOn_eq_singleton hcomma]
      exact lists_of_not_mem h hcomma

end Text

end Textbase
