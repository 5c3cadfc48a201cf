import Textbase.Proofs.Tabular.RoundTrip
import Textbase.Proofs.Text.Joined
import Textbase.Proofs.Text.Parts
import Textbase.Tabular.Layout
import Mathlib.Data.List.Forall2

/-! Tables as they are shown. Every line has its cells at the same characters, those of a column
between the same two offsets, however long the rows are and wherever cells are empty. What is
trimmed from a line is blanks only, so the line can be filled up to the length of the rule and read
by position. -/
namespace Textbase.Tabular

/-- The greatest length of a cell of column `j`, its name included; what a short row lacks is
empty. -/
structure IsWidth (d : Tabular) (j w : Nat) : Prop where
  le : ∀ cells ∈ d.columns :: d.rows, (Schema.cell cells j).length ≤ w
  attained : ∃ cells ∈ d.columns :: d.rows, (Schema.cell cells j).length = w

theorem isWidth_columnWidth {d : Tabular} {j : Nat} {name : Text}
    (h : d.columns[j]? = some name) : d.IsWidth j (d.columnWidth j name) := by
  have hmax : ((d.columns :: d.rows).map fun cells => (Schema.cell cells j).length).max? =
      some (d.columnWidth j name) := by
    have hname : Schema.cell d.columns j = name := by rw [Schema.cell, h, Option.getD_some]
    rw [List.map_cons, List.max?_cons', hname, List.foldl_map, columnWidth]
  obtain ⟨hmem, hle⟩ := List.max?_eq_some_iff.1 hmax
  constructor
  · intro cells hc
    exact hle _ (List.mem_map_of_mem hc)
  · exact List.mem_map.1 hmem

theorem getElem?_widths (d : Tabular) (j : Nat) :
    d.widths[j]? = d.columns[j]?.map (d.columnWidth j) := by
  simp [widths, List.getElem?_zipIdx, Option.map_map, Function.comp_def]

theorem isWidth_widths {d : Tabular} {j w : Nat} (h : d.widths[j]? = some w) : d.IsWidth j w := by
  rw [getElem?_widths, Option.map_eq_some_iff] at h
  obtain ⟨name, hname, rfl⟩ := h
  exact isWidth_columnWidth hname

/-- Where column `j` begins: after the columns before it, with three characters after each. -/
def offset (ws : List Nat) (j : Nat) : Nat := ((ws.take j).map (· + 3)).sum

/-- The line shows the cells in columns of the given widths: it does not end in whitespace, and
filled up to length `n` it has each cell, with blanks after it, from the offset of its column on,
and a bar between neighbours. -/
structure Shows (ws : List Nat) (n : Nat) (cells : List Text) (l : Text) : Prop where
  last : ∀ c ∈ l.getLast?, Text.isSpace c = false
  length_le : l.length ≤ n
  cell : ∀ j w, ws[j]? = some w → ((pad n l).drop (offset ws j)).take w =
    Schema.cell cells j ++ List.replicate (w - (Schema.cell cells j).length) ' '
  bar : ∀ j w, ws[j]? = some w → j + 1 < ws.length →
    ((pad n l).drop (offset ws j + w)).take 3 = " | ".toList

def Fits (ws : List Nat) (cells : List Text) : Prop :=
  ∀ j w, ws[j]? = some w → (Schema.cell cells j).length ≤ w

section Line

variable {ws : List Nat} {cells : List Text}

def padded (ws : List Nat) (cells : List Text) : List Text :=
  ws.zipIdx.map fun (w, i) => pad w (Schema.cell cells i)

theorem layoutRow_eq (ws : List Nat) (cells : List Text) :
    layoutRow ws cells = Text.trimEnd (Text.joinWith " | ".toList (padded ws cells)) := rfl

theorem getElem?_padded (ws : List Nat) (cells : List Text) (j : Nat) :
    (padded ws cells)[j]? = ws[j]?.map fun w => pad w (Schema.cell cells j) := by
  simp [padded, List.getElem?_zipIdx, Option.map_map, Function.comp_def]

theorem exists_of_mem_padded {p : Text} (hp : p ∈ padded ws cells) :
    ∃ c w, (c ∈ cells ∨ c = []) ∧ p = pad w c := by
  obtain ⟨⟨w, j⟩, -, rfl⟩ := List.mem_map.1 hp
  refine ⟨Schema.cell cells j, w, ?_, rfl⟩
  rw [Schema.cell]
  cases hc : cells[j]? with
  | none => exact .inr rfl
  | some c => exact .inl (List.mem_of_getElem? hc)

theorem map_length_padded (h : Fits ws cells) :
    (padded ws cells).map List.length = ws := by
  refine List.ext_getElem? fun j => ?_
  rw [List.getElem?_map, getElem?_padded]
  cases hw : ws[j]? with
  | none => rfl
  | some w => simp [Nat.max_eq_right (h j w hw)]

theorem length_joined_padded (h : Fits ws cells) :
    (Text.joinWith " | ".toList (padded ws cells)).length = (rule ws).length := by
  have hrule : (ws.map fun w => List.replicate w '-').map List.length = ws := by
    simp [Function.comp_def]
  refine Text.length_joinWith_congr (by decide) ?_
  rw [map_length_padded h, hrule]

theorem endsInBlanks_joined_padded (ht : ∀ c ∈ cells, c.Trimmed) :
    (Text.joinWith " | ".toList (padded ws cells)).EndsInBlanks := by
  have hbar : Text.EndsInBlanks ([' ', '|'] ++ List.replicate 1 ' ') := by
    refine (Text.endsInBlanks_of_last fun c hc => ?_).append (Text.endsInBlanks_replicate 1)
    obtain rfl : '|' = c := Option.mem_some.1 hc
    decide
  refine hbar.joinWith fun p hp => ?_
  obtain ⟨c, w, hc, rfl⟩ := exists_of_mem_padded hp
  have hlast : ∀ d ∈ c.getLast?, Text.isSpace d = false := by
    rcases hc with hc | rfl
    · exact (ht c hc).last
    · exact fun d hd => absurd hd (by simp)
  exact (Text.endsInBlanks_of_last hlast).append (Text.endsInBlanks_replicate _)

/-- From the offset of a column on there is its cell, and then the columns after it. -/
theorem drop_joined_padded (h : Fits ws cells) {j w : Nat} (hw : ws[j]? = some w) :
    (Text.joinWith " | ".toList (padded ws cells)).drop (offset ws j) =
      Text.joinWith " | ".toList
        (pad w (Schema.cell cells j) :: (padded ws cells).drop (j + 1)) := by
  have hp : (padded ws cells)[j]? = some (pad w (Schema.cell cells j)) := by
    rw [getElem?_padded, hw, Option.map_some]
  obtain ⟨hj, hp⟩ := List.getElem?_eq_some_iff.1 hp
  have hdrop := Text.drop_joinWith " | ".toList (padded ws cells) j
  rw [map_length_padded h] at hdrop
  rw [offset, ← hp, ← List.drop_eq_getElem_cons hj]
  exact hdrop

theorem shows_layoutRow (h : Fits ws cells) (ht : ∀ c ∈ cells, c.Trimmed) :
    Shows ws (rule ws).length cells (layoutRow ws cells) := by
  have hlength := length_joined_padded h
  have hfilled : pad (rule ws).length (layoutRow ws cells) =
      Text.joinWith " | ".toList (padded ws cells) := by
    rw [layoutRow_eq, pad, ← hlength]
    exact (endsInBlanks_joined_padded ht).trimEnd_append
  have hwide : ∀ j w, ws[j]? = some w → (pad w (Schema.cell cells j)).length = w := by
    intro j w hw
    rw [length_pad, Nat.max_eq_right (h j w hw)]
  refine ⟨Text.getLast_trimEnd _, ?_, fun j w hw => ?_, fun j w hw hj => ?_⟩
  · rw [← hlength]
    exact (Text.prefix_trimEnd _).length_le
  · have htake := Text.take_joinWith_cons " | ".toList (pad w (Schema.cell cells j))
      ((padded ws cells).drop (j + 1))
    rw [hwide j w hw] at htake
    rw [hfilled, drop_joined_padded h hw, htake, pad]
  · have hrest : (padded ws cells).drop (j + 1) ≠ [] := by
      simpa [padded] using hj
    have hdrop := Text.drop_joinWith_cons " | ".toList (pad w (Schema.cell cells j)) hrest
    rw [hwide j w hw] at hdrop
    rw [hfilled, ← List.drop_drop, drop_joined_padded h hw, hdrop]
    exact List.take_left' rfl

theorem not_mem_layoutRow {c : Char} (hbar : c ∉ " | ".toList) (hc : ∀ t ∈ cells, c ∉ t) :
    c ∉ layoutRow ws cells := by
  have hblank : c ≠ ' ' := by
    rintro rfl
    exact hbar (by decide)
  intro hmem
  refine Text.not_mem_joinWith hbar (fun p hp => ?_) ((Text.prefix_trimEnd _).mem hmem)
  obtain ⟨d, w, hd, rfl⟩ := exists_of_mem_padded hp
  have hcell : c ∉ d := by
    rcases hd with hd | rfl
    · exact hc d hd
    · exact List.not_mem_nil
  simp [pad, hcell, hblank]

end Line

theorem trimmed_of_mem_decode {t : Text} {cells : List Text}
    (h : cells ∈ (decode t).columns :: (decode t).rows) {c : Text} (hc : c ∈ cells) :
    c.Trimmed ∧ '\n' ∉ c := by
  have hcells : ∀ l ∈ (t.splitOn '\n').filter (fun l => !isBlank l), ∀ c ∈ Tabular.cells l,
      c.Trimmed ∧ '\n' ∉ c := by
    intro l hl c hc
    obtain ⟨p, hp, rfl⟩ := List.mem_map.1 hc
    have hline : '\n' ∉ l := Text.not_mem_of_mem_splitOn (List.mem_of_mem_filter hl)
    exact ⟨Text.trimmed_trim p, fun hm =>
      hline ((Text.infix_of_mem_splitOn hp).subset ((Text.infix_trim p).subset hm))⟩
  unfold decode at h
  generalize (t.splitOn '\n').filter (fun l => !isBlank l) = ls at hcells h
  cases ls with
  | nil =>
    obtain rfl : cells = [] := by simpa using h
    cases hc
  | cons header ls =>
    rcases List.mem_cons.1 h with rfl | h
    · exact hcells header List.mem_cons_self c hc
    · obtain ⟨l, hl, rfl⟩ := List.mem_map.1 h
      exact hcells l (List.mem_cons_of_mem header hl) c (List.mem_of_mem_take hc)

theorem fits_widths {d : Tabular} {cells : List Text} (hc : cells ∈ d.columns :: d.rows) :
    Fits d.widths cells :=
  fun _ _ hw => (isWidth_widths hw).le cells hc

theorem forall₂_shows_layoutRow {d : Tabular}
    (ht : ∀ cells ∈ d.columns :: d.rows, ∀ c ∈ cells, c.Trimmed) :
    List.Forall₂ (Shows d.widths (rule d.widths).length) (d.columns :: d.rows)
      ((d.columns :: d.rows).map (layoutRow d.widths)) := by
  rw [List.forall₂_map_right_iff, List.forall₂_same]
  exact fun cells hc => shows_layoutRow (fits_widths hc) (ht cells hc)

theorem splitOn_layout {d : Tabular}
    (h : ∀ cells ∈ d.columns :: d.rows, ∀ c ∈ cells, '\n' ∉ c) :
    d.layout.splitOn '\n' = d.layoutLines := by
  have hrow : ∀ cells ∈ d.columns :: d.rows, '\n' ∉ layoutRow d.widths cells :=
    fun cells hc => not_mem_layoutRow (by decide) (h cells hc)
  have hrule : '\n' ∉ rule d.widths := by
    refine Text.not_mem_joinWith (by decide) fun p hp => ?_
    obtain ⟨w, -, rfl⟩ := List.mem_map.1 hp
    exact fun hm => absurd (List.eq_of_mem_replicate hm) (by decide)
  have hlines : ∀ l ∈ d.layoutLines, '\n' ∉ l := by
    intro l hl
    rcases List.mem_cons.1 hl with rfl | hl
    · exact hrow d.columns List.mem_cons_self
    rcases List.mem_cons.1 hl with rfl | hl
    · exact hrule
    · obtain ⟨row, hr, rfl⟩ := List.mem_map.1 hl
      exact hrow row (List.mem_cons_of_mem _ hr)
  exact List.splitOn_intercalate '\n' hlines (List.cons_ne_nil _ _)

/-- A table that was read is shown unless a column of it is wider than text can be padded to. The
second line is then the rule, and the others, one for the names and one for each row, have their
cells at the same characters. -/
theorem decode_aligned (t : Text) :
    let d := decode t
    let ws := d.widths
    let second := Text.joinWith "-+-".toList (ws.map fun w => List.replicate w '-')
    ws.length = d.columns.length ∧ (∀ j w, ws[j]? = some w → d.IsWidth j w) ∧
      (d.layout? = none ↔ ∃ w ∈ ws, 65535 < w) ∧
      ∀ text, d.layout? = some text →
        (text.splitOn '\n').length = d.rows.length + 2 ∧
          ∃ header rows, text.splitOn '\n' = header :: second :: rows ∧
            List.Forall₂ (Shows ws second.length) (d.columns :: d.rows) (header :: rows) := by
  intro d ws second
  have hread : ∀ cells ∈ d.columns :: d.rows, ∀ c ∈ cells, c.Trimmed ∧ '\n' ∉ c :=
    fun cells hc c => trimmed_of_mem_decode hc
  refine ⟨by simp [ws, widths], fun j w => isWidth_widths, layout?_eq_none_iff, fun text ht => ?_⟩
  obtain ⟨-, rfl⟩ := layout?_eq_some_iff.1 ht
  rw [splitOn_layout fun cells hc c hm => (hread cells hc c hm).2]
  refine ⟨by simp [layoutLines], _, _, rfl, ?_⟩
  exact forall₂_shows_layoutRow fun cells hc c hm => (hread cells hc c hm).1

/-- Widths are counted in characters, and the line of a short row or of one with empty cells at its
end is shorter than the rule. -/
theorem decode_aligned_ragged :
    let t := "né\tb\tc\n1\n\t\t\nx\tyyy\t\n".toList
    let text := "né | b   | c\n---+-----+--\n1  |     |\n   |     |\nx  | yyy |".toList
    (decode t).layout? = some text ∧
      ∃ header rows, text.splitOn '\n' = header :: "---+-----+--".toList :: rows ∧
        List.Forall₂ (Shows [2, 3, 1] 12)
          [["né".toList, ['b'], ['c']], [['1']], [[], [], []], [['x'], "yyy".toList, []]]
          (header :: rows) := by
  intro t text
  have hd : decode t = ⟨["né".toList, ['b'], ['c']],
      [[['1']], [[], [], []], [['x'], "yyy".toList, []]]⟩ := by decide +kernel
  have hws : (decode t).widths = [2, 3, 1] := by rw [hd]; decide +kernel
  have ht : (decode t).layout? = some text := by rw [hd]; decide +kernel
  obtain ⟨-, -, -, hshown⟩ := decode_aligned t
  obtain ⟨-, header, rows, hlines, hshows⟩ := hshown text ht
  rw [hws] at hlines hshows
  rw [hd] at hshows
  exact ⟨ht, header, rows, hlines, hshows⟩

theorem decode_of_no_space {t : Text} (ht : t ≠ []) (h : ∀ c ∈ t, Text.isSpace c = false) :
    decode t = ⟨[t], []⟩ := by
  have hspace : ∀ c, Text.isSpace c = true → c ∉ t := by
    intro c hc hm
    rw [h c hm] at hc
    cases hc
  have hplain : ∀ cells ∈ [[t]], Plain cells := by
    simpa [Plain] using ⟨hspace '\t' (by decide), hspace '\n' (by decide)⟩
  have htrimmed : ∀ cells ∈ [[t]], ∀ c ∈ cells, c.Trimmed := by
    simpa using ⟨fun c hc => h c (List.mem_of_mem_head? hc),
      fun c hc => h c (List.mem_of_mem_getLast? hc)⟩
  have hshown : IsShown [t] :=
    (isShown_iff_of_trimmed (htrimmed [t] List.mem_cons_self)).2 ⟨List.cons_ne_nil _ _, by simpa⟩
  have hwritten : encode [t] [] = t := by simp [encode, line]
  have hd := decode_encode_of_trimmed hplain htrimmed hshown (by simp)
  rwa [hwritten, List.filter_nil] at hd

theorem layout?_of_no_space {t : Text} (h : ∀ c ∈ t, Text.isSpace c = false)
    (hl : widthLimit < t.length) : decode t = ⟨[t], []⟩ ∧ (decode t).layout? = none := by
  have ht : t ≠ [] := List.ne_nil_of_length_pos (Nat.zero_lt_of_lt hl)
  have hd := decode_of_no_space ht h
  refine ⟨hd, ?_⟩
  rw [hd, layout?_eq_none_iff]
  exact ⟨t.length, List.mem_singleton_self _, hl⟩

/-- No text can be padded to a name of 65536 letters, and the table with that column is not
shown. -/
theorem layout?_of_long_name :
    let t := List.replicate 65536 'a'
    decode t = ⟨[t], []⟩ ∧ (decode t).layout? = none := by
  refine layout?_of_no_space (fun c hc => ?_) ?_
  · rw [List.eq_of_mem_replicate hc]
    decide
  · rw [List.length_replicate]
    decide

end Textbase.Tabular
