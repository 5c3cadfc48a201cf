import Textbase.Proofs.Guarded.Command
import Textbase.Proofs.Text.Parts
import Textbase.Script

/-! No text makes an operation go out of bounds. The lines of a script and the cells of tabular text are
parts of the text that they are taken from. -/
namespace Textbase

namespace Text

theorem prefix_dropReturn (l : Text) : dropReturn l <+: l := by
  rw [dropReturn]
  split
  · exact List.dropLast_prefix l
  · exact List.prefix_rfl

theorem infix_of_mem_linesOfPieces {ps : List Text} {l : Text} (h : l ∈ linesOfPieces ps) :
    ∃ p ∈ ps, l <:+: p := by
  fun_induction linesOfPieces ps with
  | case1 => cases h
  | case2 p hp => cases h
  | case3 p hp =>
    obtain rfl := List.mem_singleton.1 h
    exact ⟨l, by simp, List.infix_rfl⟩
  | case4 p q ps ih =>
    rcases List.mem_cons.1 h with rfl | h
    · exact ⟨p, by simp, (prefix_dropReturn p).isInfix⟩
    · obtain ⟨r, hr, hl⟩ := ih h
      exact ⟨r, List.mem_cons_of_mem p hr, hl⟩

theorem infix_of_mem_lines {t l : Text} (h : l ∈ lines t) : l <:+: t := by
  obtain ⟨p, hp, hl⟩ := infix_of_mem_linesOfPieces h
  exact hl.trans (infix_of_mem_splitOn hp)

end Text

namespace ScriptLine

def text : ScriptLine → Text
  | command t => t
  | comment t => t

theorem infix_ofLine (l : Text) : (ofLine l).text <:+: l := by
  rw [ofLine]
  split
  · exact Text.infix_trim l
  · exact (Text.prefix_trimEnd l).isInfix

end ScriptLine

namespace Tabular

theorem infix_of_mem_cells {l c : Text} (h : c ∈ cells l) : c <:+: l := by
  obtain ⟨p, hp, rfl⟩ := List.mem_map.1 h
  exact (Text.infix_trim p).trans (Text.infix_of_mem_splitOn hp)

theorem infix_of_mem_decode {t c : Text}
    (h : c ∈ (decode t).columns ++ (decode t).rows.flatten) : c <:+: t := by
  have hline : ∀ l ∈ (t.splitOn '\n').filter fun l => !isBlank l, l <:+: t := fun l hl =>
    Text.infix_of_mem_splitOn (List.mem_filter.1 hl).1
  unfold decode at h
  generalize (t.splitOn '\n').filter (fun l => !isBlank l) = ls at hline h
  cases ls with
  | nil => cases h
  | cons header ls =>
    obtain ⟨hheader, hls⟩ := List.forall_mem_cons.1 hline
    rcases List.mem_append.1 h with h | h
    · exact (infix_of_mem_cells h).trans hheader
    · obtain ⟨row, hr, hc⟩ := List.mem_flatten.1 h
      obtain ⟨l, hl, rfl⟩ := List.mem_map.1 hr
      exact (infix_of_mem_cells (List.mem_of_mem_take hc)).trans (hls l hl)

end Tabular

namespace Guarded

/-- The texts are cut out of `t`, each from one offset up to another. -/
def CutFrom (t : Text) (parts : List Text) : Prop :=
  ∃ spans : List (Nat × Nat), spans.mapM (fun span => slice t span.1 span.2) = .ok parts

theorem cutFrom_of_infix {t : Text} {parts : List Text} (h : ∀ s ∈ parts, s <:+: t) :
    CutFrom t parts := by
  induction parts with
  | nil => exact ⟨[], rfl⟩
  | cons s parts ih =>
    obtain ⟨⟨before, after, hs⟩, hparts⟩ := List.forall_mem_cons.1 h
    obtain ⟨spans, hspans⟩ := ih hparts
    have hslice := slice_eq_ok_iff.2 ⟨before, after, hs, rfl, rfl⟩
    refine ⟨(Text.byteLength before, Text.byteLength before + Text.byteLength s) :: spans, ?_⟩
    rw [List.mapM_cons, hslice, hspans]
    rfl

/-- Whatever the database holds and whatever the text is, a command is executed, a filter is read
and a row is tested without ever asking for a part of a text or an item of a list that is not there.
The lines of a script and the cells of tabular text are cut out of it between characters. -/
theorem in_bounds :
    (∀ (db : Database) (t : Text), execute db t = .ok (db.execute t)) ∧
    (∀ t : Text, (parseFilter t).run = .ok (Filter.parse t)) ∧
    (∀ (columns : List Text) (row : Row) (t : Text),
      (accepts columns row t).run = .ok (Filter.accepts columns row t)) ∧
    (∀ t : Text, CutFrom t ((Script.lines t).map ScriptLine.text)) ∧
    ∀ t : Text, CutFrom t ((Tabular.decode t).columns ++ (Tabular.decode t).rows.flatten) := by
  refine ⟨execute_eq, parseFilter_gives, accepts_gives, fun t => cutFrom_of_infix fun s hs => ?_,
    fun t => cutFrom_of_infix fun c hc => Tabular.infix_of_mem_decode hc⟩
  obtain ⟨line, hline, rfl⟩ := List.mem_map.1 hs
  obtain ⟨l, hl, rfl⟩ := List.mem_map.1 hline
  exact (ScriptLine.infix_ofLine l).trans (Text.infix_of_mem_lines hl)

end Guarded

end Textbase
