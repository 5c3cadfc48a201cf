import Textbase.Error
import Textbase.Text.Alphanumeric

/-! Reading filters. `or` binds loosest, then `and`; both associate to the left, and there are no
parentheses. What stands between two of these words is a comparison, or is kept as it is. -/
namespace Textbase.Filter

/-- The name at the end of a word: in `people.age` it is `age`. -/
def trailingName? (t : Token) : Option Text :=
  match t.lexeme with
  | .word w =>
    let name := (w.reverse.takeWhile Text.isNameChar).reverse
    if name.isEmpty then none else some name
  | _ => none

/-- The tokens before the first relation symbol, the relation, and the tokens after it. -/
def splitAtRelation? : List Token → Option (List Token × Relation × List Token)
  | [] => none
  | t :: ts =>
    match t.lexeme with
    | .relation r => some ([], r, ts)
    | _ => (splitAtRelation? ts).map fun (before, r, after) => (t :: before, r, after)

/-- The comparison that a run of tokens makes: its first relation, with a name before it and
something after it. -/
def comparison? (source : Text) (run : List Token) : Option Comparison := do
  let (before, r, after) ← splitAtRelation? run
  let column ← before.getLast?.bind trailingName?
  if after.isEmpty then none
  else some ⟨column, r, Value.unquote (Text.trim (Token.sourceText source after))⟩

def ofRun (source : Text) (run : List Token) : Filter :=
  match comparison? source run with
  | some c => .compare c
  | none => .unmatched (Token.sourceText source run)

def joinTo (join : Filter → Filter → Filter) : Option Filter → Filter → Filter
  | none, g => g
  | some f, g => join f g

/-- A filter that is being read: the alternatives that are complete, the current alternative as
far as it is complete, and the current run of tokens. -/
structure Progress where
  alternatives : Option Filter
  conjuncts : Option Filter
  run : List Token

namespace Progress

def start : Progress := ⟨none, none, []⟩

def conjunction (source : Text) (p : Progress) : Filter :=
  joinTo .and p.conjuncts (ofRun source p.run)

def disjunction (source : Text) (p : Progress) : Filter :=
  joinTo .or p.alternatives (p.conjunction source)

def step (source : Text) (p : Progress) (t : Token) : Progress :=
  if t.isWord "or".toList then ⟨some (p.disjunction source), none, []⟩
  else if t.isWord "and".toList then ⟨p.alternatives, some (p.conjunction source), []⟩
  else ⟨p.alternatives, p.conjuncts, p.run ++ [t]⟩

theorem step_or {source : Text} {t : Token} (h : t.isWord "or".toList = true) (p : Progress) :
    p.step source t = ⟨some (p.disjunction source), none, []⟩ := by
  rw [step, if_pos h]

theorem step_and {source : Text} {t : Token} (ho : t.isWord "or".toList = false)
    (ha : t.isWord "and".toList = true) (p : Progress) :
    p.step source t = ⟨p.alternatives, some (p.conjunction source), []⟩ := by
  rw [step, if_neg (Bool.eq_false_iff.1 ho), if_pos ha]

theorem step_run {source : Text} {t : Token} (ho : t.isWord "or".toList = false)
    (ha : t.isWord "and".toList = false) (p : Progress) :
    p.step source t = ⟨p.alternatives, p.conjuncts, p.run ++ [t]⟩ := by
  rw [step, if_neg (Bool.eq_false_iff.1 ho), if_neg (Bool.eq_false_iff.1 ha)]

end Progress

/-- The tokens without one leading `where`. -/
def body : List Token → List Token
  | [] => []
  | t :: ts => if t.isWord "where".toList then ts else t :: ts

/-- The filter of the tokens of a text, or of a part of them; one leading `where` is skipped. -/
def ofTokens (source : Text) (ts : List Token) : Except Error Filter :=
  if (body ts).isEmpty then .error (.malformedFilter .missing)
  else .ok (((body ts).foldl (Progress.step source) .start).disjunction source)

def parse (t : Text) : Except Error Filter :=
  match Token.scan t with
  | .error e => .error (.malformedFilter (.unclosedQuote e))
  | .ok ts => ofTokens t ts

def accepts (columns : List Text) (row : Row) (t : Text) : Except Error Bool :=
  (parse t).map (holds ⟨columns⟩ row)

end Textbase.Filter
