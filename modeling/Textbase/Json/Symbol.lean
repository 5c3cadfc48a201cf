import Textbase.Json.Basic
import Textbase.Number.Decimal

/-! The symbols that JSON text is made of. -/
namespace Textbase.Json

inductive Symbol
  | openBrace
  | closeBrace
  | openBracket
  | closeBracket
  | colon
  | comma
  | null
  | bool (b : Bool)
  | number (literal : Text)
  | string (s : Text)
  /-- A string with a lone half of a surrogate pair: it can be passed over and not be read. -/
  | brokenString
  /-- Text that no symbol starts with; nothing after it is looked at. -/
  | junk
  deriving DecidableEq, Repr

def readDigits? (t : Text) : Option (Text × Text) :=
  if (Decimal.readDigits t).1.isEmpty then none else some (Decimal.readDigits t)

/-- Digits before the point; a zero is not followed by more of them. -/
def readWhole? (t : Text) : Option (Text × Text) :=
  (readDigits? t).bind fun (ds, r) => if ds.length > 1 && ds.head? == some '0' then none else some (ds, r)

def readFraction? : Text → Option (Text × Text)
  | '.' :: t => (readDigits? t).map fun (ds, r) => ('.' :: ds, r)
  | t => some ([], t)

def readPower? : Text → Option (Text × Text)
  | [] => some ([], [])
  | e :: t =>
    if e = 'e' || e = 'E' then
      match t with
      | '+' :: u => (readDigits? u).map fun (ds, r) => (e :: '+' :: ds, r)
      | '-' :: u => (readDigits? u).map fun (ds, r) => (e :: '-' :: ds, r)
      | u => (readDigits? u).map fun (ds, r) => (e :: ds, r)
    else some ([], e :: t)

def readUnsigned? (t : Text) : Option (Text × Text) := do
  let (whole, u) ← readWhole? t
  let (fraction, v) ← readFraction? u
  let (power, w) ← readPower? v
  some (whole ++ fraction ++ power, w)

def readNumber? : Text → Option (Text × Text)
  | '-' :: t => (readUnsigned? t).map fun (ds, r) => ('-' :: ds, r)
  | t => readUnsigned? t

/-- The symbol that starts with `c`, which is no space, and the text after it. -/
def readSymbol (c : Char) (t : Text) : Symbol × Text :=
  if c = '{' then (.openBrace, t)
  else if c = '}' then (.closeBrace, t)
  else if c = '[' then (.openBracket, t)
  else if c = ']' then (.closeBracket, t)
  else if c = ':' then (.colon, t)
  else if c = ',' then (.comma, t)
  else if c = '"' then
    match readPieces? t with
    | none => (.junk, [])
    | some (ps, r) =>
      match textOf? ps with
      | none => (.brokenString, r)
      | some s => (.string s, r)
  else if "null".toList.isPrefixOf (c :: t) then (.null, t.drop 3)
  else if "true".toList.isPrefixOf (c :: t) then (.bool true, t.drop 3)
  else if "false".toList.isPrefixOf (c :: t) then (.bool false, t.drop 4)
  else
    match readNumber? (c :: t) with
    | none => (.junk, [])
    | some (literal, r) => (.number literal, r)

theorem append_of_readDigits? {t ds r : Text} (h : readDigits? t = some (ds, r)) : ds ++ r = t := by
  simp only [readDigits?, Option.ite_none_left_eq_some, Option.some.injEq, Prod.ext_iff] at h
  rw [← h.2.1, ← h.2.2, Decimal.readDigits_append]

theorem ne_nil_of_readDigits? {t ds r : Text} (h : readDigits? t = some (ds, r)) : ds ≠ [] := by
  simp only [readDigits?, Option.ite_none_left_eq_some, Option.some.injEq, Prod.ext_iff] at h
  simpa [← h.2.1] using h.1

theorem readDigits?_of_readWhole? {t ds r : Text} (h : readWhole? t = some (ds, r)) :
    readDigits? t = some (ds, r) := by
  obtain ⟨⟨es, u⟩, he, h⟩ := Option.bind_eq_some_iff.1 h
  simp only [Option.ite_none_left_eq_some, Option.some.injEq] at h
  rw [he, h.2]

theorem append_of_readFraction? {t ds r : Text} (h : readFraction? t = some (ds, r)) :
    ds ++ r = t := by
  unfold readFraction? at h
  split at h
  · obtain ⟨⟨es, u⟩, he, h⟩ := Option.map_eq_some_iff.1 h
    simp only [Prod.mk.injEq] at h
    rw [← h.1, ← h.2, List.cons_append, append_of_readDigits? he]
  · simp_all

theorem append_of_readPower? {t ds r : Text} (h : readPower? t = some (ds, r)) : ds ++ r = t := by
  unfold readPower? at h
  split at h
  · simp_all
  split at h
  · split at h
    all_goals
      obtain ⟨⟨es, u⟩, he, h⟩ := Option.map_eq_some_iff.1 h
      simp only [Prod.mk.injEq] at h
      rw [← h.1, ← h.2]
      simp [append_of_readDigits? he]
  · simp_all

theorem append_of_readUnsigned? {t ds r : Text} (h : readUnsigned? t = some (ds, r)) :
    ds ++ r = t ∧ ds ≠ [] := by
  simp only [readUnsigned?, Option.bind_eq_bind, Option.bind_eq_some_iff, Option.some.injEq,
    Prod.mk.injEq, Prod.exists] at h
  obtain ⟨whole, u, hw, fraction, v, hf, power, w, hp, rfl, rfl⟩ := h
  have hd := readDigits?_of_readWhole? hw
  refine ⟨?_, by simp [ne_nil_of_readDigits? hd]⟩
  rw [List.append_assoc, List.append_assoc, append_of_readPower? hp, append_of_readFraction? hf,
    append_of_readDigits? hd]

theorem append_of_readNumber? {t ds r : Text} (h : readNumber? t = some (ds, r)) :
    ds ++ r = t ∧ ds ≠ [] := by
  unfold readNumber? at h
  split at h
  · obtain ⟨⟨es, u⟩, he, h⟩ := Option.map_eq_some_iff.1 h
    simp only [Prod.mk.injEq] at h
    obtain ⟨rfl, rfl⟩ := h
    simp [(append_of_readUnsigned? he).1]
  · exact append_of_readUnsigned? h

theorem length_readSymbol_le (c : Char) (t : Text) : (readSymbol c t).2.length ≤ t.length := by
  unfold readSymbol
  repeat' split
  all_goals try simp only [List.length_drop, List.length_nil, Nat.le_refl, Nat.zero_le]
  · exact Nat.le_of_lt (length_lt_of_readPieces? ‹_›)
  · exact Nat.le_of_lt (length_lt_of_readPieces? ‹_›)
  · omega
  · omega
  · omega
  · obtain ⟨ha, hn⟩ := append_of_readNumber? ‹_›
    have hl := congrArg List.length ha
    have hp := List.length_pos_iff.2 hn
    simp only [List.length_append, List.length_cons] at hl
    omega

def symbols : Text → List Symbol
  | [] => []
  | c :: t =>
    if c.isWhitespace then symbols t
    else
      match h : readSymbol c t with
      | (.junk, _) => [.junk]
      | (x, r) =>
        have : r.length ≤ t.length := by simpa only [h] using length_readSymbol_le c t
        x :: symbols r
termination_by t => t.length
decreasing_by
  · exact Nat.lt_succ_self _
  · exact Nat.lt_succ_of_le this

@[simp] theorem symbols_nil : symbols [] = [] := by simp [symbols]

end Textbase.Json
