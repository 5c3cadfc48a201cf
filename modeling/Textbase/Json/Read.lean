import Textbase.Json.Symbol

/-! Reading JSON text as a value. The depth of nesting is not limited: every step takes a symbol
away or goes from a list to its first item, so the number of symbols bounds the work. -/
namespace Textbase.Json

mutual

/-- The value at the front of the symbols, and the symbols after it. When only passing over values,
broken strings are let through and count as empty. -/
def readValue? (passing : Bool) : Nat → List Symbol → Option (Json × List Symbol)
  | 0, _ => none
  | _ + 1, [] => none
  | fuel + 1, s :: ss =>
    match s with
    | .null => some (.null, ss)
    | .bool b => some (.bool b, ss)
    | .number literal => some (.number literal, ss)
    | .string t => some (.string t, ss)
    | .brokenString => if passing then some (.string [], ss) else none
    | .openBracket =>
      if ss.head? = some .closeBracket then some (.array [], ss.tail)
      else (readItems? passing fuel ss).map fun (xs, r) => (.array xs, r)
    | .openBrace =>
      if ss.head? = some .closeBrace then some (.object [], ss.tail)
      else (readFields? passing fuel ss).map fun (fs, r) => (.object fs, r)
    | _ => none

def readItems? (passing : Bool) : Nat → List Symbol → Option (List Json × List Symbol)
  | 0, _ => none
  | fuel + 1, ss =>
    match readValue? passing fuel ss with
    | some (x, .comma :: r) => (readItems? passing fuel r).map fun (xs, u) => (x :: xs, u)
    | some (x, .closeBracket :: r) => some ([x], r)
    | _ => none

def readFields? (passing : Bool) : Nat → List Symbol → Option (List (Text × Json) × List Symbol)
  | 0, _ => none
  | fuel + 1, s :: .colon :: ss =>
    match s with
    | .string k => readField? passing k fuel ss
    | .brokenString => if passing then readField? passing [] fuel ss else none
    | _ => none
  | _ + 1, _ => none

def readField? (passing : Bool) (k : Text) :
    Nat → List Symbol → Option (List (Text × Json) × List Symbol)
  | 0, _ => none
  | fuel + 1, ss =>
    match readValue? passing fuel ss with
    | some (x, .comma :: r) => (readFields? passing fuel r).map fun (fs, u) => ((k, x) :: fs, u)
    | some (x, .closeBrace :: r) => some ([(k, x)], r)
    | _ => none

end

/-- Enough for any value in the symbols: a symbol takes at most three steps. -/
def fuelFor (ss : List Symbol) : Nat := 3 * ss.length + 1

def read? (t : Text) : Option Json :=
  match readValue? false (fuelFor (symbols t)) (symbols t) with
  | some (x, []) => some x
  | _ => none

def pass? (ss : List Symbol) : Option (List Symbol) :=
  (readValue? true (fuelFor ss) ss).map (·.2)

end Textbase.Json
