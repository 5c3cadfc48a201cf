import Textbase.Text.Hex

/-! Strings between double quotes, with backslash escapes. -/
namespace Textbase.Json

def hexDigit (n : Nat) : Char := Nat.digitChar n

/-- Only quotes, backslashes and controls below the space are escaped. -/
def escape (c : Char) : Text :=
  if c = '"' then ['\\', '"']
  else if c = '\\' then ['\\', '\\']
  else if c = '\x08' then ['\\', 'b']
  else if c = '\x0c' then ['\\', 'f']
  else if c = '\n' then ['\\', 'n']
  else if c = '\r' then ['\\', 'r']
  else if c = '\t' then ['\\', 't']
  else if c.toNat < 0x20 then
    ['\\', 'u', '0', '0', hexDigit (c.toNat / 16), hexDigit (c.toNat % 16)]
  else [c]

def quote (t : Text) : Text := '"' :: t.flatMap escape ++ ['"']

/-- What one spelling between the quotes stands for: a character, or a code unit of UTF-16. -/
inductive Piece
  | char (c : Char)
  | unit (n : Nat)
  deriving DecidableEq, Repr

def unit? (a b c d : Char) : Option Nat := do
  let a ← Text.hexValue? a
  let b ← Text.hexValue? b
  let c ← Text.hexValue? c
  let d ← Text.hexValue? d
  some (((a * 16 + b) * 16 + c) * 16 + d)

def unescape? : Char → Option Char
  | '"' => some '"'
  | '\\' => some '\\'
  | '/' => some '/'
  | 'b' => some '\x08'
  | 'f' => some '\x0c'
  | 'n' => some '\n'
  | 'r' => some '\r'
  | 't' => some '\t'
  | _ => none

/-- The pieces up to the closing quote, and the text after it. -/
def readPieces? : Text → Option (List Piece × Text)
  | [] => none
  | '"' :: t => some ([], t)
  | '\\' :: 'u' :: a :: b :: c :: d :: t =>
    (unit? a b c d).bind fun n => (readPieces? t).map fun (ps, r) => (.unit n :: ps, r)
  | '\\' :: c :: t =>
    (unescape? c).bind fun x => (readPieces? t).map fun (ps, r) => (.char x :: ps, r)
  | c :: t =>
    if c.toNat < 0x20 then none else (readPieces? t).map fun (ps, r) => (.char c :: ps, r)

def isHighHalf (n : Nat) : Bool := decide (0xD800 ≤ n ∧ n < 0xDC00)

def isLowHalf (n : Nat) : Bool := decide (0xDC00 ≤ n ∧ n < 0xE000)

/-- The text of the pieces; a half of a surrogate pair must have its other half beside it. -/
def textOf? : List Piece → Option Text
  | [] => some []
  | .char c :: ps => (textOf? ps).map (c :: ·)
  | .unit h :: .unit l :: ps =>
    if isHighHalf h then
      if isLowHalf l then
        (textOf? ps).map (Char.ofNat (0x10000 + (h - 0xD800) * 0x400 + (l - 0xDC00)) :: ·)
      else none
    else if isLowHalf h then none
    else (textOf? (.unit l :: ps)).map (Char.ofNat h :: ·)
  | .unit n :: ps =>
    if isHighHalf n || isLowHalf n then none else (textOf? ps).map (Char.ofNat n :: ·)

theorem length_lt_of_readPieces? {t r : Text} {ps : List Piece}
    (h : readPieces? t = some (ps, r)) : r.length < t.length := by
  fun_induction readPieces? t generalizing ps r with
  | case1 => simp at h
  | case2 t => simp_all
  | case3 a b c d t ih =>
    obtain ⟨n, -, h⟩ := Option.bind_eq_some_iff.1 h
    obtain ⟨⟨qs, u⟩, hq, he⟩ := Option.map_eq_some_iff.1 h
    have := ih hq
    simp_all
    omega
  | case4 c t _ ih =>
    obtain ⟨n, -, h⟩ := Option.bind_eq_some_iff.1 h
    obtain ⟨⟨qs, u⟩, hq, he⟩ := Option.map_eq_some_iff.1 h
    have := ih hq
    simp_all
    omega
  | case5 => simp at h
  | case6 c t _ _ _ _ ih =>
    obtain ⟨⟨qs, u⟩, hq, he⟩ := Option.map_eq_some_iff.1 h
    have := ih hq
    simp_all
    omega

end Textbase.Json
