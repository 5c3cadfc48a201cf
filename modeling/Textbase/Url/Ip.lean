import Textbase.Text.Hex

/-! Internet addresses of hosts, in numbers. -/
namespace Textbase.Url

namespace Ipv4

/-- A number in decimal, or in octal after a zero, or in hexadecimal after `0x`. -/
def number? : Text → Option Nat
  | '0' :: x :: t =>
    if x = 'x' ∨ x = 'X' then
      t.foldlM (fun n c => (Text.hexValue? c).map fun d => 16 * n + d) 0
    else
      (x :: t).foldlM (fun n c => if '0' ≤ c ∧ c ≤ '7' then some (8 * n + (c.toNat - 48)) else none) 0
  | [] => none
  | t => t.foldlM (fun n c => if c.isDigit then some (10 * n + (c.toNat - 48)) else none) 0

/-- The parts between the dots; a dot at the end does not count. -/
def parts (t : Text) : List Text :=
  let ps := t.splitOn '.'
  if ps.getLast? = some [] ∧ 1 < ps.length then ps.dropLast else ps

/-- Whether a name ends in a number, so that it has to be an address. -/
def endsInNumber (t : Text) : Bool :=
  match (parts t).getLast? with
  | none => false
  | some p => !p.isEmpty && (p.all Char.isDigit || (number? p).isSome)

/-- All numbers but the last are bytes; the last one fills the bytes that are left. -/
def ofNumbers? : Nat → List Nat → Option Nat
  | _, [] => none
  | room, [n] => if n < room then some n else none
  | room, n :: m :: ns =>
    if n < 256 then (ofNumbers? (room / 256) (m :: ns)).map (n * (room / 256) + ·) else none

def read? (t : Text) : Option Nat :=
  let ps := parts t
  if 4 < ps.length then none else (ps.mapM number?).bind (ofNumbers? 4294967296)

def write (n : Nat) : Text :=
  Text.joinWith ['.'] ([n / 16777216, n / 65536 % 256, n / 256 % 256, n % 256].map Text.ofNat)

end Ipv4

namespace Ipv6

def group? (t : Text) : Option Nat :=
  if t.isEmpty ∨ 4 < t.length then none
  else t.foldlM (fun n c => (Text.hexValue? c).map fun d => 16 * n + d) 0

/-- A decimal number below 256, without leading zeros. -/
def byte? (t : Text) : Option Nat :=
  if t.isEmpty ∨ !t.all Char.isDigit ∨ (1 < t.length ∧ t.head? = some '0') then none
  else
    let n := t.foldl (fun n c => 10 * n + (c.toNat - 48)) 0
    if n < 256 then some n else none

def tail? (t : Text) : Option (List Nat) :=
  match (t.splitOn '.').mapM byte? with
  | some [a, b, c, d] => some [a * 256 + b, c * 256 + d]
  | _ => none

/-- Groups with colons between them; the last one may be written in decimal if `mixed`. -/
def groups? (mixed : Bool) : List Text → Option (List Nat)
  | [] => some []
  | [g] => if mixed && g.contains '.' then tail? g else (group? g).map ([·])
  | g :: h :: gs => (group? g).bind fun n => (groups? mixed (h :: gs)).map (n :: ·)

def side? (mixed : Bool) (t : Text) : Option (List Nat) :=
  if t.isEmpty then some [] else groups? mixed (t.splitOn ':')

def splitGap? : Text → Option (Text × Text)
  | ':' :: ':' :: t => some ([], t)
  | c :: t => (splitGap? t).map fun (s, u) => (c :: s, u)
  | [] => none

/-- The eight groups of an address; a double colon stands for one or more groups of zero. -/
def read? (t : Text) : Option (List Nat) :=
  match splitGap? t with
  | none => (side? true t).filter (·.length == 8)
  | some (s, u) => do
    let before ← side? false s
    let after ← side? true u
    let n := before.length + after.length
    if n < 8 then some (before ++ List.replicate (8 - n) 0 ++ after) else none

def zeros (gs : List Nat) : Nat := (gs.takeWhile (· == 0)).length

/-- Start and length of the first longest run of zeros, from position `i` on. -/
def longestZeros (i : Nat) : List Nat → Nat × Nat
  | [] => (i, 0)
  | g :: gs =>
    let later := longestZeros (i + 1) gs
    if later.2 ≤ zeros (g :: gs) then (i, zeros (g :: gs)) else later

def writeGroups (gs : List Nat) : Text := Text.joinWith [':'] (gs.map Text.hex)

/-- The longest run of two or more zeros is left out. -/
def write (gs : List Nat) : Text :=
  let (i, n) := longestZeros 0 gs
  if n < 2 then writeGroups gs
  else writeGroups (gs.take i) ++ "::".toList ++ writeGroups (gs.drop (i + n))

end Ipv6

end Textbase.Url
