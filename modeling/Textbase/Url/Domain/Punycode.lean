import Textbase.Text.Basic

/-! Names in ASCII. The ASCII characters of a name are written first, and after a hyphen follow the
places of the others: every one of them is inserted at its place, in the order of their code
points, and only the distance from the last place to the next is written. Distances are numbers in
base 36 whose digits tell by their size where a number ends. -/
namespace Textbase.Url.Domain

/-- Values up to 25 are letters, those from 26 are digits. -/
def digitOf (n : Nat) : Char := if n < 26 then Char.ofNat (97 + n) else Char.ofNat (22 + n)

def digitValue? (c : Char) : Option Nat :=
  if c.isLower then some (c.toNat - 97)
  else if c.isDigit then some (c.toNat - 22)
  else none

/-- A digit below this one ends the number; `weight` grows by 36 from digit to digit. -/
def endBelow (bias weight : Nat) : Nat := min 26 (max 1 (weight - bias))

/-- Divides by 35 until the number is small, and adds 36 for every time. -/
def shrink (n sum : Nat) : Nat × Nat :=
  if 455 < n then shrink (n / 35) (sum + 36) else (n, sum)
termination_by n
decreasing_by exact Nat.div_lt_self (Nat.zero_lt_of_lt ‹_›) (by decide)

/-- The bias for the next distance after `distance`, when the text has `size` characters. -/
def nextBias (isFirst : Bool) (distance size : Nat) : Nat :=
  let n := distance / (if isFirst then 700 else 2)
  let (small, sum) := shrink (n + n / size) 0
  sum + 36 * small / (small + 38)

theorem digits_decrease {e n : Nat} (h : ¬n < e) (he : 0 < e) : (n - e) / (36 - e) < n :=
  Nat.lt_of_le_of_lt (Nat.div_le_self _ _) (by omega)

theorem endBelow_pos (bias weight : Nat) : 0 < endBelow bias weight := by
  unfold endBelow
  omega

def writeDistance (bias weight n : Nat) : Text :=
  let e := endBelow bias weight
  if n < e then [digitOf n]
  else digitOf (e + (n - e) % (36 - e)) :: writeDistance bias (weight + 36) ((n - e) / (36 - e))
termination_by n
decreasing_by exact digits_decrease ‹_› (endBelow_pos bias weight)

/-- Distances one after another; `size` is the number of characters before the next one. -/
def writeDistances (isFirst : Bool) (bias size : Nat) : List Nat → Text
  | [] => []
  | n :: ns =>
    writeDistance bias 36 n ++ writeDistances false (nextBias isFirst n (size + 1)) (size + 1) ns

/-- What has been read of a distance: its value and the factor of its next digit. -/
structure Unfinished where
  value : Nat
  factor : Nat
  weight : Nat

def Unfinished.start : Unfinished := ⟨0, 1, 36⟩

def readDistances? (isFirst : Bool) (bias size : Nat) (p : Unfinished) : Text → Option (List Nat)
  | [] => if p.weight = 36 then some [] else none
  | c :: t =>
    (digitValue? c).bind fun d =>
      let e := endBelow bias p.weight
      let n := p.value + d * p.factor
      if d < e then
        (readDistances? false (nextBias isFirst n (size + 1)) (size + 1) .start t).map (n :: ·)
      else readDistances? isFirst bias size ⟨n, p.factor * (36 - e), p.weight + 36⟩ t

/-- Inserts characters at distances. A place is a code point and an index; indices are below
`t.length + 1`, and the distance runs through all of them for one code point before the next. -/
def insertAll? (point index : Nat) (t : Text) : List Nat → Option Text
  | [] => some t
  | n :: ns =>
    let m := point + (index + n) / (t.length + 1)
    let i := (index + n) % (t.length + 1)
    if m.isValidChar then insertAll? m (i + 1) (t.insertIdx i (Char.ofNat m)) ns else none

def isAscii (t : Text) : Bool := t.all fun c => c.toNat < 128

def pointsOf (t : Text) : List Nat :=
  (((t.map Char.toNat).filter (128 ≤ ·)).mergeSort (· ≤ ·)).eraseDups

def placesOf (t : Text) (m : Nat) : List (Nat × Nat) :=
  (((t.map Char.toNat).filter (· ≤ m)).zipIdx.filter fun x => x.1 == m)

/-- The distances between places, of which the first is looked for from `point` and `index` on. -/
def distances (point index size : Nat) : List (Nat × Nat) → List Nat
  | [] => []
  | (m, i) :: ps =>
    ((m - point) * (size + 1) + i - index) :: distances m (i + 1) (size + 1) ps

def toPunycode (t : Text) : Text :=
  let basic := t.filter fun c => c.toNat < 128
  let ns := distances 128 0 basic.length ((pointsOf t).flatMap (placesOf t))
  (if basic.isEmpty then [] else basic ++ ['-']) ++ writeDistances true 72 basic.length ns

/-- The parts of a text before and after its last hyphen, if there is one after the first
character. -/
def splitBasic (t : Text) : Text × Text :=
  let rest := (t.reverse.takeWhile (· != '-')).reverse
  let basic := t.take (t.length - rest.length - 1)
  if basic.isEmpty then ([], t) else (basic, rest)

def ofPunycode? (t : Text) : Option Text :=
  let (basic, rest) := splitBasic t
  if isAscii basic then
    (readDistances? true 72 basic.length .start rest).bind (insertAll? 128 0 basic)
  else none

end Textbase.Url.Domain
