import Textbase.Url.Encoding

/-! Paths of addresses: segments between slashes, in which dots lead to the same place or one up. -/
namespace Textbase.Url

def isSingleDot (s : Text) : Bool := [".", "%2e"].any fun d => Text.foldAscii s == d.toList

def isDoubleDot (s : Text) : Bool :=
  ["..", ".%2e", "%2e.", "%2e%2e"].any fun d => Text.foldAscii s == d.toList

/-- A letter and a colon or bar, as in paths on a drive. -/
def isDrive : Text → Bool
  | [a, b] => a.isAlpha && (b == ':' || b == '|')
  | _ => false

/-- The segments, last one first, without the last one, unless it is a drive. -/
def leave : List Text → List Text
  | [] => []
  | s :: ss => if isDrive s then s :: ss else ss

/-- At the start of a file's path the bar of a drive becomes a colon. -/
def settle (isFile : Bool) (done : List Text) (s : Text) : Text :=
  if isFile && done.isEmpty && isDrive s then s.take 1 ++ [':'] else s

/-- The segments after those of `done`, last one first, with dots carried out. -/
def walk (isFile : Bool) (done : List Text) : List Text → List Text
  | [] => done
  | [s] =>
    if isDoubleDot s then [] :: leave done
    else if isSingleDot s then [] :: done
    else settle isFile done s :: done
  | s :: t :: ss =>
    if isDoubleDot s then walk isFile (leave done) (t :: ss)
    else if isSingleDot s then walk isFile done (t :: ss)
    else walk isFile (settle isFile done s :: done) (t :: ss)

/-- The segments of a path without a slash at its start; they are encoded and the dots carried
out. Backslashes count as slashes where the scheme has a name of its own. -/
def segments (isSpecial isFile : Bool) (t : Text) : List Text :=
  let isSlash (c : Char) : Bool := c == '/' || isSpecial && c == '\\'
  (walk isFile [] ((t.splitOnP isSlash).map encodePath)).reverse

def joinSegments (ss : List Text) : Text := '/' :: Text.joinWith ['/'] ss

end Textbase.Url
