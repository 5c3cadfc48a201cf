import Textbase.Text.Hex

/-! Percent encoding: a character that a part of an address may not hold is written as the bytes of
its UTF-8 encoding, each as a percent sign and two digits. -/
namespace Textbase.Url

def hexUpper (n : Nat) : Char := (Nat.digitChar n).toUpper

def encodeByte (b : UInt8) : Text := ['%', hexUpper (b.toNat / 16), hexUpper (b.toNat % 16)]

/-- Printable ASCII characters stay, but for those that `avoid` names; all else is encoded. -/
def encode (avoid : Text) (t : Text) : Text :=
  t.flatMap fun c =>
    if ' ' ≤ c ∧ c ≤ '~' ∧ ¬avoid.contains c then [c]
    else (String.utf8EncodeChar c).flatMap encodeByte

def encodeOpaque : Text → Text := encode []

def encodeFragment : Text → Text := encode " \"<>\x60".toList

def encodeQuery : Text → Text := encode " \"#<>".toList

/-- As `encodeQuery`, for a scheme with a name of its own. -/
def encodeSpecialQuery : Text → Text := encode " \"#<>'".toList

def encodePath : Text → Text := encode " \"<>\x60#?\x7b\x7d".toList

def encodeUser : Text → Text := encode " \"<>\x60#?\x7b\x7d/:;=@[\\]^|".toList

/-- The bytes of a text; a percent sign without two digits after it stands for itself. -/
def decode : Text → List UInt8
  | '%' :: a :: b :: t =>
    match Text.hexValue? a, Text.hexValue? b with
    | some x, some y => UInt8.ofNat (x * 16 + y) :: decode t
    | _, _ => '%'.toUInt8 :: decode (a :: b :: t)
  | c :: t => String.utf8EncodeChar c ++ decode t
  | [] => []

def decodeText? (t : Text) : Option Text :=
  (String.fromUTF8? ⟨(decode t).toArray⟩).map String.toList

end Textbase.Url
