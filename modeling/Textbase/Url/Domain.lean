import Textbase.Url.Domain.Composition
import Textbase.Url.Domain.Direction
import Textbase.Url.Domain.Joining
import Textbase.Url.Domain.Mapping
import Textbase.Url.Domain.Punycode

/-! Names of hosts in the domain name system: labels with dots between them. Names in other scripts
have one spelling, and an ASCII form. -/
namespace Textbase.Url.Domain

def spelling? (t : Text) : Option Text := (t.mapM image?).map fun images => composed images.flatten

/-- What an ASCII label that stands for another one starts with. -/
def mask : Text := "xn--".toList

/-- Whether a label that is not ASCII stands for itself. -/
def isSound (label : Text) : Bool := !(label.head?.any isMark) && joinersFit label

def reveal? (label : Text) : Option Text :=
  if mask.isPrefixOf label then
    match ofPunycode? (label.drop mask.length) with
    | some u => if !isAscii u && spelling? u == some u && isSound u then some u else none
    | none => none
  else if isAscii label || isSound label then some label
  else none

def conceal (label : Text) : Text := if isAscii label then label else mask ++ toPunycode label

def toAscii? (bytes : List UInt8) : Option Text := do
  let t ← (String.fromUTF8? ⟨bytes.toArray⟩).map String.toList
  let labels ← ((← spelling? t).splitOnP (· == '.')).mapM reveal?
  if labels.any runsLeft && !labels.all keepsDirection then none
  else some (Text.joinWith ['.'] (labels.map conceal))

end Textbase.Url.Domain
