import Textbase.Shell.Disk
import Textbase.Shell.Path
import Textbase.Store.Keyed

/-! The files below one directory. A place is given by the names on the way to it; what lies
elsewhere is not known: nothing is read there, and what is made there does not show. -/
namespace Textbase.Shell

structure Files where
  /-- The folders that were made for their own sake. -/
  folders : List (List Text)
  /-- By place, with slashes between the names. -/
  contents : Keyed ByteArray

namespace Files

def empty : Files := ⟨[], .empty⟩

def key (place : List Text) : Text := Text.joinWith ['/'] place

/-- The directory itself, the folders that were made, and those with something in them. -/
def isFolder (fs : Files) (place : List Text) : Bool :=
  place.isEmpty || fs.folders.contains place ||
    fs.contents.names.any fun n =>
      place.isPrefixOf (Path.parts n) && place.length < (Path.parts n).length

inductive Item
  | folder
  | file (content : ByteArray)

/-- Longer paths lead nowhere, whatever their parts are. -/
def isTooLong (p : Text) : Bool := !Text.fitsBytes 4095 p

def item (fs : Files) (here : List Text) (x : Text) : Except FileFault Item :=
  if 255 < Text.byteLength x then .error .nameTooLong
  else if fs.isFolder (here ++ [x]) then .ok .folder
  else
    match fs.contents.get? (key (here ++ [x])) with
    | some c => .ok (.file c)
    | none => .error .notFound

def enter (fs : Files) (here : List Text) : List Text → Except FileFault (List Text)
  | [] => .ok here
  | x :: xs =>
    if x = ['.', '.'] then fs.enter here.dropLast xs
    else
      match fs.item here x with
      | .ok .folder => fs.enter (here ++ [x]) xs
      | .ok (.file _) => .error .notFolder
      | .error e => .error e

def leadsToFolder (fs : Files) (steps : List Text) : Bool := (fs.enter [] steps).toBool

/-- The content of the file at a path. A path that ends in a slash or in dots names no file. -/
def read? (fs : Files) (p : Text) : Option ByteArray :=
  match (Path.parts p).getLast? with
  | none => none
  | some x =>
    if isTooLong p || !Path.isInside p || x = [] || x = ['.'] || x = ['.', '.'] then none
    else
      match (fs.enter [] (Path.steps p).dropLast).bind fun here => fs.item here x with
      | .ok (.file c) => some c
      | _ => none

/-- The files after a folder was made, given by the steps to it, last one first. -/
def make (fs : Files) : List Text → Except FileFault Files
  | [] => .error .exists
  | x :: before => do
    let here ← fs.enter [] before.reverse
    if x = ['.', '.'] then .error .exists
    else
      match fs.item here x with
      | .ok _ => .error .exists
      | .error .notFound => .ok ⟨(here ++ [x]) :: fs.folders, fs.contents⟩
      | .error e => .error e

def ensure (fs : Files) (steps : List Text) : Files × Option FileFault :=
  match fs.make steps with
  | .ok after => (after, none)
  | .error e => (fs, if fs.leadsToFolder steps.reverse then none else some e)

/-- As `ensure`, with the folders above it. What was made stays when the rest cannot be made. -/
def ensureAll (fs : Files) : List Text → Files × Option FileFault
  | [] => (fs, none)
  | x :: before =>
    match fs.ensure (x :: before) with
    | (after, some .notFound) =>
      match after.ensureAll before with
      | (above, none) => above.ensure (x :: before)
      | r => r
    | r => r

def makeFolder (fs : Files) (p : Text) : Files × Option FileFault :=
  if isTooLong p then (fs, some .nameTooLong)
  else if Path.isInside p then fs.ensureAll (Path.steps p).reverse
  else (fs, none)

def target (fs : Files) (p : Text) : Except FileFault (List Text) :=
  if isTooLong p then .error .nameTooLong
  else do
    let here ← fs.enter [] (Path.steps p).dropLast
    match (Path.steps p).getLast? with
    | none => .error .exists
    | some x =>
      match fs.item here x with
      | .ok .folder => .error .exists
      | .error .nameTooLong => .error .nameTooLong
      | _ => .ok (here ++ [x])

def write (fs : Files) (p : Text) (content : ByteArray) : Files :=
  if !Path.isInside p then fs
  else
    match fs.target p with
    | .ok place => ⟨fs.folders, fs.contents.put (key place) content⟩
    | .error _ => fs

def barrier? (fs : Files) (folder file : Text) : Option (Text × FileFault) :=
  match fs.makeFolder folder with
  | (_, some e) => some (folder, e)
  | (after, none) =>
    if !isTooLong file && !Path.isInside file then none
    else
      match after.target file with
      | .ok _ => none
      | .error e => some (file, e)

def disk (fs : Files) : Disk := ⟨fs.read?, fs.barrier?⟩

def apply (fs : Files) : FileAction → Files
  | .makeFolder p => (fs.makeFolder p).1
  | .write p t => fs.write p (String.ofList t).toUTF8

def ofList (entries : List (Text × ByteArray)) : Files :=
  ⟨[], entries.foldl (fun k (p, c) => k.put (key (Path.steps p)) c) .empty⟩

end Files

end Textbase.Shell
