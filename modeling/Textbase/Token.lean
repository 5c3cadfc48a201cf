import Textbase.Relation

/-! Tokens of command text: words, quoted text, commas, stars and relation symbols, each with the
offset where it starts. Whitespace separates tokens and is not one. Quotes open quoted text only at
the start of a token, so `it's` is one word. -/
namespace Textbase

inductive Lexeme
  | word (text : Text)
  | quoted (mark : Char) (body : Text)
  | comma
  | star
  | relation (r : Relation)
  deriving DecidableEq, Repr

structure UnclosedQuote where
  mark : Char
  deriving DecidableEq, Repr

def UnclosedQuote.message (e : UnclosedQuote) : Text :=
  "Unclosed quote (".toList ++ e.mark :: ") in input".toList

namespace Lexeme

/-- What the lexeme says, without the marks of quoted text. -/
def text : Lexeme → Text
  | word t => t
  | quoted _ t => t
  | comma => [',']
  | star => ['*']
  | relation r => r.symbol

def source : Lexeme → Text
  | quoted q t => q :: t ++ [q]
  | x => x.text

/-- Whether a word that stands before the text ends there. -/
def endsWord : Text → Bool
  | [] => true
  | c :: t => c == ',' || c == '*' || Text.isSpace c || (Relation.read? (c :: t)).isSome

/-- The longest beginning in which no word ends, and the rest. -/
def splitWord : Text → Text × Text
  | [] => ([], [])
  | c :: t =>
    if endsWord (c :: t) then ([], c :: t)
    else (c :: (splitWord t).1, (splitWord t).2)

/-- The text up to the first `q`, and the text after it. -/
def splitAtMark (q : Char) : Text → Option (Text × Text)
  | [] => none
  | c :: t => if c = q then some ([], t) else (splitAtMark q t).map fun (b, r) => (c :: b, r)

/-- The lexeme that starts with `c`, which is no whitespace, and the text after it. -/
def read (c : Char) (t : Text) : Except UnclosedQuote (Lexeme × Text) :=
  if c = ',' then .ok (comma, t)
  else if c = '*' then .ok (star, t)
  else if Value.isQuote c then
    match splitAtMark c t with
    | none => .error ⟨c⟩
    | some (b, r) => .ok (quoted c b, r)
  else
    match Relation.read? (c :: t) with
    | some (r, u) => .ok (relation r, u)
    | none => .ok (word (c :: (splitWord t).1), (splitWord t).2)

theorem splitWord_append (t : Text) : (splitWord t).1 ++ (splitWord t).2 = t := by
  induction t with
  | nil => rfl
  | cons c t ih =>
    by_cases h : endsWord (c :: t)
    · simp [splitWord, h]
    · simpa [splitWord, h] using ih

theorem append_of_splitAtMark {q : Char} {t b r : Text} (h : splitAtMark q t = some (b, r)) :
    b ++ q :: r = t := by
  induction t generalizing b with
  | nil => simp [splitAtMark] at h
  | cons c t ih =>
    simp only [splitAtMark] at h
    split at h
    · simp_all
    · obtain ⟨⟨b', r'⟩, hb, he⟩ := Option.map_eq_some_iff.1 h
      simp only [Prod.mk.injEq] at he
      obtain ⟨rfl, rfl⟩ := he
      simp [ih hb]

/-- Nothing is lost: a lexeme is written as the text that was read. -/
theorem source_append_of_read {c : Char} {t r : Text} {x : Lexeme} (h : read c t = .ok (x, r)) :
    x.source ++ r = c :: t := by
  unfold read at h
  (repeat' split at h) <;> simp only [Except.ok.injEq, Prod.mk.injEq, reduceCtorEq] at h
  all_goals obtain ⟨rfl, rfl⟩ := h
  · rename_i hc
    simp [source, text, hc]
  · rename_i hc
    simp [source, text, hc]
  · rename_i hs
    simp [source, append_of_splitAtMark hs]
  · rename_i hs
    exact Relation.symbol_append_of_read? hs
  · simp [source, text, splitWord_append]

theorem source_ne_nil (x : Lexeme) (h : x ≠ word []) : x.source ≠ [] := by
  cases x <;> simp_all [source, text, Relation.symbol_ne_nil]

theorem source_ne_nil_of_read {c : Char} {t r : Text} {x : Lexeme} (h : read c t = .ok (x, r)) :
    x.source ≠ [] := by
  refine source_ne_nil x ?_
  rintro rfl
  unfold read at h
  (repeat' split at h) <;> simp at h

theorem length_lt_of_read {c : Char} {t r : Text} {x : Lexeme} (h : read c t = .ok (x, r)) :
    r.length < (c :: t).length := by
  have hs := congrArg List.length (source_append_of_read h)
  have hn := List.length_pos_iff.2 (source_ne_nil_of_read h)
  simp only [List.length_append] at hs
  omega

end Lexeme

structure Token where
  lexeme : Lexeme
  start : Nat
  deriving DecidableEq, Repr

namespace Token

def text (t : Token) : Text := t.lexeme.text

def stop (t : Token) : Nat := t.start + Text.byteLength t.lexeme.source

/-- Whether the token is the bare word `k`, whatever the case of its ASCII letters. -/
def isWord (t : Token) (k : Text) : Bool :=
  match t.lexeme with
  | .word w => Text.sameFolded w k
  | _ => false

@[simp] theorem isWord_word (w k : Text) (start : Nat) :
    isWord ⟨.word w, start⟩ k = Text.sameFolded w k := rfl

/-- The tokens of a text that stands at offset `pos`. -/
def scanFrom (pos : Nat) : Text → Except UnclosedQuote (List Token)
  | [] => .ok []
  | c :: t =>
    if Text.isSpace c then scanFrom (pos + c.utf8Size) t
    else
      match h : Lexeme.read c t with
      | .error e => .error e
      | .ok (x, r) =>
        have := Lexeme.length_lt_of_read h
        match scanFrom (pos + Text.byteLength x.source) r with
        | .error e => .error e
        | .ok ts => .ok (⟨x, pos⟩ :: ts)
termination_by t => t.length
decreasing_by
  · exact Nat.lt_succ_self _
  · exact this

theorem scanFrom_space {c : Char} (h : Text.isSpace c = true) (pos : Nat) (t : Text) :
    scanFrom pos (c :: t) = scanFrom (pos + c.utf8Size) t := by
  simp [scanFrom, h]

theorem scanFrom_read {c : Char} {t r : Text} {x : Lexeme} (hc : Text.isSpace c = false)
    (h : Lexeme.read c t = .ok (x, r)) (pos : Nat) :
    scanFrom pos (c :: t) =
      (scanFrom (pos + Text.byteLength x.source) r).map (⟨x, pos⟩ :: ·) := by
  rw [scanFrom]
  simp only [hc, Bool.false_eq_true, if_false]
  split
  · simp_all
  · rename_i hx
    simp only [h, Except.ok.injEq, Prod.mk.injEq] at hx
    obtain ⟨rfl, rfl⟩ := hx
    cases scanFrom (pos + Text.byteLength x.source) r <;> rfl

def scan (t : Text) : Except UnclosedQuote (List Token) := scanFrom 0 t

@[simp] theorem scan_nil : scan [] = .ok [] := by simp [scan, scanFrom]

/-- The part of `source` from the start of the first token to the end of the last. -/
def sourceText (source : Text) (ts : List Token) : Text :=
  match ts.head?, ts.getLast? with
  | some a, some b => (Text.slice? source a.start b.stop).getD []
  | _, _ => []

@[simp] theorem sourceText_nil (source : Text) : sourceText source [] = [] := rfl

end Token

end Textbase
