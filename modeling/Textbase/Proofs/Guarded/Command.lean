import Textbase.Proofs.Guarded.Filter
import Textbase.Proofs.Store.Step

/-! Commands read by position: the opening words are cut off the text one after the other, and the
tokens of a command are looked up by their number once it is known that there are enough. -/
namespace Textbase.Guarded

/-- At most `n` words at the start of a text, in lower case. -/
def openingWords : Nat → Text → Guarded (List Text)
  | 0, _ => pure []
  | n + 1, t => do
    let u := Text.trimStart t
    let length := Text.byteLength (u.takeWhile Text.isNameChar)
    if length = 0 then pure []
    else do
      let word ← slice u 0 length
      let rest ← slice u length (Text.byteLength u)
      let words ← openingWords n rest
      pure (Text.lower word :: words)

/-- A word ends between two characters, so both it and the text after it can be cut out. -/
theorem openingWords_succ (n : Nat) (t : Text) :
    openingWords (n + 1) t =
      match Text.openingWord? t with
      | none => .ok []
      | some (word, rest) => (openingWords n rest).map (word :: ·) := by
  have hu : (Text.trimStart t).takeWhile Text.isNameChar ++
      (Text.trimStart t).dropWhile Text.isNameChar = Text.trimStart t :=
    List.takeWhile_append_dropWhile
  simp only [openingWords, Text.openingWord?]
  generalize Text.trimStart t = u at hu ⊢
  have hword := Text.slice?_append [] (u.takeWhile Text.isNameChar) (u.dropWhile Text.isNameChar)
  have hrest := Text.slice?_append (u.takeWhile Text.isNameChar) (u.dropWhile Text.isNameChar) []
  simp only [List.nil_append, List.append_nil, Text.byteLength_nil, Nat.zero_add, hu,
    ← Text.byteLength_append] at hword hrest
  by_cases hw : u.takeWhile Text.isNameChar = []
  · simp [hw, pure, Except.pure]
  · rw [if_neg (mt Text.byteLength_eq_zero_iff.1 hw), if_neg (by simpa using hw),
      slice_eq_ok hword, slice_eq_ok hrest]
    cases hn : openingWords n (u.dropWhile Text.isNameChar) <;>
      simp [hn, bind, Except.bind, Except.map, pure, Except.pure]

theorem openingWords_two (t : Text) :
    openingWords 2 t = .ok (match Text.openingWord? t with
      | none => []
      | some (first, u) => first :: ((Text.openingWord? u).map (·.1)).toList) := by
  rw [openingWords_succ]
  cases Text.openingWord? t with
  | none => rfl
  | some word =>
    dsimp only
    rw [openingWords_succ]
    cases Text.openingWord? word.2 <;> rfl

/-- The verb that starts with these words, as far as there are any. -/
def verbOfWords (first second : Option Text) : Option Verb :=
  if (first == some "make".toList || first == some "create".toList) &&
      second == some "table".toList then
    some .create
  else if first == some "insert".toList && second == some "into".toList then some .insert
  else if first == some "select".toList then some .select
  else none

/-- As `Verb.of?`. -/
def verb? (t : Text) : Guarded (Option Verb) := do
  let words ← openingWords 2 t
  pure (verbOfWords words[0]? words[1]?)

theorem verb?_eq (t : Text) : verb? t = .ok (Verb.of? t) := by
  rw [verb?, openingWords_two, Verb.of?]
  cases Text.openingWord? t with
  | none => rfl
  | some word =>
    obtain ⟨first, u⟩ := word
    have hsecond : ∀ second : Option Text, (first :: second.toList)[1]? = second := by
      rintro (_ | _) <;> rfl
    simp only [bind, Except.bind, Option.bind, hsecond, List.getElem?_cons_zero, verbOfWords,
      Option.some_beq_some]
    rfl

variable {source : Text} {all ts : List Token}

def splitList (source : Text) (ts : List Token) : Guarded (List Text) :=
  (ts.splitOnP fun t => t.lexeme == .comma).mapM fun run => do
    let covered ← sourceText source run
    pure (Text.trim covered)

theorem splitList_eq (h : Token.scan source = .ok all) (hts : ts.Sublist all) :
    splitList source ts = .ok (Token.items source ts) := by
  refine mapM_eq_ok fun run hr => ?_
  rw [sourceText_eq h ((Token.sublist_of_mem_splitOnP hr).trans hts)]
  rfl

def readList (verb : Verb) (second fourth : Text) (source : Text) (ts : List Token) :
    ExceptT Error Guarded (Text × List Text) :=
  if ts.length < 5 then throw (.malformed verb .usage)
  else do
    let joint ← liftM (item ts 1)
    if joint.isWord second then do
      let name ← liftM (item ts 2)
      let table ← liftExcept (Command.tableName verb name)
      let opener ← liftM (item ts 3)
      if opener.isWord fourth then do
        let list ← liftM (itemsFrom ts 4)
        let items ← liftM (splitList source list)
        pure (table, items)
      else throw (.malformed verb .usage)
    else throw (.malformed verb .usage)

theorem readList_gives (h : Token.scan source = .ok ts) (verb : Verb) (second fourth : Text) :
    Gives (readList verb second fourth source ts)
      (Command.readList verb second fourth source ts) := by
  unfold Command.readList
  split
  · rename_i v joint name opener t rest
    have hlist : itemsFrom (v :: joint :: name :: opener :: t :: rest) 4 = .ok (t :: rest) :=
      itemsFrom_append [v, joint, name, opener] (t :: rest)
    have hitems : splitList source (t :: rest) = .ok (Token.items source (t :: rest)) :=
      splitList_eq h (List.sublist_append_right [v, joint, name, opener] _)
    rw [readList, if_neg (by simp)]
    refine .lift_bind (a := joint) rfl ?_
    split
    · refine .lift_bind (a := name) rfl (.bind (.except _) fun table _ =>
        .lift_bind (a := opener) rfl ?_)
      split
      · exact .lift_bind hlist (.lift_bind hitems (.pure _))
      · exact .throw _
    · exact .throw _
  · rename_i hshort
    rcases ts with - | ⟨_, - | ⟨_, - | ⟨_, - | ⟨_, - | ⟨_, _⟩⟩⟩⟩⟩
    iterate 5 exact .throw _
    exact absurd rfl (hshort _ _ _ _ _ _)

def readCreate (source : Text) : ExceptT Error Guarded Command := do
  let ts ← liftExcept (Command.scan .create source)
  let (table, columns) ← readList .create "table".toList "fields".toList source ts
  if columns.any List.isEmpty then throw (.malformed .create .emptyField)
  else pure (.create table columns)

theorem readCreate_gives (source : Text) :
    Gives (readCreate source) (Command.readCreate source) := by
  refine .bind (.except _) fun ts hs => ?_
  refine .bind (readList_gives (Command.scan_eq_ok_iff.1 hs) _ _ _) fun (table, columns) _ => ?_
  dsimp only
  split
  · exact .throw _
  · exact .pure _

def readInsert (source : Text) : ExceptT Error Guarded Command := do
  let ts ← liftExcept (Command.scan .insert source)
  let (table, list) ← readList .insert "into".toList "values".toList source ts
  let values ← liftM (list.mapM unquote)
  pure (.insert table values)

theorem readInsert_gives (source : Text) :
    Gives (readInsert source) (Command.readInsert source) := by
  refine .bind (.except _) fun ts hs => ?_
  refine .bind (readList_gives (Command.scan_eq_ok_iff.1 hs) _ _ _) fun (table, list) _ => ?_
  exact .lift_bind (mapM_eq_ok fun v _ => unquote_eq v) (.pure _)

/-- The tokens of a selection after its verb, as `Command.readSelect` takes them. -/
def readSelection (source : Text) (ts : List Token) : ExceptT Error Guarded Command :=
  if ts.length < 4 then throw (.malformed .select .usage)
  else do
    let star ← liftM (item ts 1)
    let joint ← liftM (item ts 2)
    if star.lexeme == .star && joint.isWord "from".toList then do
      let name ← liftM (item ts 3)
      let table ← liftExcept (Command.tableName .select name)
      if ts.length = 4 then pure (.select table none)
      else do
        let t ← liftM (item ts 4)
        if t.isWord "where".toList then do
          let condition ← liftM (itemsFrom ts 5)
          let filter ← ofTokens source condition
          pure (.select table (some filter))
        else throw (.malformed .select .usage)
    else throw (.malformed .select .usage)

def readSelect (source : Text) : ExceptT Error Guarded Command := do
  let ts ← liftExcept (Command.scan .select source)
  readSelection source ts

theorem readSelect_gives (source : Text) :
    Gives (readSelect source) (Command.readSelect source) := by
  refine .bind (.except _) fun ts hs => ?_
  have h := Command.scan_eq_ok_iff.1 hs
  split
  · rename_i v star joint name rest
    rw [readSelection, if_neg (by simp)]
    refine .lift_bind (a := star) rfl (.lift_bind (a := joint) rfl ?_)
    split
    · refine .lift_bind (a := name) rfl (.bind (.except _) fun table _ => ?_)
      cases rest with
      | nil => exact .pure _
      | cons t condition =>
        have hcondition :
            itemsFrom (v :: star :: joint :: name :: t :: condition) 5 = .ok condition :=
          itemsFrom_append [v, star, joint, name, t] condition
        have hfilter : Gives (ofTokens source condition) (Filter.ofTokens source condition) :=
          ofTokens_gives h (List.sublist_append_right [v, star, joint, name, t] _)
        rw [if_neg (by simp)]
        refine .lift_bind (a := t) rfl ?_
        dsimp only
        split
        · exact .lift_bind hcondition (.bind hfilter fun filter _ => .pure _)
        · exact .throw _
    · exact .throw _
  · rename_i hshort
    rcases ts with - | ⟨_, - | ⟨_, - | ⟨_, - | ⟨_, _⟩⟩⟩⟩
    iterate 4 exact .throw _
    exact absurd rfl (hshort _ _ _ _ _)

def parse (t : Text) : ExceptT Error Guarded Command := do
  let source := Text.trim t
  match ← liftM (verb? source) with
  | none => throw (.ofUnrecognized source)
  | some .create => readCreate source
  | some .insert => readInsert source
  | some .select => readSelect source

theorem parse_gives (t : Text) : Gives (parse t) (Command.parse t) := by
  refine .lift_bind (verb?_eq (Text.trim t)) ?_
  rw [Command.parse]
  cases Verb.of? (Text.trim t) with
  | none => exact .throw _
  | some verb =>
    cases verb with
    | create => exact readCreate_gives _
    | insert => exact readInsert_gives _
    | select => exact readSelect_gives _

def execute (db : Database) (t : Text) : Guarded (Database × Except Error Outcome) := do
  match ← (parse t).run with
  | .ok c => pure (db.run c)
  | .error e => pure (db, .error e)

theorem execute_eq (db : Database) (t : Text) : execute db t = .ok (db.execute t) := by
  rw [execute, parse_gives t, Database.execute]
  cases Command.parse t <;> rfl

end Textbase.Guarded
