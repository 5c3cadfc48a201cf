import Textbase.Proofs.Json.Literal

/-! JSON values read back from their text. The text of a value is that of its symbols, whatever
stands after it, and the symbols are read as the value. -/
namespace Textbase.Json

mutual

def AllNatural : Json → Prop
  | null => True
  | bool _ => True
  | number literal => ∃ n, literal = Text.ofNat n
  | string _ => True
  | array xs => ItemsNatural xs
  | object fs => FieldsNatural fs

def ItemsNatural : List Json → Prop
  | [] => True
  | x :: xs => AllNatural x ∧ ItemsNatural xs

def FieldsNatural : List (Text × Json) → Prop
  | [] => True
  | (_, x) :: fs => AllNatural x ∧ FieldsNatural fs

end

theorem itemsNatural_iff {xs : List Json} : ItemsNatural xs ↔ ∀ x ∈ xs, AllNatural x := by
  induction xs with
  | nil => simp [ItemsNatural]
  | cons x xs ih => simp [ItemsNatural, ih]

theorem fieldsNatural_iff {fs : List (Text × Json)} :
    FieldsNatural fs ↔ ∀ f ∈ fs, AllNatural f.2 := by
  induction fs with
  | nil => simp [FieldsNatural]
  | cons f fs ih => simp [FieldsNatural, ih]

mutual

def toSymbols : Json → List Symbol
  | null => [.null]
  | bool b => [.bool b]
  | number literal => [.number literal]
  | string s => [.string s]
  | array xs => .openBracket :: itemSymbols xs ++ [.closeBracket]
  | object fs => .openBrace :: fieldSymbols fs ++ [.closeBrace]

def itemSymbols : List Json → List Symbol
  | [] => []
  | [x] => toSymbols x
  | x :: y :: xs => toSymbols x ++ .comma :: itemSymbols (y :: xs)

def fieldSymbols : List (Text × Json) → List Symbol
  | [] => []
  | [(k, x)] => .string k :: .colon :: toSymbols x
  | (k, x) :: f :: fs => .string k :: .colon :: toSymbols x ++ .comma :: fieldSymbols (f :: fs)

end

/-! ### From text to symbols -/

theorem symbols_cons {c : Char} {t r : Text} {x : Symbol} (hc : c.isWhitespace = false)
    (h : readSymbol c t = (x, r)) (hx : x ≠ .junk) : symbols (c :: t) = x :: symbols r := by
  rw [symbols, if_neg (by simp [hc])]
  split
  · rename_i hj
    rw [h] at hj
    exact absurd (Prod.mk.inj hj).1 hx
  · rename_i hj
    rw [h, Prod.mk.injEq] at hj
    rw [hj.1, hj.2]

theorem symbols_quote (s rest : Text) : symbols (quote s ++ rest) = .string s :: symbols rest := by
  have hread : readSymbol '"' (s.flatMap escape ++ '"' :: rest) = (.string s, rest) := by
    simp [readSymbol, readPieces?_flatMap_escape, textOf?_map_pieceOf]
  have h := symbols_cons (by decide) hread (by simp)
  simpa [quote] using h

theorem symbols_ofNat (n : Nat) {rest : Text} (h : EndsNumber rest) :
    symbols (Text.ofNat n ++ rest) = .number (Text.ofNat n) :: symbols rest := by
  obtain ⟨d, ds, hd⟩ := List.exists_cons_of_ne_nil (Text.ofNat_ne_nil n)
  have hdigit : d.isDigit = true := Text.isDigit_of_mem_ofNat (n := n) (by simp [hd])
  have hread := readNumber?_ofNat n h
  rw [hd, List.cons_append] at hread ⊢
  -- A digit starts no other symbol.
  have hstarts : ∀ c ∈ ['{', '}', '[', ']', ':', ',', '"', 'n', 't', 'f'], d ≠ c ∧ c ≠ d := by
    have hnone : ['{', '}', '[', ']', ':', ',', '"', 'n', 't', 'f'].all (!·.isDigit) = true := rfl
    intro c hc
    have hother : (!c.isDigit) = true := List.all_eq_true.1 hnone c hc
    have hne : d ≠ c := by
      rintro rfl
      simp [hdigit] at hother
    exact ⟨hne, hne.symm⟩
  have hspace : d.isWhitespace = false := by
    rw [Bool.eq_false_iff]
    intro hw
    simp only [Char.isWhitespace, Bool.or_eq_true, decide_eq_true_eq] at hw
    rcases hw with ((rfl | rfl) | rfl) | rfl <;> exact absurd hdigit (by decide)
  simp only [List.forall_mem_cons, List.not_mem_nil, false_imp_iff, implies_true,
    and_true] at hstarts
  refine symbols_cons hspace ?_ (by simp)
  simp [readSymbol, hstarts, hread]

theorem endsNumber_nil : EndsNumber [] := by simp [EndsNumber]

theorem endsNumber_cons {c : Char} (h : c ∈ [',', ']', '}']) (t : Text) : EndsNumber (c :: t) := by
  have hc : c = ',' ∨ c = ']' ∨ c = '}' := by simpa using h
  rcases hc with rfl | rfl | rfl <;> simp [EndsNumber]

theorem symbols_comma (t : Text) : symbols (',' :: t) = .comma :: symbols t :=
  symbols_cons (by decide) rfl (by simp)
theorem symbols_colon (t : Text) : symbols (':' :: t) = .colon :: symbols t :=
  symbols_cons (by decide) rfl (by simp)
theorem symbols_openBracket (t : Text) : symbols ('[' :: t) = .openBracket :: symbols t :=
  symbols_cons (by decide) rfl (by simp)
theorem symbols_closeBracket (t : Text) : symbols (']' :: t) = .closeBracket :: symbols t :=
  symbols_cons (by decide) rfl (by simp)
theorem symbols_openBrace (t : Text) : symbols ('{' :: t) = .openBrace :: symbols t :=
  symbols_cons (by decide) rfl (by simp)
theorem symbols_closeBrace (t : Text) : symbols ('}' :: t) = .closeBrace :: symbols t :=
  symbols_cons (by decide) rfl (by simp)

theorem symbols_null (rest : Text) : symbols ("null".toList ++ rest) = .null :: symbols rest :=
  symbols_cons (c := 'n') (t := 'u' :: 'l' :: 'l' :: rest) (by decide) (by simp [readSymbol])
    (by simp)

theorem symbols_bool (b : Bool) (rest : Text) :
    symbols ((bool b).write ++ rest) = .bool b :: symbols rest := by
  cases b with
  | true =>
    exact symbols_cons (c := 't') (t := 'r' :: 'u' :: 'e' :: rest) (by decide)
      (by simp [readSymbol]) (by simp)
  | false =>
    exact symbols_cons (c := 'f') (t := 'a' :: 'l' :: 's' :: 'e' :: rest) (by decide)
      (by simp [readSymbol]) (by simp)

mutual

theorem symbols_write (x : Json) (hx : x.AllNatural) {rest : Text} (hr : EndsNumber rest) :
    symbols (x.write ++ rest) = x.toSymbols ++ symbols rest := by
  match x with
  | null => exact symbols_null rest
  | bool b => exact symbols_bool b rest
  | number literal =>
    obtain ⟨n, rfl⟩ := hx
    rw [write, symbols_ofNat n hr, toSymbols, List.singleton_append]
  | string s => rw [write, symbols_quote, toSymbols, List.singleton_append]
  | array xs =>
    have hitems := symbols_writeItems xs hx (endsNumber_cons (c := ']') (by simp) rest)
    simp only [write, toSymbols, List.cons_append, List.append_assoc, symbols_openBracket,
      List.nil_append, hitems, symbols_closeBracket]
  | object fs =>
    have hfields := symbols_writeFields fs hx (endsNumber_cons (c := '}') (by simp) rest)
    simp only [write, toSymbols, List.cons_append, List.append_assoc, symbols_openBrace,
      List.nil_append, hfields, symbols_closeBrace]

theorem symbols_writeItems (xs : List Json) (hxs : ItemsNatural xs) {rest : Text}
    (hr : EndsNumber rest) : symbols (writeItems xs ++ rest) = itemSymbols xs ++ symbols rest := by
  match xs with
  | [] => rfl
  | [x] => exact symbols_write x hxs.1 hr
  | x :: y :: xs =>
    have hfirst := symbols_write x hxs.1 (endsNumber_cons (c := ',') (by simp)
      (writeItems (y :: xs) ++ rest))
    have hlater := symbols_writeItems (y :: xs) hxs.2 hr
    simp only [writeItems, itemSymbols, List.append_assoc, List.cons_append, hfirst, symbols_comma,
      hlater]

theorem symbols_writeFields (fs : List (Text × Json)) (hfs : FieldsNatural fs) {rest : Text}
    (hr : EndsNumber rest) :
    symbols (writeFields fs ++ rest) = fieldSymbols fs ++ symbols rest := by
  match fs with
  | [] => rfl
  | [(k, x)] =>
    have hvalue := symbols_write x hfs.1 hr
    simp only [writeFields, fieldSymbols, List.append_assoc, List.cons_append, symbols_quote,
      symbols_colon, hvalue]
  | (k, x) :: f :: fs =>
    have hfirst := symbols_write x hfs.1 (endsNumber_cons (c := ',') (by simp)
      (writeFields (f :: fs) ++ rest))
    have hlater := symbols_writeFields (f :: fs) hfs.2 hr
    simp only [writeFields, fieldSymbols, List.append_assoc, List.cons_append, symbols_quote,
      symbols_colon, hfirst, symbols_comma, hlater]

end

/-! ### From symbols to values -/

theorem head?_toSymbols (x : Json) (ss : List Symbol) :
    (x.toSymbols ++ ss).head? ≠ some .closeBracket := by
  cases x <;> simp [toSymbols]

theorem head?_itemSymbols {xs : List Json} (hxs : xs ≠ []) (ss : List Symbol) :
    (itemSymbols xs ++ ss).head? ≠ some .closeBracket := by
  match xs, hxs with
  | [x], _ => exact head?_toSymbols x ss
  | x :: y :: xs, _ =>
    rw [itemSymbols, List.append_assoc]
    exact head?_toSymbols x _

theorem head?_fieldSymbols {fs : List (Text × Json)} (hfs : fs ≠ []) (ss : List Symbol) :
    (fieldSymbols fs ++ ss).head? ≠ some .closeBrace := by
  match fs, hfs with
  | [(k, x)], _ => simp [fieldSymbols]
  | (k, x) :: f :: fs, _ => simp [fieldSymbols]

theorem length_toSymbols_pos (x : Json) : 0 < x.toSymbols.length := by
  cases x <;> simp [toSymbols]

mutual

/-- Three steps for each symbol are enough. -/
theorem readValue?_toSymbols (passing : Bool) (x : Json) (fuel : Nat)
    (hf : 3 * x.toSymbols.length ≤ fuel) (ss : List Symbol) :
    readValue? passing fuel (x.toSymbols ++ ss) = some (x, ss) := by
  obtain ⟨fuel, rfl⟩ : ∃ n, fuel = n + 1 :=
    ⟨fuel - 1, by have := length_toSymbols_pos x; omega⟩
  match x with
  | null => simp [toSymbols, readValue?]
  | bool b => simp [toSymbols, readValue?]
  | number literal => simp [toSymbols, readValue?]
  | string s => simp [toSymbols, readValue?]
  | array [] => simp [toSymbols, itemSymbols, readValue?]
  | array (x :: xs) =>
    simp only [toSymbols, List.length_append, List.length_cons, List.length_nil] at hf
    have hitems := readItems?_itemSymbols passing (x :: xs) (List.cons_ne_nil x xs) fuel
      (by omega) ss
    have hhead := head?_itemSymbols (List.cons_ne_nil x xs) (.closeBracket :: ss)
    simp only [toSymbols, List.cons_append, List.append_assoc, List.nil_append, readValue?,
      if_neg hhead, hitems, Option.map_some]
  | object [] => simp [toSymbols, fieldSymbols, readValue?]
  | object (f :: fs) =>
    simp only [toSymbols, List.length_append, List.length_cons, List.length_nil] at hf
    have hfields := readFields?_fieldSymbols passing (f :: fs) (List.cons_ne_nil f fs) fuel
      (by omega) ss
    have hhead := head?_fieldSymbols (List.cons_ne_nil f fs) (.closeBrace :: ss)
    simp only [toSymbols, List.cons_append, List.append_assoc, List.nil_append, readValue?,
      if_neg hhead, hfields, Option.map_some]

theorem readItems?_itemSymbols (passing : Bool) (xs : List Json) (hxs : xs ≠ []) (fuel : Nat)
    (hf : 3 * ((itemSymbols xs).length + 1) ≤ fuel) (ss : List Symbol) :
    readItems? passing fuel (itemSymbols xs ++ .closeBracket :: ss) = some (xs, ss) := by
  obtain ⟨fuel, rfl⟩ : ∃ n, fuel = n + 1 := ⟨fuel - 1, by omega⟩
  match xs, hxs with
  | [x], _ =>
    have hx := readValue?_toSymbols passing x fuel
      (by simp only [itemSymbols] at hf; omega) (.closeBracket :: ss)
    simp [itemSymbols, readItems?, hx]
  | x :: y :: xs, _ =>
    simp only [itemSymbols, List.length_append, List.length_cons] at hf
    have hx := readValue?_toSymbols passing x fuel (by omega)
      (.comma :: (itemSymbols (y :: xs) ++ .closeBracket :: ss))
    have hlater := readItems?_itemSymbols passing (y :: xs) (List.cons_ne_nil y xs) fuel
      (by omega) ss
    simp [itemSymbols, readItems?, hx, hlater]

theorem readFields?_fieldSymbols (passing : Bool) (fs : List (Text × Json)) (hfs : fs ≠ [])
    (fuel : Nat) (hf : 3 * ((fieldSymbols fs).length + 1) ≤ fuel) (ss : List Symbol) :
    readFields? passing fuel (fieldSymbols fs ++ .closeBrace :: ss) = some (fs, ss) := by
  obtain ⟨fuel, rfl⟩ : ∃ n, fuel = n + 2 := ⟨fuel - 2, by omega⟩
  match fs, hfs with
  | [(k, x)], _ =>
    simp only [fieldSymbols, List.length_cons] at hf
    have hx := readValue?_toSymbols passing x fuel (by omega) (.closeBrace :: ss)
    simp [fieldSymbols, readFields?, readField?, hx]
  | (k, x) :: f :: fs, _ =>
    simp only [fieldSymbols, List.length_append, List.length_cons] at hf
    have hx := readValue?_toSymbols passing x fuel (by omega)
      (.comma :: (fieldSymbols (f :: fs) ++ .closeBrace :: ss))
    have hlater := readFields?_fieldSymbols passing (f :: fs) (List.cons_ne_nil f fs) fuel
      (by omega) ss
    simp [fieldSymbols, readFields?, readField?, hx, hlater]

end

theorem symbols_write_self {x : Json} (hx : x.AllNatural) : symbols x.write = x.toSymbols := by
  simpa using symbols_write x hx endsNumber_nil

theorem read?_write {x : Json} (hx : x.AllNatural) : read? x.write = some x := by
  have h := readValue?_toSymbols false x (fuelFor x.toSymbols)
    (by rw [fuelFor]; omega) []
  rw [List.append_nil] at h
  rw [read?, symbols_write_self hx, h]

end Textbase.Json
