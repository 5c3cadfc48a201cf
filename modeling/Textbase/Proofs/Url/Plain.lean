import Textbase.Proofs.Json.Literal
import Textbase.Url.Read
import Mathlib.Data.List.TakeWhile

/-! Plain addresses of the web: a host without credentials, a port and a path in which nothing has to
be encoded. Each part of such an address is read as it is written. -/
namespace Textbase.Url

def isHostChar (c : Char) : Bool := c.isAlphanum || c == '.' || c == '-'

/-- A character of a host, or one that ends it or a segment of a path. -/
def isPlain (c : Char) : Bool := isHostChar c || c == ':' || c == '/'

variable {t : Text}

theorem ne_of_class {p : Char → Bool} {c d : Char} (hc : p c = true) (hd : p d = false) : c ≠ d :=
  ne_of_apply_ne p (by simp [hc, hd])

theorem not_mem_of_plain (h : ∀ c ∈ t, isPlain c = true) {d : Char} (hd : isPlain d = false) :
    d ∉ t :=
  fun hm => ne_of_class (h d hm) hd rfl

theorem not_le_space_of_isPlain {c : Char} (h : isPlain c = true) : ¬c ≤ ' ' := by
  intro hc
  have hn : c.toNat ≤ 32 := hc
  have hlow : ∀ n : Nat, n ≤ 32 → isPlain (Char.ofNat n) = false := by decide
  have hofNat : Char.ofNat c.toNat = c := Char.ofNat_toNat c
  rw [← hofNat, hlow _ hn] at h
  cases h

theorem clean_of_plain (h : ∀ c ∈ t, isPlain c = true) : clean t = t := by
  have htrim : ∀ u : Text, (∀ c ∈ u, isPlain c = true) → u.dropWhile (· ≤ ' ') = u := by
    intro u hu
    refine List.dropWhile_eq_self_iff.2 fun hl => ?_
    simpa using not_le_space_of_isPlain (hu _ (List.getElem_mem hl))
  rw [clean, htrim t h, htrim t.reverse fun c hc => h c (List.mem_reverse.1 hc)]
  rw [List.reverse_reverse, List.filter_eq_self]
  intro c hc
  have hne : ∀ d, isPlain d = false → c ≠ d := fun d hd => ne_of_class (h c hc) hd
  simp [hne '\t' (by decide), hne '\n' (by decide), hne '\r' (by decide)]

theorem splitAt_append {stop : Char → Bool} {s u : Text} (hs : ∀ c ∈ s, stop c = false)
    (hu : ∀ c ∈ u.head?, stop c = true) : splitAt stop (s ++ u) = (s, u) := by
  have hnot : ∀ c ∈ s, (!stop c) = true := fun c hc => by rw [hs c hc]; rfl
  have htake : u.takeWhile (fun c => !stop c) = [] := by
    cases u with
    | nil => rfl
    | cons c u => rw [List.takeWhile_cons_of_neg (by simp [hu c rfl])]
  have hdrop : u.dropWhile (fun c => !stop c) = u := by
    cases u with
    | nil => rfl
    | cons c u => rw [List.dropWhile_cons_of_neg (by simp [hu c rfl])]
  rw [splitAt, List.takeWhile_append_of_pos hnot, List.dropWhile_append_of_pos hnot, htake, hdrop,
    List.append_nil]

theorem splitAt_of_forall {stop : Char → Bool} (h : ∀ c ∈ t, stop c = false) :
    splitAt stop t = (t, []) := by
  have hsplit := splitAt_append (u := []) h (by simp)
  rwa [List.append_nil] at hsplit

theorem splitPart_of_not_mem {mark : Char} (h : mark ∉ t) : splitPart mark t = (t, none) := by
  have hsplit : splitAt (· == mark) t = (t, []) :=
    splitAt_of_forall fun c hc => beq_false_of_ne fun he => h (he ▸ hc)
  simp only [splitPart, hsplit]

theorem splitCredentials_of_not_mem (h : '@' ∉ t) : splitCredentials t = (none, t) := by
  have hsplit : splitAt (· == '@') t.reverse = (t.reverse, []) :=
    splitAt_of_forall fun c hc => beq_false_of_ne fun he => h (he ▸ List.mem_reverse.1 hc)
  simp only [splitCredentials, hsplit]

theorem splitHost_append {host : Text} (h : ∀ c ∈ host, c ≠ ':' ∧ c ≠ '[') (u : Text) :
    splitHost false (host ++ ':' :: u) = (host, ':' :: u) := by
  induction host with
  | nil => simp [splitHost]
  | cons c host ih =>
    obtain ⟨hc, hrest⟩ := List.forall_mem_cons.1 h
    have hopen : (c == '[') = false := beq_false_of_ne hc.2
    simp [splitHost, hc.1, hopen, ih hrest]

theorem readPort_ofNat {n : Nat} (hn : n < UInt16.size) :
    readPort "http".toList (Text.ofNat n) = .ok (if n = 80 then none else some n) := by
  have hdigits : (Text.ofNat n).all Char.isDigit = true :=
    List.all_eq_true.2 fun c hc => Text.isDigit_of_mem_ofNat hc
  have hvalue : (Text.ofNat n).foldl (fun n c => 10 * n + (c.toNat - 48)) 0 = n :=
    Decimal.natOfDigits_ofNat n
  have hne : (Text.ofNat n).isEmpty = false := by simpa using Text.ofNat_ne_nil n
  have husual : usualPort? "http".toList = some 80 := by decide
  rw [readPort, if_pos hdigits]
  simp only [hvalue, if_pos hn, hne, husual, Option.some.injEq, Bool.false_eq_true, false_or]
  congr 1
  exact if_congr eq_comm rfl rfl

theorem readAuthority_plain {hostText : Text} (hne : hostText ≠ [])
    (hplain : ∀ c ∈ hostText, isHostChar c = true) {host : Host}
    (hhost : readHost .web hostText = .ok host) {n : Nat} (hn : n < UInt16.size) :
    readAuthority "http".toList .web (hostText ++ ':' :: Text.ofNat n) =
      .ok (⟨[], none, host, if n = 80 then none else some n⟩, []) := by
  have hmark : ∀ c ∈ hostText, ∀ d, isHostChar d = false → c ≠ d :=
    fun c hc d hd => ne_of_class (hplain c hc) hd
  have hdigit : ∀ c ∈ Text.ofNat n, ∀ d, d.isDigit = false → c ≠ d :=
    fun c hc d hd => ne_of_class (Text.isDigit_of_mem_ofNat hc) hd
  have hat : '@' ∉ hostText ++ ':' :: Text.ofNat n := by
    rw [List.mem_append, List.mem_cons]
    rintro (hm | hm | hm)
    · exact hmark _ hm '@' (by decide) rfl
    · exact absurd hm (by decide)
    · exact hdigit _ hm '@' (by decide) rfl
  have hsplit : splitHost false (hostText ++ ':' :: Text.ofNat n) = (hostText, ':' :: Text.ofNat n) :=
    splitHost_append (fun c hc => ⟨hmark c hc ':' (by decide), hmark c hc '[' (by decide)⟩) _
  have hrest : splitAt (· == '\\') (Text.ofNat n) = (Text.ofNat n, []) :=
    splitAt_of_forall fun c hc => beq_false_of_ne (hdigit c hc '\\' (by decide))
  have hempty : hostText.isEmpty = false := by simpa using hne
  rw [readAuthority, splitCredentials_of_not_mem hat]
  simp only [readServer, hsplit, hempty, Bool.false_eq_true, false_and, if_false, hhost, hrest,
    readPort_ofNat hn, bind, Except.bind]

/-- What stands between the slashes of a plain address and its path. -/
theorem plain_of_mem_server {hostText : Text} (hplain : ∀ c ∈ hostText, isHostChar c = true)
    {n : Nat} {c : Char} (hc : c ∈ hostText ++ ':' :: Text.ofNat n) :
    isPlain c = true ∧ isSlash c = false := by
  have hslash : ∀ d, isHostChar d = true → isSlash d = false := by
    intro d hd
    have hne : d ≠ '/' ∧ d ≠ '\\' := ⟨ne_of_class hd (by decide), ne_of_class hd (by decide)⟩
    simp [isSlash, hne.1, hne.2]
  rw [List.mem_append, List.mem_cons] at hc
  obtain hc | rfl | hc := hc
  · exact ⟨by simp [isPlain, hplain c hc], hslash c (hplain c hc)⟩
  · decide
  · have hdigit : isHostChar c = true := by
      simp [isHostChar, Char.isAlphanum, Text.isDigit_of_mem_ofNat hc]
    exact ⟨by simp [isPlain, hdigit], hslash c hdigit⟩

/-- A plain address is read part by part. The path is one that stands for itself. -/
theorem read_plain {hostText : Text} (hne : hostText ≠ [])
    (hplain : ∀ c ∈ hostText, isHostChar c = true) {host : Host}
    (hhost : readHost .web hostText = .ok host) {n : Nat} (hn : n < UInt16.size) {path : Text}
    (hstart : path.head? = some '/') (hpath : ∀ c ∈ path, isPlain c = true)
    (hself : readPath .web path = path) :
    read ("http://".toList ++ hostText ++ ':' :: Text.ofNat n ++ path) =
      .ok ⟨"http".toList, some ⟨[], none, host, if n = 80 then none else some n⟩, path, none,
        none⟩ := by
  have hauthority := readAuthority_plain hne hplain hhost hn
  have hserver : ∀ c ∈ hostText ++ ':' :: Text.ofNat n, isPlain c = true ∧ isSlash c = false :=
    fun c hc => plain_of_mem_server hplain hc
  have hhead : ∀ c ∈ (hostText ++ ':' :: Text.ofNat n).head?, isSlash c = false :=
    fun c hc => (hserver c (List.mem_of_mem_head? hc)).2
  set server := hostText ++ ':' :: Text.ofNat n with hs
  have hwhole : "http://".toList ++ hostText ++ ':' :: Text.ofNat n ++ path =
      "http:".toList ++ ("//".toList ++ (server ++ path)) := by
    simp [hs]
  have hbody : ∀ c ∈ "//".toList ++ (server ++ path), isPlain c = true := by
    have hslashes : ∀ c ∈ "//".toList, isPlain c = true := List.all_eq_true.1 (by decide)
    intro c hc
    simp only [List.mem_append] at hc
    exact hc.elim (hslashes c) fun hc => hc.elim (fun hc => (hserver c hc).1) (hpath c)
  have hclean : clean ("http:".toList ++ ("//".toList ++ (server ++ path))) =
      "http:".toList ++ ("//".toList ++ (server ++ path)) := by
    have hfront : ∀ c ∈ "http:".toList, isPlain c = true := List.all_eq_true.1 (by decide)
    exact clean_of_plain fun c hc => (List.mem_append.1 hc).elim (hfront c) (hbody c)
  have hscheme : splitScheme? ("http:".toList ++ ("//".toList ++ (server ++ path))) =
      some ("http".toList, "//".toList ++ (server ++ path)) := rfl
  have hkind : Kind.ofScheme "http".toList = .web := by decide
  have hdrop : ("//".toList ++ (server ++ path)).dropWhile isSlash = server ++ path := by
    have hslashes : ∀ c ∈ "//".toList, isSlash c = true := List.all_eq_true.1 (by decide)
    have hnonempty : server ≠ [] := by simp [hs]
    rw [List.dropWhile_append_of_pos hslashes]
    obtain ⟨c, rest, hcons⟩ := List.exists_cons_of_ne_nil hnonempty
    rw [hcons, List.cons_append, List.dropWhile_cons_of_neg (by simp [hhead c (by simp [hcons])])]
  have hsplit : splitAt (fun c => c == '/' || Kind.web.isSpecial && c == '\\') (server ++ path) =
      (server, path) := by
    refine splitAt_append (fun c hc => (hserver c hc).2) fun c hc => ?_
    rw [hstart] at hc
    cases hc
    decide
  rw [hwhole, read, hclean, hscheme]
  simp only [splitPart_of_not_mem (not_mem_of_plain hbody (d := '#') (by decide)),
    splitPart_of_not_mem (not_mem_of_plain hbody (d := '?') (by decide)), readBody, hkind, hdrop,
    hsplit, hauthority, bind, Except.bind, List.nil_append, hself, Option.map_none]

example : read "http://localhost:80/api/tables".toList = .ok ⟨"http".toList,
    some ⟨[], none, .name "localhost".toList, none⟩, "/api/tables".toList, none, none⟩ := by
  decide +kernel

end Textbase.Url
