import Textbase.Url.Domain.Mark

/-! Composed form. A letter and the marks on it are one character where there is one, and marks that
do not interact have one order. It is given for what the images of characters are made of, which
are neither capitals nor forms of other characters. -/
namespace Textbase.Url.Domain

/-- Characters each followed by the character that it makes with `mark` after it. -/
structure Composites where
  mark : Nat
  pairs : String

def composites : List Composites :=
  [⟨0x0300, "aàeèiìnǹoòuùwẁyỳâầêềôồüǜăằēḕōṑơờưừαὰεὲηὴιὶοὸυὺωὼϊῒϋῢеѐиѝἀἂἁἃἐἒἑἓἠἢἡἣἰἲἱἳὀὂὁὃὐὒ"⟩,
   ⟨0x0300, "ὑὓὠὢὡὣ"⟩,
   ⟨0x0301, "aácćeégǵiíkḱlĺmḿnńoópṕrŕsśuúwẃyýzźâấåǻæǽçḉêếïḯôốõṍøǿüǘăắēḗōṓũṹơớưứαάεέηήιίοόυύ"⟩,
   ⟨0x0301, "ωώϊΐϋΰгѓкќἀἄἁἅἐἔἑἕἠἤἡἥἰἴἱἵὀὄὁὅὐὔὑὕὠὤὡὥ"⟩,
   ⟨0x0302, "aâcĉeêgĝhĥiîjĵoôsŝuûwŵyŷzẑạậẹệọộ"⟩, ⟨0x0303, "aãeẽiĩnñoõuũvṽyỹâẫêễôỗăẵơỡưữ"⟩,
   ⟨0x0304, "aāeēgḡiīoōuūyȳäǟæǣõȭöȫüǖǫǭȧǡȯȱαᾱιῑυῡиӣуӯḷḹṛṝ"⟩,
   ⟨0x0306, "aăeĕgğiĭoŏuŭȩḝαᾰιῐυῠаӑеӗжӂийуўạặ"⟩,
   ⟨0x0307, "aȧbḃcċdḋeėfḟgġhḣmṁnṅoȯpṗrṙsṡtṫwẇxẋyẏzżśṥšṧṣṩ𐗒𐗉𐗚𐗤"⟩,
   ⟨0x0308, "aäeëhḧiïoötẗuüwẅxẍyÿõṏūṻιϊυϋаӓеёжӝзӟиӥоӧуӱчӵыӹэӭіїәӛөӫ"⟩,
   ⟨0x0309, "aảeẻiỉoỏuủyỷâẩêểôổăẳơởưử"⟩, ⟨0x030A, "aåuůwẘyẙ"⟩, ⟨0x030B, "oőuűуӳ"⟩,
   ⟨0x030C, "aǎcčdďeěgǧhȟiǐjǰkǩlľnňoǒrřsštťuǔzžüǚʒǯ"⟩, ⟨0x030F, "aȁeȅiȉoȍrȑuȕѵѷ"⟩,
   ⟨0x0311, "aȃeȇiȋoȏrȓuȗ"⟩, ⟨0x0313, "αἀεἐηἠιἰοὀρῤυὐωὠ"⟩, ⟨0x0314, "αἁεἑηἡιἱοὁρῥυὑωὡ"⟩,
   ⟨0x031B, "oơuư"⟩, ⟨0x0323, "aạbḅdḍeẹhḥiịkḳlḷmṃnṇoọrṛsṣtṭuụvṿwẉyỵzẓơợưự"⟩, ⟨0x0324, "uṳ"⟩,
   ⟨0x0325, "aḁ"⟩, ⟨0x0326, "sștț"⟩, ⟨0x0327, "cçdḑeȩgģhḩkķlļnņrŗsştţ"⟩, ⟨0x0328, "aąeęiįoǫuų"⟩,
   ⟨0x032D, "dḓeḙlḽnṋtṱuṷ"⟩, ⟨0x032E, "hḫ"⟩, ⟨0x0330, "eḛiḭuṵ"⟩, ⟨0x0331, "bḇdḏhẖkḵlḻnṉrṟtṯzẕ"⟩,
   ⟨0x0338, "<≮=≠>≯←↚→↛↔↮⇐⇍⇒⇏⇔⇎∃∄∈∉∋∌∣∤∥∦∼≁≃≄≅≇≈≉≍≭≡≢≤≰≥≱≲≴≳≵≶≸≷≹≺⊀≻⊁≼⋠≽⋡⊂⊄⊃⊅⊆⊈⊇⊉⊑⋢⊒⋣⊢⊬⊨⊭⊩⊮"⟩,
   ⟨0x0338, "⊫⊯⊲⋪⊳⋫⊴⋬⊵⋭"⟩, ⟨0x0342, "αᾶηῆιῖυῦωῶϊῗϋῧἀἆἁἇἠἦἡἧἰἶἱἷὐὖὑὗὠὦὡὧ"⟩, ⟨0x0653, "اآ"⟩,
   ⟨0x0654, "اأوؤيئہۂےۓەۀ"⟩, ⟨0x0655, "اإ"⟩, ⟨0x093C, "नऩरऱळऴ"⟩, ⟨0x09BE, "\u09c7\u09cb"⟩,
   ⟨0x09D7, "\u09c7\u09cc"⟩, ⟨0x0B3E, "\u0b47\u0b4b"⟩, ⟨0x0B56, "\u0b47\u0b48"⟩,
   ⟨0x0B57, "\u0b47\u0b4c"⟩, ⟨0x0BBE, "\u0bc6\u0bca\u0bc7\u0bcb"⟩, ⟨0x0BD7, "ஒஔ\u0bc6\u0bcc"⟩,
   ⟨0x0C56, "\u0c46\u0c48"⟩, ⟨0x0CC2, "\u0cc6\u0cca"⟩,
   ⟨0x0CD5, "\u0cbf\u0cc0\u0cc6\u0cc7\u0cca\u0ccb"⟩, ⟨0x0CD6, "\u0cc6\u0cc8"⟩,
   ⟨0x0D3E, "\u0d46\u0d4a\u0d47\u0d4b"⟩, ⟨0x0D57, "\u0d46\u0d4c"⟩,
   ⟨0x0DCA, "\u0dd9\u0dda\u0ddc\u0ddd"⟩, ⟨0x0DCF, "\u0dd9\u0ddc"⟩, ⟨0x0DDF, "\u0dd9\u0dde"⟩,
   ⟨0x102E, "ဥဦ"⟩,
   ⟨0x1B35, "ᬅᬆᬇᬈᬉᬊᬋᬌᬍᬎᬑᬒ\u1b3a\u1b3b\u1b3c\u1b3d\u1b3e\u1b40\u1b3f\u1b41\u1b42\u1b43"⟩,
   ⟨0x3099, "うゔかがきぎくぐけげこごさざしじすずせぜそぞただちぢつづてでとどはばひびふぶへべほぼゝゞウヴカガキギクグケゲコゴサザシジスズセゼソゾタダチヂツヅテデトドハバ"⟩,
   ⟨0x3099, "ヒビフブヘベホボワヷヰヸヱヹヲヺヽヾ"⟩, ⟨0x309A, "はぱひぴふぷへぺほぽハパヒピフプヘペホポ"⟩, ⟨0x110BA, "𑂙𑂚𑂛𑂜𑂥𑂫"⟩,
   ⟨0x11127, "𑄱𑄮𑄲𑄯"⟩, ⟨0x1133E, "𑍇𑍋"⟩, ⟨0x11357, "𑍇𑍌"⟩, ⟨0x113B8, "𑏅𑎸"⟩, ⟨0x113BB, "𑎄𑎅"⟩,
   ⟨0x113C2, "𑎋𑎎𑏅𑏂"⟩, ⟨0x113C9, "𑎂𑎃𑎐𑎑𑏅𑏉"⟩, ⟨0x114B0, "𑒹𑒼"⟩, ⟨0x114BA, "𑒹𑒻"⟩, ⟨0x114BD, "𑒹𑒾"⟩,
   ⟨0x115AF, "𑖸𑖺𑖹𑖻"⟩, ⟨0x11930, "𑤵𑤸"⟩, ⟨0x1611E, "𖄡𖄞"⟩, ⟨0x1611F, "𖄦𖄡𖄦𖄢𖄧𖄩𖄤"⟩, ⟨0x16120, "𖄨𖄡𖄨"⟩,
   ⟨0x16129, "𖄡𖄩"⟩, ⟨0x16D67, "𖵣𖵪𖵨𖵩𖵪"⟩]

/-- The composite that follows a character. -/
def compositeOf? (c : Char) : Text → Option Char
  | a :: b :: t => if a = c then some b else compositeOf? c t
  | _ => none

def baseOf? (c : Char) : Text → Option Char
  | a :: b :: t => if b = c then some a else baseOf? c t
  | _ => none

/-- Syllables of the Korean script, built by place from a first letter, a vowel and a last letter
that may be missing. -/
def joinKorean? (a b : Nat) : Option Nat :=
  if 0x1100 ≤ a ∧ a < 0x1113 ∧ 0x1161 ≤ b ∧ b < 0x1176 then
    some (0xAC00 + ((a - 0x1100) * 21 + (b - 0x1161)) * 28)
  else if 0xAC00 ≤ a ∧ a < 0xD7A4 ∧ (a - 0xAC00) % 28 = 0 ∧ 0x11A8 ≤ b ∧ b < 0x11C3 then
    some (a + (b - 0x11A7))
  else none

def splitKorean? (n : Nat) : Option (Nat × Nat) :=
  if 0xAC00 ≤ n ∧ n < 0xD7A4 then
    let s := n - 0xAC00
    if s % 28 = 0 then some (0x1100 + s / 588, 0x1161 + s / 28 % 21)
    else some (n - s % 28, 0x11A7 + s % 28)
  else none

def join? (a b : Char) : Option Char :=
  match joinKorean? a.toNat b.toNat with
  | some n => some (Char.ofNat n)
  | none => composites.findSome? fun x =>
    if x.mark = b.toNat then compositeOf? a x.pairs.toList else none

def split? (c : Char) : Option (Char × Char) :=
  match splitKorean? c.toNat with
  | some (a, b) => some (Char.ofNat a, Char.ofNat b)
  | none => composites.findSome? fun x =>
    (baseOf? c x.pairs.toList).map fun a => (a, Char.ofNat x.mark)

def partsWithin : Nat → Char → Text
  | 0, c => [c]
  | depth + 1, c =>
    match split? c with
    | some (a, b) => partsWithin depth a ++ [b]
    | none => [c]

/-- No character has more than four parts. -/
def parts (c : Char) : Text := if c.toNat < 128 then [c] else partsWithin 3 c

/-- Adds a character after others, of which the last comes first; a mark goes before those of
higher rank. -/
def settleMark (c : Char) : Text → Text
  | [] => [c]
  | d :: ds => if 0 < rank c ∧ rank c < rank d then d :: settleMark c ds else c :: d :: ds

def decomposed (t : Text) : Text :=
  ((t.flatMap parts).foldl (fun ds c => settleMark c ds) []).reverse

/-- A mark is cut off from a letter by one between them that has its rank or a higher one. -/
def isCutOff (marks : Text) (c : Char) : Bool :=
  match marks with
  | [] => false
  | m :: _ => rank c ≤ rank m

/-- Composes a letter with what follows it; `marks`, the last one first, stay between them. -/
def composeAfter (letter : Char) (marks : Text) : Text → Text
  | [] => letter :: marks.reverse
  | c :: t =>
    match if isCutOff marks c then none else join? letter c with
    | some d => composeAfter d marks t
    | none =>
      if rank c = 0 then letter :: (marks.reverse ++ composeAfter c [] t)
      else composeAfter letter (c :: marks) t

def composed (t : Text) : Text :=
  let u := decomposed t
  let front := u.takeWhile fun c => rank c != 0
  match u.drop front.length with
  | [] => front
  | c :: v => front ++ composeAfter c [] v

end Textbase.Url.Domain
