import ZoneServices.Name.Mark

/-!
# Composition of characters

A letter with marks can be written in several ways: as one character or as more, and with its
marks in different orders.  A name is written in the one form in which the characters are taken
apart, the marks are put in order, and each mark then joins the character before it where there
is one character for both.  Syllables of the Korean script are taken apart and composed by their
numbers, all others by a table.
-/

namespace ZoneServices.Name

/-! ## Pairs of characters -/

/--
For the code point of a second character, the first ones that it joins, and what it makes of each.
-/
def compositionRows : List (Nat × String × String) :=
  [(0x300, "aeiouünеиēōwâăêôơưyἀἁἐἑἠἡἰἱὀὁὐὑὠὡαεηιο", "àèìòùǜǹѐѝḕṑẁầằềồờừỳἂἃἒἓἢἣἲἳὂὃὒὓὢὣὰὲὴὶὸ"),
    (0x300, "υωϊϋ", "ὺὼῒῢ"),
    (0x301, "aeiouyclnrszügåæøϊαεηιϋουωгкçēïkmõōpũw", "áéíóúýćĺńŕśźǘǵǻǽǿΐάέήίΰόύώѓќḉḗḯḱḿṍṓṕṹẃ"),
    (0x301, "âăêôơưἀἁἐἑἠἡἰἱὀὁὐὑὠὡ", "ấắếốớứἄἅἔἕἤἥἴἵὄὅὔὕὤὥ"),
    (0x302, "aeioucghjswyzạẹọ", "âêîôûĉĝĥĵŝŵŷẑậệộ"),
    (0x303, "anoiuvâăeêôơưy", "ãñõĩũṽẫẵẽễỗỡữỹ"),
    (0x304, "aeiouüäȧæǫöõȯyиуgḷṛαιυ", "āēīōūǖǟǡǣǭȫȭȱȳӣӯḡḹṝᾱῑῡ"),
    (0x306, "aegiouиужаеȩạαιυ", "ăĕğĭŏŭйўӂӑӗḝặᾰῐῠ"),
    (0x307, "cegzaobdfhmnprsśšṣtwxy", "ċėġżȧȯḃḋḟḣṁṅṗṙṡṥṧṩṫẇẋẏ"),
    (0x308, "aeiouyιυеіаәжзиоөэучыhõūwxt", "äëïöüÿϊϋёїӓӛӝӟӥӧӫӭӱӵӹḧṏṻẅẍẗ"),
    (0x309, "aâăeêioôơuưy", "ảẩẳẻểỉỏổởủửỷ"),
    (0x30A, "auwy", "åůẘẙ"),
    (0x30B, "ouу", "őűӳ"),
    (0x30C, "cdelnrstzaiouügkʒjh", "čďěľňřšťžǎǐǒǔǚǧǩǯǰȟ"),
    (0x30F, "aeioruѵ", "ȁȅȉȍȑȕѷ"),
    (0x311, "aeioru", "ȃȇȋȏȓȗ"),
    (0x313, "αεηιουωρ", "ἀἐἠἰὀὐὠῤ"),
    (0x314, "αεηιουωρ", "ἁἑἡἱὁὑὡῥ"),
    (0x31B, "ou", "ơư"),
    (0x323, "bdhklmnrstvwzaeioơuưy", "ḅḍḥḳḷṃṇṛṣṭṿẉẓạẹịọợụựỵ"),
    (0x324, "u", "ṳ"),
    (0x325, "a", "ḁ"),
    (0x326, "st", "șț"),
    (0x327, "cgklnrstedh", "çģķļņŗşţȩḑḩ"),
    (0x328, "aeiuo", "ąęįųǫ"),
    (0x32D, "delntu", "ḓḙḽṋṱṷ"),
    (0x32E, "h", "ḫ"),
    (0x330, "eiu", "ḛḭṵ"),
    (0x331, "bdklnrtzh", "ḇḏḵḻṉṟṯẕẖ"),
    (0x338, "←→↔⇐⇔⇒∃∈∋∣∥∼≃≅≈=≡≍<>≤≥≲≳≶≷≺≻⊂⊃⊆⊇⊢⊨⊩⊫≼≽", "↚↛↮⇍⇎⇏∄∉∌∤∦≁≄≇≉≠≢≭≮≯≰≱≴≵≸≹⊀⊁⊄⊅⊈⊉⊬⊭⊮⊯⋠⋡"),
    (0x338, "⊑⊒⊲⊳⊴⊵", "⋢⋣⋪⋫⋬⋭"),
    (0x342, "ἀἁἠἡἰἱὐὑὠὡαηιϊυϋω", "ἆἇἦἧἶἷὖὗὦὧᾶῆῖῗῦῧῶ"),
    (0x653, "ا", "آ"),
    (0x654, "اويەہے", "أؤئۀۂۓ"),
    (0x655, "ا", "إ"),
    (0x93C, "नरळ", "ऩऱऴ"),
    (0x9BE, "ে", "ো"),
    (0x9D7, "ে", "ৌ"),
    (0xB3E, "େ", "ୋ"),
    (0xB56, "େ", "ୈ"),
    (0xB57, "େ", "ୌ"),
    (0xBBE, "ெே", "ொோ"),
    (0xBD7, "ஒெ", "ஔௌ"),
    (0xC56, "ె", "ై"),
    (0xCC2, "ೆ", "ೊ"),
    (0xCD5, "ಿೆೊ", "ೀೇೋ"),
    (0xCD6, "ೆ", "ೈ"),
    (0xD3E, "െേ", "ൊോ"),
    (0xD57, "െ", "ൌ"),
    (0xDCA, "ෙො", "ේෝ"),
    (0xDCF, "ෙ", "ො"),
    (0xDDF, "ෙ", "ෞ"),
    (0x102E, "ဥ", "ဦ"),
    (0x1B35, "ᬅᬇᬉᬋᬍᬑᬺᬼᬾᬿᭂ", "ᬆᬈᬊᬌᬎᬒᬻᬽᭀᭁᭃ"),
    (0x3099, "かきくけこさしすせそたちつてとはひふへほうゝカキクケコサシスセソタチツテトハ", "がぎぐげござじずぜぞだぢづでどばびぶべぼゔゞガギグゲゴザジズゼゾダヂヅデドバ"),
    (0x3099, "ヒフヘホウワヰヱヲヽ", "ビブベボヴヷヸヹヺヾ"),
    (0x309A, "はひふへほハヒフヘホ", "ぱぴぷぺぽパピプペポ"),
    (0x110BA, "𑂙𑂛𑂥", "𑂚𑂜𑂫"),
    (0x11127, "𑄱𑄲", "𑄮𑄯"),
    (0x1133E, "𑍇", "𑍋"),
    (0x11357, "𑍇", "𑍌"),
    (0x114B0, "𑒹", "𑒼"),
    (0x114BA, "𑒹", "𑒻"),
    (0x114BD, "𑒹", "𑒾"),
    (0x115AF, "𑖸𑖹", "𑖺𑖻"),
    (0x11930, "𑤵", "𑤸")]

/--
The Korean syllable that two characters make: a consonant and a vowel, or a syllable and a consonant
behind it.
-/
def composedSyllable? (first second : Char) : Option Char :=
  let lead := first.toNat - 0x1100
  let vowel := second.toNat - 0x1161
  let tail := second.toNat - 0x11A7
  if 0x1100 ≤ first.toNat && lead < 19 && 0x1161 ≤ second.toNat && vowel < 21 then
    some (Char.ofNat (0xAC00 + (lead * 21 + vowel) * 28))
  else if 0xAC00 ≤ first.toNat && first.toNat < 0xAC00 + 11172 && (first.toNat - 0xAC00) % 28 == 0
      && 0x11A7 < second.toNat && tail < 28 then
    some (Char.ofNat (first.toNat + tail))
  else
    none

/-- The character that two characters make, if there is one. -/
def composed? (first second : Char) : Option Char :=
  match composedSyllable? first second with
  | some syllable => some syllable
  | none =>
    compositionRows.findSome? fun (mark, bases, results) =>
      if mark == second.toNat then (bases.toList.zip results.toList).lookup first else none

/-- The two characters that a Korean syllable is made of. -/
def syllableParts? (syllable : Char) : Option (Char × Char) :=
  let number := syllable.toNat - 0xAC00
  if syllable.toNat < 0xAC00 || 11172 ≤ number then none
  else if number % 28 == 0 then
    some (Char.ofNat (0x1100 + number / 28 / 21), Char.ofNat (0x1161 + number / 28 % 21))
  else
    some (Char.ofNat (syllable.toNat - number % 28), Char.ofNat (0x11A7 + number % 28))

/-- The two characters that a character is made of, if it is made of others. -/
def parts? (character : Char) : Option (Char × Char) :=
  match syllableParts? character with
  | some parts => some parts
  | none =>
    compositionRows.findSome? fun (mark, bases, results) =>
      ((results.toList.zip bases.toList).lookup character).map fun base =>
        (base, Char.ofNat mark)

/-! ## Texts -/

/--
The characters that a character before some others is made of; it is taken apart so many times at
most.
-/
def takeApart : (depth : Nat) → Char → Text → Text
  | 0, character, others => character :: others
  | depth + 1, character, others =>
    match parts? character with
    | some (first, second) => takeApart depth first (second :: others)
    | none => character :: others

/-- A text in which all characters are taken apart; none is made of more than three. -/
def decompose (text : Text) : Text :=
  text.flatMap fun character => takeApart 2 character []

/-- A character put behind the marks in front of a text that have lower classes than its own. -/
def settle (character : Char) : Text → Text
  | [] => [character]
  | next :: rest =>
    if markClass next ≠ 0 && markClass next < markClass character then
      next :: settle character rest
    else
      character :: next :: rest

/-- A text in which the marks behind each character are in the order of their classes. -/
def orderMarks (text : Text) : Text :=
  text.foldr settle []

/--
A text in which marks have joined the character before them.  It starts with a character and the
marks that have not joined it, given in reverse, of which one of the same class or a higher one
keeps a mark away.
-/
def joinMarks (base : Char) (marks : Text) : Text → Text
  | [] => base :: marks.reverse
  | character :: rest =>
    let isKept := marks.head?.any fun mark => markClass character ≤ markClass mark
    match if isKept then none else composed? base character with
    | some joined => joinMarks joined marks rest
    | none =>
      if markClass character = 0 then base :: marks.reverse ++ joinMarks character [] rest
      else joinMarks base (character :: marks) rest

/-- The one form of a text: taken apart, with its marks in order, and composed again. -/
def compose (text : Text) : Text :=
  if text.all Text.isAscii then text
  else
    match orderMarks (decompose text) with
    | [] => []
    | first :: rest => joinMarks first [] rest

end ZoneServices.Name
