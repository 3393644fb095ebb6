import PathRouting.Unicode.Blank
import PathRouting.Unicode.Casing.Context
import PathRouting.Unicode.Property.Age
import PathRouting.Unicode.Property.Alphabetic
import PathRouting.Unicode.Property.Binary
import PathRouting.Unicode.Property.Script
import PathRouting.Unicode.Property.Segmentation

/-!
Character properties by name. Names are compared loosely: blanks, dashes, underscores, case and a
leading `is` do not count.
-/

namespace PathRouting.Unicode

/-- A property that a character has or has not. For an age it is to be no younger, and ages are
places among the `versions`. -/
inductive Property where
  | any
  | ascii
  | assigned
  | categories (of : List Category)
  | script (code : String)
  | scriptExtension (code : String)
  | age (latest : Nat)
  | segmented (into : Segmentation) (value : String)
  | binary (name : String)
  deriving DecidableEq, Repr

/-- Whether the character has the property. -/
def Property.holds (p : Property) (c : Char) : Bool :=
  match p with
  | .any => true
  | .ascii => decide (c.toNat < 128)
  | .assigned => category c != .unassigned
  | .categories of => decide (category c ∈ of)
  | .script code => Unicode.script c = code
  | .scriptExtension code => decide (code ∈ scriptExtensions c)
  | .age latest => (age? c).any (· ≤ latest)
  | .segmented into value => into.valueOf c = value
  | .binary name =>
    match name with
    | "Alphabetic" => isAlphabetic c
    | "White_Space" => isBlank c
    | "Cased" => isCased c
    | "Case_Ignorable" => isCaseIgnorable c
    | _ =>
      match binaryPropertyTables.lookup name with
      | some ranges => inRangeTable ranges c
      | none => false

/-! ### Names -/

/-- The general categories by loose name, groups included. Surrogates are no characters and cannot be
asked for. -/
def categoryNames : List (String × List Category) := [
  ("c", [.control, .format, .unassigned, .privateUse, .surrogate]),
  ("other", [.control, .format, .unassigned, .privateUse, .surrogate]), ("cc", [.control]),
  ("cntrl", [.control]), ("control", [.control]), ("cf", [.format]), ("format", [.format]),
  ("cn", [.unassigned]), ("unassigned", [.unassigned]), ("co", [.privateUse]),
  ("privateuse", [.privateUse]),
  ("l", [.lowercaseLetter, .modifierLetter, .otherLetter, .titlecaseLetter, .uppercaseLetter]),
  ("letter", [.lowercaseLetter, .modifierLetter, .otherLetter, .titlecaseLetter, .uppercaseLetter]),
  ("casedletter", [.lowercaseLetter, .titlecaseLetter, .uppercaseLetter]),
  ("lc", [.lowercaseLetter, .titlecaseLetter, .uppercaseLetter]), ("ll", [.lowercaseLetter]),
  ("lowercaseletter", [.lowercaseLetter]), ("lm", [.modifierLetter]),
  ("modifierletter", [.modifierLetter]), ("lo", [.otherLetter]), ("otherletter", [.otherLetter]),
  ("lt", [.titlecaseLetter]), ("titlecaseletter", [.titlecaseLetter]),
  ("lu", [.uppercaseLetter]), ("uppercaseletter", [.uppercaseLetter]),
  ("combiningmark", [.spacingMark, .enclosingMark, .nonspacingMark]),
  ("m", [.spacingMark, .enclosingMark, .nonspacingMark]),
  ("mark", [.spacingMark, .enclosingMark, .nonspacingMark]), ("mc", [.spacingMark]),
  ("spacingmark", [.spacingMark]), ("enclosingmark", [.enclosingMark]), ("me", [.enclosingMark]),
  ("mn", [.nonspacingMark]), ("nonspacingmark", [.nonspacingMark]),
  ("n", [.decimalNumber, .letterNumber, .otherNumber]),
  ("number", [.decimalNumber, .letterNumber, .otherNumber]), ("decimalnumber", [.decimalNumber]),
  ("digit", [.decimalNumber]), ("nd", [.decimalNumber]), ("letternumber", [.letterNumber]),
  ("nl", [.letterNumber]), ("no", [.otherNumber]), ("othernumber", [.otherNumber]),
  ("p", [.connectorPunctuation, .dashPunctuation, .closePunctuation, .finalPunctuation,
    .initialPunctuation, .otherPunctuation, .openPunctuation]),
  ("punct", [.connectorPunctuation, .dashPunctuation, .closePunctuation, .finalPunctuation,
    .initialPunctuation, .otherPunctuation, .openPunctuation]),
  ("punctuation", [.connectorPunctuation, .dashPunctuation, .closePunctuation, .finalPunctuation,
    .initialPunctuation, .otherPunctuation, .openPunctuation]),
  ("connectorpunctuation", [.connectorPunctuation]), ("pc", [.connectorPunctuation]),
  ("dashpunctuation", [.dashPunctuation]), ("pd", [.dashPunctuation]),
  ("closepunctuation", [.closePunctuation]), ("pe", [.closePunctuation]),
  ("finalpunctuation", [.finalPunctuation]), ("pf", [.finalPunctuation]),
  ("initialpunctuation", [.initialPunctuation]), ("pi", [.initialPunctuation]),
  ("otherpunctuation", [.otherPunctuation]), ("po", [.otherPunctuation]),
  ("openpunctuation", [.openPunctuation]), ("ps", [.openPunctuation]),
  ("s", [.currencySymbol, .modifierSymbol, .mathSymbol, .otherSymbol]),
  ("symbol", [.currencySymbol, .modifierSymbol, .mathSymbol, .otherSymbol]),
  ("currencysymbol", [.currencySymbol]), ("sc", [.currencySymbol]),
  ("modifiersymbol", [.modifierSymbol]), ("sk", [.modifierSymbol]),
  ("mathsymbol", [.mathSymbol]), ("sm", [.mathSymbol]), ("othersymbol", [.otherSymbol]),
  ("so", [.otherSymbol]), ("separator", [.lineSeparator, .paragraphSeparator, .spaceSeparator]),
  ("z", [.lineSeparator, .paragraphSeparator, .spaceSeparator]),
  ("lineseparator", [.lineSeparator]), ("zl", [.lineSeparator]),
  ("paragraphseparator", [.paragraphSeparator]), ("zp", [.paragraphSeparator]),
  ("spaceseparator", [.spaceSeparator]), ("zs", [.spaceSeparator])]

/-- The codes of scripts by loose name. -/
def scriptNames : List (String × String) := [
  ("adlam", "Adlm"), ("adlm", "Adlm"), ("aghb", "Aghb"), ("caucasianalbanian", "Aghb"),
  ("ahom", "Ahom"), ("arab", "Arab"), ("arabic", "Arab"), ("armi", "Armi"),
  ("imperialaramaic", "Armi"), ("armenian", "Armn"), ("armn", "Armn"), ("avestan", "Avst"),
  ("avst", "Avst"), ("bali", "Bali"), ("balinese", "Bali"), ("bamu", "Bamu"), ("bamum", "Bamu"),
  ("bass", "Bass"), ("bassavah", "Bass"), ("batak", "Batk"), ("batk", "Batk"), ("beng", "Beng"),
  ("bengali", "Beng"), ("bhaiksuki", "Bhks"), ("bhks", "Bhks"), ("bopo", "Bopo"),
  ("bopomofo", "Bopo"), ("brah", "Brah"), ("brahmi", "Brah"), ("brai", "Brai"),
  ("braille", "Brai"), ("bugi", "Bugi"), ("buginese", "Bugi"), ("buhd", "Buhd"),
  ("buhid", "Buhd"), ("cakm", "Cakm"), ("chakma", "Cakm"), ("canadianaboriginal", "Cans"),
  ("cans", "Cans"), ("cari", "Cari"), ("carian", "Cari"), ("cham", "Cham"), ("cher", "Cher"),
  ("cherokee", "Cher"), ("chorasmian", "Chrs"), ("chrs", "Chrs"), ("copt", "Copt"),
  ("coptic", "Copt"), ("qaac", "Copt"), ("cpmn", "Cpmn"), ("cyprominoan", "Cpmn"),
  ("cprt", "Cprt"), ("cypriot", "Cprt"), ("cyrillic", "Cyrl"), ("cyrl", "Cyrl"),
  ("deva", "Deva"), ("devanagari", "Deva"), ("diak", "Diak"), ("divesakuru", "Diak"),
  ("dogr", "Dogr"), ("dogra", "Dogr"), ("deseret", "Dsrt"), ("dsrt", "Dsrt"), ("dupl", "Dupl"),
  ("duployan", "Dupl"), ("egyp", "Egyp"), ("egyptianhieroglyphs", "Egyp"), ("elba", "Elba"),
  ("elbasan", "Elba"), ("elym", "Elym"), ("elymaic", "Elym"), ("ethi", "Ethi"),
  ("ethiopic", "Ethi"), ("geor", "Geor"), ("georgian", "Geor"), ("glag", "Glag"),
  ("glagolitic", "Glag"), ("gong", "Gong"), ("gunjalagondi", "Gong"), ("gonm", "Gonm"),
  ("masaramgondi", "Gonm"), ("goth", "Goth"), ("gothic", "Goth"), ("gran", "Gran"),
  ("grantha", "Gran"), ("greek", "Grek"), ("grek", "Grek"), ("gujarati", "Gujr"),
  ("gujr", "Gujr"), ("gurmukhi", "Guru"), ("guru", "Guru"), ("hang", "Hang"), ("hangul", "Hang"),
  ("han", "Hani"), ("hani", "Hani"), ("hano", "Hano"), ("hanunoo", "Hano"), ("hatr", "Hatr"),
  ("hatran", "Hatr"), ("hebr", "Hebr"), ("hebrew", "Hebr"), ("hira", "Hira"),
  ("hiragana", "Hira"), ("anatolianhieroglyphs", "Hluw"), ("hluw", "Hluw"), ("hmng", "Hmng"),
  ("pahawhhmong", "Hmng"), ("hmnp", "Hmnp"), ("nyiakengpuachuehmong", "Hmnp"), ("hung", "Hung"),
  ("oldhungarian", "Hung"), ("ital", "Ital"), ("olditalic", "Ital"), ("java", "Java"),
  ("javanese", "Java"), ("kali", "Kali"), ("kayahli", "Kali"), ("kana", "Kana"),
  ("katakana", "Kana"), ("kawi", "Kawi"), ("khar", "Khar"), ("kharoshthi", "Khar"),
  ("khmer", "Khmr"), ("khmr", "Khmr"), ("khoj", "Khoj"), ("khojki", "Khoj"),
  ("khitansmallscript", "Kits"), ("kits", "Kits"), ("kannada", "Knda"), ("knda", "Knda"),
  ("kaithi", "Kthi"), ("kthi", "Kthi"), ("lana", "Lana"), ("taitham", "Lana"), ("lao", "Laoo"),
  ("laoo", "Laoo"), ("latin", "Latn"), ("latn", "Latn"), ("lepc", "Lepc"), ("lepcha", "Lepc"),
  ("limb", "Limb"), ("limbu", "Limb"), ("lina", "Lina"), ("lineara", "Lina"), ("linb", "Linb"),
  ("linearb", "Linb"), ("lisu", "Lisu"), ("lyci", "Lyci"), ("lycian", "Lyci"), ("lydi", "Lydi"),
  ("lydian", "Lydi"), ("mahajani", "Mahj"), ("mahj", "Mahj"), ("maka", "Maka"),
  ("makasar", "Maka"), ("mand", "Mand"), ("mandaic", "Mand"), ("mani", "Mani"),
  ("manichaean", "Mani"), ("marc", "Marc"), ("marchen", "Marc"), ("medefaidrin", "Medf"),
  ("medf", "Medf"), ("mend", "Mend"), ("mendekikakui", "Mend"), ("merc", "Merc"),
  ("meroiticcursive", "Merc"), ("mero", "Mero"), ("meroitichieroglyphs", "Mero"),
  ("malayalam", "Mlym"), ("mlym", "Mlym"), ("modi", "Modi"), ("mong", "Mong"),
  ("mongolian", "Mong"), ("mro", "Mroo"), ("mroo", "Mroo"), ("meeteimayek", "Mtei"),
  ("mtei", "Mtei"), ("mult", "Mult"), ("multani", "Mult"), ("myanmar", "Mymr"), ("mymr", "Mymr"),
  ("nagm", "Nagm"), ("nagmundari", "Nagm"), ("nand", "Nand"), ("nandinagari", "Nand"),
  ("narb", "Narb"), ("oldnortharabian", "Narb"), ("nabataean", "Nbat"), ("nbat", "Nbat"),
  ("newa", "Newa"), ("nko", "Nkoo"), ("nkoo", "Nkoo"), ("nshu", "Nshu"), ("nushu", "Nshu"),
  ("ogam", "Ogam"), ("ogham", "Ogam"), ("olchiki", "Olck"), ("olck", "Olck"),
  ("oldturkic", "Orkh"), ("orkh", "Orkh"), ("oriya", "Orya"), ("orya", "Orya"),
  ("osage", "Osge"), ("osge", "Osge"), ("osma", "Osma"), ("osmanya", "Osma"),
  ("olduyghur", "Ougr"), ("ougr", "Ougr"), ("palm", "Palm"), ("palmyrene", "Palm"),
  ("pauc", "Pauc"), ("paucinhau", "Pauc"), ("oldpermic", "Perm"), ("perm", "Perm"),
  ("phag", "Phag"), ("phagspa", "Phag"), ("inscriptionalpahlavi", "Phli"), ("phli", "Phli"),
  ("phlp", "Phlp"), ("psalterpahlavi", "Phlp"), ("phnx", "Phnx"), ("phoenician", "Phnx"),
  ("miao", "Plrd"), ("plrd", "Plrd"), ("inscriptionalparthian", "Prti"), ("prti", "Prti"),
  ("rejang", "Rjng"), ("rjng", "Rjng"), ("hanifirohingya", "Rohg"), ("rohg", "Rohg"),
  ("runic", "Runr"), ("runr", "Runr"), ("samaritan", "Samr"), ("samr", "Samr"),
  ("oldsoutharabian", "Sarb"), ("sarb", "Sarb"), ("saur", "Saur"), ("saurashtra", "Saur"),
  ("sgnw", "Sgnw"), ("signwriting", "Sgnw"), ("shavian", "Shaw"), ("shaw", "Shaw"),
  ("sharada", "Shrd"), ("shrd", "Shrd"), ("sidd", "Sidd"), ("siddham", "Sidd"),
  ("khudawadi", "Sind"), ("sind", "Sind"), ("sinh", "Sinh"), ("sinhala", "Sinh"),
  ("sogd", "Sogd"), ("sogdian", "Sogd"), ("oldsogdian", "Sogo"), ("sogo", "Sogo"),
  ("sora", "Sora"), ("sorasompeng", "Sora"), ("soyo", "Soyo"), ("soyombo", "Soyo"),
  ("sund", "Sund"), ("sundanese", "Sund"), ("sylo", "Sylo"), ("sylotinagri", "Sylo"),
  ("syrc", "Syrc"), ("syriac", "Syrc"), ("tagb", "Tagb"), ("tagbanwa", "Tagb"), ("takr", "Takr"),
  ("takri", "Takr"), ("taile", "Tale"), ("tale", "Tale"), ("newtailue", "Talu"),
  ("talu", "Talu"), ("tamil", "Taml"), ("taml", "Taml"), ("tang", "Tang"), ("tangut", "Tang"),
  ("taiviet", "Tavt"), ("tavt", "Tavt"), ("telu", "Telu"), ("telugu", "Telu"), ("tfng", "Tfng"),
  ("tifinagh", "Tfng"), ("tagalog", "Tglg"), ("tglg", "Tglg"), ("thaa", "Thaa"),
  ("thaana", "Thaa"), ("thai", "Thai"), ("tibetan", "Tibt"), ("tibt", "Tibt"), ("tirh", "Tirh"),
  ("tirhuta", "Tirh"), ("tangsa", "Tnsa"), ("tnsa", "Tnsa"), ("toto", "Toto"), ("ugar", "Ugar"),
  ("ugaritic", "Ugar"), ("vai", "Vaii"), ("vaii", "Vaii"), ("vith", "Vith"),
  ("vithkuqi", "Vith"), ("wara", "Wara"), ("warangciti", "Wara"), ("wancho", "Wcho"),
  ("wcho", "Wcho"), ("oldpersian", "Xpeo"), ("xpeo", "Xpeo"), ("cuneiform", "Xsux"),
  ("xsux", "Xsux"), ("yezi", "Yezi"), ("yezidi", "Yezi"), ("yi", "Yiii"), ("yiii", "Yiii"),
  ("zanabazarsquare", "Zanb"), ("zanb", "Zanb"), ("inherited", "Zinh"), ("qaai", "Zinh"),
  ("zinh", "Zinh"), ("common", "Zyyy"), ("zyyy", "Zyyy"),
  ("gara", "Gara"), ("garay", "Gara"), ("gukh", "Gukh"), ("gurungkhema", "Gukh"),
  ("kiratrai", "Krai"), ("krai", "Krai"), ("olonal", "Onao"), ("onao", "Onao"), ("sunu", "Sunu"),
  ("sunuwar", "Sunu"), ("todhri", "Todr"), ("todr", "Todr"), ("tulutigalari", "Tutg"),
  ("tutg", "Tutg"), ("sidetic", "Sidt"), ("sidt", "Sidt"), ("berf", "Berf"),
  ("beriaerfe", "Berf"), ("tolongsiki", "Tols"), ("tols", "Tols"), ("taiyo", "Tayo"),
  ("tayo", "Tayo")]

/-- The long names of binary properties by loose name. -/
def binaryNames : List (String × String) := [
  ("ahex", "ASCII_Hex_Digit"), ("asciihexdigit", "ASCII_Hex_Digit"), ("alpha", "Alphabetic"),
  ("alphabetic", "Alphabetic"), ("bidic", "Bidi_Control"), ("bidicontrol", "Bidi_Control"),
  ("bidim", "Bidi_Mirrored"), ("bidimirrored", "Bidi_Mirrored"),
  ("caseignorable", "Case_Ignorable"), ("ci", "Case_Ignorable"), ("cased", "Cased"),
  ("changeswhencasefolded", "Changes_When_Casefolded"), ("cwcf", "Changes_When_Casefolded"),
  ("changeswhencasemapped", "Changes_When_Casemapped"), ("cwcm", "Changes_When_Casemapped"),
  ("changeswhenlowercased", "Changes_When_Lowercased"), ("cwl", "Changes_When_Lowercased"),
  ("changeswhentitlecased", "Changes_When_Titlecased"), ("cwt", "Changes_When_Titlecased"),
  ("changeswhenuppercased", "Changes_When_Uppercased"), ("cwu", "Changes_When_Uppercased"),
  ("dash", "Dash"), ("defaultignorablecodepoint", "Default_Ignorable_Code_Point"),
  ("di", "Default_Ignorable_Code_Point"), ("dep", "Deprecated"), ("deprecated", "Deprecated"),
  ("dia", "Diacritic"), ("diacritic", "Diacritic"), ("emoji", "Emoji"),
  ("ecomp", "Emoji_Component"), ("emojicomponent", "Emoji_Component"), ("emod", "Emoji_Modifier"),
  ("emojimodifier", "Emoji_Modifier"), ("ebase", "Emoji_Modifier_Base"),
  ("emojimodifierbase", "Emoji_Modifier_Base"), ("emojipresentation", "Emoji_Presentation"),
  ("epres", "Emoji_Presentation"), ("extendedpictographic", "Extended_Pictographic"),
  ("extpict", "Extended_Pictographic"), ("ext", "Extender"), ("extender", "Extender"),
  ("graphemebase", "Grapheme_Base"), ("grbase", "Grapheme_Base"),
  ("graphemeextend", "Grapheme_Extend"), ("grext", "Grapheme_Extend"), ("grlink", "Grapheme_Link"),
  ("graphemelink", "Grapheme_Link"), ("hex", "Hex_Digit"), ("hexdigit", "Hex_Digit"),
  ("hyphen", "Hyphen"), ("idsb", "IDS_Binary_Operator"),
  ("idsbinaryoperator", "IDS_Binary_Operator"), ("idst", "IDS_Trinary_Operator"),
  ("idstrinaryoperator", "IDS_Trinary_Operator"), ("idsu", "IDS_Unary_Operator"),
  ("idsunaryoperator", "IDS_Unary_Operator"), ("idcompatmathcontinue", "ID_Compat_Math_Continue"),
  ("idcompatmathstart", "ID_Compat_Math_Start"), ("idc", "ID_Continue"),
  ("idcontinue", "ID_Continue"), ("ids", "ID_Start"), ("idstart", "ID_Start"),
  ("ideo", "Ideographic"), ("ideographic", "Ideographic"), ("joinc", "Join_Control"),
  ("joincontrol", "Join_Control"), ("loe", "Logical_Order_Exception"),
  ("logicalorderexception", "Logical_Order_Exception"), ("lower", "Lowercase"),
  ("lowercase", "Lowercase"), ("math", "Math"), ("mcm", "Modifier_Combining_Mark"),
  ("modifiercombiningmark", "Modifier_Combining_Mark"), ("nchar", "Noncharacter_Code_Point"),
  ("noncharactercodepoint", "Noncharacter_Code_Point"), ("oalpha", "Other_Alphabetic"),
  ("otheralphabetic", "Other_Alphabetic"), ("odi", "Other_Default_Ignorable_Code_Point"),
  ("otherdefaultignorablecodepoint", "Other_Default_Ignorable_Code_Point"),
  ("ogrext", "Other_Grapheme_Extend"), ("othergraphemeextend", "Other_Grapheme_Extend"),
  ("oidc", "Other_ID_Continue"), ("otheridcontinue", "Other_ID_Continue"),
  ("oids", "Other_ID_Start"), ("otheridstart", "Other_ID_Start"), ("olower", "Other_Lowercase"),
  ("otherlowercase", "Other_Lowercase"), ("omath", "Other_Math"), ("othermath", "Other_Math"),
  ("oupper", "Other_Uppercase"), ("otheruppercase", "Other_Uppercase"),
  ("patsyn", "Pattern_Syntax"), ("patternsyntax", "Pattern_Syntax"),
  ("patternwhitespace", "Pattern_White_Space"), ("patws", "Pattern_White_Space"),
  ("pcm", "Prepended_Concatenation_Mark"),
  ("prependedconcatenationmark", "Prepended_Concatenation_Mark"), ("qmark", "Quotation_Mark"),
  ("quotationmark", "Quotation_Mark"), ("radical", "Radical"),
  ("regionalindicator", "Regional_Indicator"), ("ri", "Regional_Indicator"),
  ("sentenceterminal", "Sentence_Terminal"), ("sterm", "Sentence_Terminal"), ("sd", "Soft_Dotted"),
  ("softdotted", "Soft_Dotted"), ("term", "Terminal_Punctuation"),
  ("terminalpunctuation", "Terminal_Punctuation"), ("uideo", "Unified_Ideograph"),
  ("unifiedideograph", "Unified_Ideograph"), ("upper", "Uppercase"), ("uppercase", "Uppercase"),
  ("variationselector", "Variation_Selector"), ("vs", "Variation_Selector"),
  ("space", "White_Space"), ("whitespace", "White_Space"), ("wspace", "White_Space"),
  ("xidc", "XID_Continue"), ("xidcontinue", "XID_Continue"), ("xids", "XID_Start"),
  ("xidstart", "XID_Start")]

/-- The loose form of a name. The name `isc` keeps its letters, since `c` is a category. -/
def looseName (cs : List Char) : String :=
  let body := match cs with
    | i :: s :: rest => if i.toLower = 'i' && s.toLower = 's' then rest else cs
    | _ => cs
  let kept := (body.filter fun c => c ≠ ' ' && c ≠ '_' && c ≠ '-' && c.toNat < 128).map Char.toLower
  if kept = ['c'] && body.length + 2 = cs.length then "isc" else String.ofList kept

/-- The categories that a loose name stands for. -/
def categoryProperty? (name : String) : Option Property :=
  match name with
  | "any" => some .any
  | "assigned" => some .assigned
  | "ascii" => some .ascii
  | _ => (categoryNames.lookup name).map .categories

/-- The property with the given name: a binary property, a general category or a script. -/
def Property.ofName? (cs : List Char) : Option Property :=
  let name := looseName cs
  let binary := if name = "cf" || name = "sc" || name = "lc" then none else binaryNames.lookup name
  match binary with
  | some long => some (.binary long)
  | none =>
    match categoryProperty? name with
    | some p => some p
    | none => (scriptNames.lookup name).map .script

/-- The property that a named kind of value and a value stand for. -/
def Property.ofNameAndValue? (kind value : List Char) : Option Property :=
  let value := looseName value
  match looseName kind with
  | "gc" | "generalcategory" => categoryProperty? value
  | "sc" | "script" => (scriptNames.lookup value).map .script
  | "scx" | "scriptextensions" => (scriptNames.lookup value).map .scriptExtension
  | "age" => (versionOfName? value).map .age
  | "gcb" | "graphemeclusterbreak" =>
    (Segmentation.grapheme.valueNames.lookup value).map (.segmented .grapheme)
  | "wb" | "wordbreak" => (Segmentation.word.valueNames.lookup value).map (.segmented .word)
  | "sb" | "sentencebreak" =>
    (Segmentation.sentence.valueNames.lookup value).map (.segmented .sentence)
  | _ => none

end PathRouting.Unicode
