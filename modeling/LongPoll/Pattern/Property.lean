import LongPoll.Pattern.CharSet
import LongPoll.Text.Blank
/-!
# Named sets of characters

The sets that a pattern can name: Unicode general categories, scripts and binary properties, the
classes of digits, white space and word characters, and the bracketed ASCII classes. Names are
compared without regard to case, spaces, hyphens, underscores and what is not ASCII, and without a
leading `is`.
-/

namespace LongPoll.CharSet

/-- A set under its names. -/
structure Named where
  /-- The names, in lower case and without separators. -/
  names : List String
  /-- The ASCII members, as ranges. -/
  ascii : List (Nat × Nat)
  /-- The number of ranges of other members. -/
  spread : Nat

/-- The set that stands under the names. -/
def Named.set (n : Named) : CharSet := .property n.ascii n.spread

/-- The general categories and their groups. -/
def categories : List Named := [
  ⟨["l", "letter"], [(0x41, 0x5A), (0x61, 0x7A)], 657⟩,
  ⟨["lc", "casedletter"], [(0x41, 0x5A), (0x61, 0x7A)], 141⟩,
  ⟨["lu", "uppercaseletter"], [(0x41, 0x5A)], 645⟩,
  ⟨["ll", "lowercaseletter"], [(0x61, 0x7A)], 657⟩,
  ⟨["lt", "titlecaseletter"], [], 10⟩,
  ⟨["lm", "modifierletter"], [], 71⟩,
  ⟨["lo", "otherletter"], [], 510⟩,
  ⟨["m", "mark", "combiningmark"], [], 310⟩,
  ⟨["mn", "nonspacingmark"], [], 346⟩,
  ⟨["mc", "spacingmark"], [], 182⟩,
  ⟨["me", "enclosingmark"], [], 5⟩,
  ⟨["n", "number"], [(0x30, 0x39)], 136⟩,
  ⟨["nd", "decimalnumber", "digit"], [(0x30, 0x39)], 63⟩,
  ⟨["nl", "letternumber"], [], 12⟩,
  ⟨["no", "othernumber"], [], 72⟩,
  ⟨["p", "punctuation", "punct"], [(0x21, 0x23), (0x25, 0x2A), (0x2C, 0x2F), (0x3A, 0x3B),
    (0x3F, 0x40), (0x5B, 0x5D), (0x5F, 0x5F), (0x7B, 0x7B), (0x7D, 0x7D)], 182⟩,
  ⟨["pc", "connectorpunctuation"], [(0x5F, 0x5F)], 5⟩,
  ⟨["pd", "dashpunctuation"], [(0x2D, 0x2D)], 18⟩,
  ⟨["ps", "openpunctuation"], [(0x28, 0x28), (0x5B, 0x5B), (0x7B, 0x7B)], 76⟩,
  ⟨["pe", "closepunctuation"], [(0x29, 0x29), (0x5D, 0x5D), (0x7D, 0x7D)], 73⟩,
  ⟨["pi", "initialpunctuation"], [], 11⟩,
  ⟨["pf", "finalpunctuation"], [], 10⟩,
  ⟨["po", "otherpunctuation"], [(0x21, 0x23), (0x25, 0x27), (0x2A, 0x2A), (0x2C, 0x2C),
    (0x2E, 0x2F), (0x3A, 0x3B), (0x3F, 0x40), (0x5C, 0x5C)], 179⟩,
  ⟨["s", "symbol"], [(0x24, 0x24), (0x2B, 0x2B), (0x3C, 0x3E), (0x5E, 0x5E), (0x60, 0x60),
    (0x7C, 0x7C), (0x7E, 0x7E)], 225⟩,
  ⟨["sm", "mathsymbol"], [(0x2B, 0x2B), (0x3C, 0x3E), (0x7C, 0x7C), (0x7E, 0x7E)], 60⟩,
  ⟨["sc", "currencysymbol"], [(0x24, 0x24)], 20⟩,
  ⟨["sk", "modifiersymbol"], [(0x5E, 0x5E), (0x60, 0x60)], 29⟩,
  ⟨["so", "othersymbol"], [], 184⟩,
  ⟨["z", "separator"], [(0x20, 0x20)], 7⟩,
  ⟨["zs", "spaceseparator"], [(0x20, 0x20)], 6⟩,
  ⟨["zl", "lineseparator"], [], 1⟩,
  ⟨["zp", "paragraphseparator"], [], 1⟩,
  ⟨["c", "other"], [(0x0, 0x1F), (0x7F, 0x7F)], 711⟩,
  ⟨["cc", "control", "cntrl"], [(0x0, 0x1F), (0x7F, 0x7F)], 1⟩,
  ⟨["cf", "format"], [], 21⟩,
  ⟨["cs", "surrogate"], [], 0⟩,
  ⟨["co", "privateuse"], [], 3⟩,
  ⟨["cn", "unassigned"], [], 707⟩]

/-- The binary properties. -/
def binaryProperties : List Named := [
  ⟨["ahex", "asciihexdigit"], [(0x30, 0x39), (0x41, 0x46), (0x61, 0x66)], 0⟩,
  ⟨["alpha", "alphabetic"], [(0x41, 0x5A), (0x61, 0x7A)], 730⟩,
  ⟨["bidic", "bidicontrol"], [], 4⟩,
  ⟨["bidim", "bidimirrored"], [(0x28, 0x29), (0x3C, 0x3C), (0x3E, 0x3E), (0x5B, 0x5B), (0x5D, 0x5D),
    (0x7B, 0x7B), (0x7D, 0x7D)], 107⟩,
  ⟨["ci", "caseignorable"], [(0x27, 0x27), (0x2E, 0x2E), (0x3A, 0x3A), (0x5E, 0x5E), (0x60, 0x60)],
    432⟩,
  ⟨["cased"], [(0x41, 0x5A), (0x61, 0x7A)], 155⟩,
  ⟨["cwcf", "changeswhencasefolded"], [(0x41, 0x5A)], 621⟩,
  ⟨["cwcm", "changeswhencasemapped"], [(0x41, 0x5A), (0x61, 0x7A)], 129⟩,
  ⟨["cwl", "changeswhenlowercased"], [(0x41, 0x5A)], 608⟩,
  ⟨["cwt", "changeswhentitlecased"], [(0x61, 0x7A)], 625⟩,
  ⟨["cwu", "changeswhenuppercased"], [(0x61, 0x7A)], 626⟩,
  ⟨["dash"], [(0x2D, 0x2D)], 22⟩,
  ⟨["di", "defaultignorablecodepoint"], [], 17⟩,
  ⟨["dep", "deprecated"], [], 8⟩,
  ⟨["dia", "diacritic"], [(0x5E, 0x5E), (0x60, 0x60)], 193⟩,
  ⟨["emoji"], [(0x23, 0x23), (0x2A, 0x2A), (0x30, 0x39)], 148⟩,
  ⟨["ecomp", "emojicomponent"], [(0x23, 0x23), (0x2A, 0x2A), (0x30, 0x39)], 7⟩,
  ⟨["ebase", "emojimodifierbase"], [], 40⟩,
  ⟨["emod", "emojimodifier"], [], 1⟩,
  ⟨["epres", "emojipresentation"], [], 81⟩,
  ⟨["extpict", "extendedpictographic"], [], 78⟩,
  ⟨["ext", "extender"], [], 33⟩,
  ⟨["grbase", "graphemebase"], [(0x20, 0x7E)], 874⟩,
  ⟨["grext", "graphemeextend"], [], 363⟩,
  ⟨["grlink", "graphemelink"], [], 52⟩,
  ⟨["hex", "hexdigit"], [(0x30, 0x39), (0x41, 0x46), (0x61, 0x66)], 3⟩,
  ⟨["hyphen"], [(0x2D, 0x2D)], 9⟩,
  ⟨["idc", "idcontinue"], [(0x30, 0x39), (0x41, 0x5A), (0x5F, 0x5F), (0x61, 0x7A)], 764⟩,
  ⟨["idcompatmathcontinue"], [], 18⟩,
  ⟨["idcompatmathstart"], [], 13⟩,
  ⟨["ids", "idstart"], [(0x41, 0x5A), (0x61, 0x7A)], 657⟩,
  ⟨["ideo", "ideographic"], [], 20⟩,
  ⟨["idsb", "idsbinaryoperator"], [], 2⟩,
  ⟨["idst", "idstrinaryoperator"], [], 1⟩,
  ⟨["idsu", "idsunaryoperator"], [], 1⟩,
  ⟨["joinc", "joincontrol"], [], 1⟩,
  ⟨["loe", "logicalorderexception"], [], 7⟩,
  ⟨["lower", "lowercase"], [(0x61, 0x7A)], 670⟩,
  ⟨["math"], [(0x2B, 0x2B), (0x3C, 0x3E), (0x5E, 0x5E), (0x7C, 0x7C), (0x7E, 0x7E)], 133⟩,
  ⟨["mcm", "modifiercombiningmark"], [], 6⟩,
  ⟨["nchar", "noncharactercodepoint"], [], 18⟩,
  ⟨["oalpha", "otheralphabetic"], [], 236⟩,
  ⟨["odi", "otherdefaultignorablecodepoint"], [], 8⟩,
  ⟨["ogrext", "othergraphemeextend"], [], 37⟩,
  ⟨["oidc", "otheridcontinue"], [], 9⟩,
  ⟨["oids", "otheridstart"], [], 4⟩,
  ⟨["olower", "otherlowercase"], [], 28⟩,
  ⟨["omath", "othermath"], [(0x5E, 0x5E)], 131⟩,
  ⟨["oupper", "otheruppercase"], [], 5⟩,
  ⟨["patsyn", "patternsyntax"], [(0x21, 0x2F), (0x3A, 0x40), (0x5B, 0x5E), (0x60, 0x60),
    (0x7B, 0x7E)], 23⟩,
  ⟨["patws", "patternwhitespace"], [(0x9, 0xD), (0x20, 0x20)], 3⟩,
  ⟨["pcm", "prependedconcatenationmark"], [], 7⟩,
  ⟨["qmark", "quotationmark"], [(0x22, 0x22), (0x27, 0x27)], 11⟩,
  ⟨["radical"], [], 3⟩,
  ⟨["ri", "regionalindicator"], [], 1⟩,
  ⟨["sd", "softdotted"], [(0x69, 0x6A)], 33⟩,
  ⟨["sterm", "sentenceterminal"], [(0x21, 0x21), (0x2E, 0x2E), (0x3F, 0x3F)], 77⟩,
  ⟨["term", "terminalpunctuation"], [(0x21, 0x21), (0x2C, 0x2C), (0x2E, 0x2E), (0x3A, 0x3B),
    (0x3F, 0x3F)], 103⟩,
  ⟨["uideo", "unifiedideograph"], [], 16⟩,
  ⟨["upper", "uppercase"], [(0x41, 0x5A)], 650⟩,
  ⟨["vs", "variationselector"], [], 4⟩,
  ⟨["wspace", "whitespace", "space"], [(0x9, 0xD), (0x20, 0x20)], 8⟩,
  ⟨["xidc", "xidcontinue"], [(0x30, 0x39), (0x41, 0x5A), (0x5F, 0x5F), (0x61, 0x7A)], 771⟩,
  ⟨["xids", "xidstart"], [(0x41, 0x5A), (0x61, 0x7A)], 664⟩]

/-- The scripts. -/
def scripts : List Named := [
  ⟨["adlm", "adlam"], [], 12⟩,
  ⟨["aghb", "caucasianalbanian"], [], 12⟩,
  ⟨["ahom"], [], 12⟩,
  ⟨["arab", "arabic"], [], 12⟩,
  ⟨["armi", "imperialaramaic"], [], 12⟩,
  ⟨["armn", "armenian"], [], 12⟩,
  ⟨["avst", "avestan"], [], 12⟩,
  ⟨["bali", "balinese"], [], 12⟩,
  ⟨["bamu", "bamum"], [], 12⟩,
  ⟨["bass", "bassavah"], [], 12⟩,
  ⟨["batk", "batak"], [], 12⟩,
  ⟨["beng", "bengali"], [], 12⟩,
  ⟨["bhks", "bhaiksuki"], [], 12⟩,
  ⟨["bopo", "bopomofo"], [], 12⟩,
  ⟨["brah", "brahmi"], [], 12⟩,
  ⟨["brai", "braille"], [], 12⟩,
  ⟨["bugi", "buginese"], [], 12⟩,
  ⟨["buhd", "buhid"], [], 12⟩,
  ⟨["cakm", "chakma"], [], 12⟩,
  ⟨["cans", "canadianaboriginal"], [], 12⟩,
  ⟨["cari", "carian"], [], 12⟩,
  ⟨["cham"], [], 12⟩,
  ⟨["cher", "cherokee"], [], 12⟩,
  ⟨["chrs", "chorasmian"], [], 12⟩,
  ⟨["copt", "coptic", "qaac"], [], 12⟩,
  ⟨["cpmn", "cyprominoan"], [], 12⟩,
  ⟨["cprt", "cypriot"], [], 12⟩,
  ⟨["cyrl", "cyrillic"], [], 12⟩,
  ⟨["deva", "devanagari"], [], 12⟩,
  ⟨["diak", "divesakuru"], [], 12⟩,
  ⟨["dogr", "dogra"], [], 12⟩,
  ⟨["dsrt", "deseret"], [], 12⟩,
  ⟨["dupl", "duployan"], [], 12⟩,
  ⟨["egyp", "egyptianhieroglyphs"], [], 12⟩,
  ⟨["elba", "elbasan"], [], 12⟩,
  ⟨["elym", "elymaic"], [], 12⟩,
  ⟨["ethi", "ethiopic"], [], 12⟩,
  ⟨["gara", "garay"], [], 12⟩,
  ⟨["geor", "georgian"], [], 12⟩,
  ⟨["glag", "glagolitic"], [], 12⟩,
  ⟨["gong", "gunjalagondi"], [], 12⟩,
  ⟨["gonm", "masaramgondi"], [], 12⟩,
  ⟨["goth", "gothic"], [], 12⟩,
  ⟨["gran", "grantha"], [], 12⟩,
  ⟨["grek", "greek"], [], 12⟩,
  ⟨["gujr", "gujarati"], [], 12⟩,
  ⟨["gukh", "gurungkhema"], [], 12⟩,
  ⟨["guru", "gurmukhi"], [], 12⟩,
  ⟨["hang", "hangul"], [], 12⟩,
  ⟨["hani", "han"], [], 12⟩,
  ⟨["hano", "hanunoo"], [], 12⟩,
  ⟨["hatr", "hatran"], [], 12⟩,
  ⟨["hebr", "hebrew"], [], 12⟩,
  ⟨["hira", "hiragana"], [], 12⟩,
  ⟨["hluw", "anatolianhieroglyphs"], [], 12⟩,
  ⟨["hmng", "pahawhhmong"], [], 12⟩,
  ⟨["hmnp", "nyiakengpuachuehmong"], [], 12⟩,
  ⟨["hung", "oldhungarian"], [], 12⟩,
  ⟨["ital", "olditalic"], [], 12⟩,
  ⟨["java", "javanese"], [], 12⟩,
  ⟨["kali", "kayahli"], [], 12⟩,
  ⟨["kana", "katakana"], [], 12⟩,
  ⟨["kawi"], [], 12⟩,
  ⟨["khar", "kharoshthi"], [], 12⟩,
  ⟨["khmr", "khmer"], [], 12⟩,
  ⟨["khoj", "khojki"], [], 12⟩,
  ⟨["kits", "khitansmallscript"], [], 12⟩,
  ⟨["knda", "kannada"], [], 12⟩,
  ⟨["krai", "kiratrai"], [], 12⟩,
  ⟨["kthi", "kaithi"], [], 12⟩,
  ⟨["lana", "taitham"], [], 12⟩,
  ⟨["laoo", "lao"], [], 12⟩,
  ⟨["latn", "latin"], [(0x41, 0x5A), (0x61, 0x7A)], 37⟩,
  ⟨["lepc", "lepcha"], [], 12⟩,
  ⟨["limb", "limbu"], [], 12⟩,
  ⟨["lina", "lineara"], [], 12⟩,
  ⟨["linb", "linearb"], [], 12⟩,
  ⟨["lisu"], [], 12⟩,
  ⟨["lyci", "lycian"], [], 12⟩,
  ⟨["lydi", "lydian"], [], 12⟩,
  ⟨["mahj", "mahajani"], [], 12⟩,
  ⟨["maka", "makasar"], [], 12⟩,
  ⟨["mand", "mandaic"], [], 12⟩,
  ⟨["mani", "manichaean"], [], 12⟩,
  ⟨["marc", "marchen"], [], 12⟩,
  ⟨["medf", "medefaidrin"], [], 12⟩,
  ⟨["mend", "mendekikakui"], [], 12⟩,
  ⟨["merc", "meroiticcursive"], [], 12⟩,
  ⟨["mero", "meroitichieroglyphs"], [], 12⟩,
  ⟨["mlym", "malayalam"], [], 12⟩,
  ⟨["modi"], [], 12⟩,
  ⟨["mong", "mongolian"], [], 12⟩,
  ⟨["mroo", "mro"], [], 12⟩,
  ⟨["mtei", "meeteimayek"], [], 12⟩,
  ⟨["mult", "multani"], [], 12⟩,
  ⟨["mymr", "myanmar"], [], 12⟩,
  ⟨["nagm", "nagmundari"], [], 12⟩,
  ⟨["nand", "nandinagari"], [], 12⟩,
  ⟨["narb", "oldnortharabian"], [], 12⟩,
  ⟨["nbat", "nabataean"], [], 12⟩,
  ⟨["newa"], [], 12⟩,
  ⟨["nkoo", "nko"], [], 12⟩,
  ⟨["nshu", "nushu"], [], 12⟩,
  ⟨["ogam", "ogham"], [], 12⟩,
  ⟨["olck", "olchiki"], [], 12⟩,
  ⟨["onao", "olonal"], [], 12⟩,
  ⟨["orkh", "oldturkic"], [], 12⟩,
  ⟨["orya", "oriya"], [], 12⟩,
  ⟨["osge", "osage"], [], 12⟩,
  ⟨["osma", "osmanya"], [], 12⟩,
  ⟨["ougr", "olduyghur"], [], 12⟩,
  ⟨["palm", "palmyrene"], [], 12⟩,
  ⟨["pauc", "paucinhau"], [], 12⟩,
  ⟨["perm", "oldpermic"], [], 12⟩,
  ⟨["phag", "phagspa"], [], 12⟩,
  ⟨["phli", "inscriptionalpahlavi"], [], 12⟩,
  ⟨["phlp", "psalterpahlavi"], [], 12⟩,
  ⟨["phnx", "phoenician"], [], 12⟩,
  ⟨["plrd", "miao"], [], 12⟩,
  ⟨["prti", "inscriptionalparthian"], [], 12⟩,
  ⟨["rjng", "rejang"], [], 12⟩,
  ⟨["rohg", "hanifirohingya"], [], 12⟩,
  ⟨["runr", "runic"], [], 12⟩,
  ⟨["samr", "samaritan"], [], 12⟩,
  ⟨["sarb", "oldsoutharabian"], [], 12⟩,
  ⟨["saur", "saurashtra"], [], 12⟩,
  ⟨["sgnw", "signwriting"], [], 12⟩,
  ⟨["shaw", "shavian"], [], 12⟩,
  ⟨["shrd", "sharada"], [], 12⟩,
  ⟨["sidd", "siddham"], [], 12⟩,
  ⟨["sind", "khudawadi"], [], 12⟩,
  ⟨["sinh", "sinhala"], [], 12⟩,
  ⟨["sogd", "sogdian"], [], 12⟩,
  ⟨["sogo", "oldsogdian"], [], 12⟩,
  ⟨["sora", "sorasompeng"], [], 12⟩,
  ⟨["soyo", "soyombo"], [], 12⟩,
  ⟨["sund", "sundanese"], [], 12⟩,
  ⟨["sunu", "sunuwar"], [], 12⟩,
  ⟨["sylo", "sylotinagri"], [], 12⟩,
  ⟨["syrc", "syriac"], [], 12⟩,
  ⟨["tagb", "tagbanwa"], [], 12⟩,
  ⟨["takr", "takri"], [], 12⟩,
  ⟨["tale", "taile"], [], 12⟩,
  ⟨["talu", "newtailue"], [], 12⟩,
  ⟨["taml", "tamil"], [], 12⟩,
  ⟨["tang", "tangut"], [], 12⟩,
  ⟨["tavt", "taiviet"], [], 12⟩,
  ⟨["telu", "telugu"], [], 12⟩,
  ⟨["tfng", "tifinagh"], [], 12⟩,
  ⟨["tglg", "tagalog"], [], 12⟩,
  ⟨["thaa", "thaana"], [], 12⟩,
  ⟨["thai"], [], 12⟩,
  ⟨["tibt", "tibetan"], [], 12⟩,
  ⟨["tirh", "tirhuta"], [], 12⟩,
  ⟨["tnsa", "tangsa"], [], 12⟩,
  ⟨["todr", "todhri"], [], 12⟩,
  ⟨["toto"], [], 12⟩,
  ⟨["tutg", "tulutigalari"], [], 12⟩,
  ⟨["ugar", "ugaritic"], [], 12⟩,
  ⟨["vaii", "vai"], [], 12⟩,
  ⟨["vith", "vithkuqi"], [], 12⟩,
  ⟨["wara", "warangciti"], [], 12⟩,
  ⟨["wcho", "wancho"], [], 12⟩,
  ⟨["xpeo", "oldpersian"], [], 12⟩,
  ⟨["xsux", "cuneiform"], [], 12⟩,
  ⟨["yezi", "yezidi"], [], 12⟩,
  ⟨["yiii", "yi"], [], 12⟩,
  ⟨["zanb", "zanabazarsquare"], [], 12⟩,
  ⟨["zinh", "inherited", "qaai"], [], 12⟩,
  ⟨["zyyy", "common"], [(0x0, 0x40), (0x5B, 0x60), (0x7B, 0x7F)], 172⟩,
  ⟨["zzzz", "unknown"], [], 700⟩]

/-- The sets of characters that stand together in what readers take for one character. -/
def graphemeBreaks : List Named := [
  ⟨["control", "cn"], [(0x0, 0x9), (0xB, 0xC), (0xE, 0x1F), (0x7F, 0x7F)], 16⟩,
  ⟨["cr"], [(0xD, 0xD)], 0⟩,
  ⟨["extend", "ex"], [], 370⟩,
  ⟨["l"], [], 2⟩,
  ⟨["lf"], [(0xA, 0xA)], 0⟩,
  ⟨["lv"], [], 399⟩,
  ⟨["lvt"], [], 399⟩,
  ⟨["prepend", "pp"], [], 15⟩,
  ⟨["regionalindicator", "ri"], [], 1⟩,
  ⟨["spacingmark", "sm"], [], 162⟩,
  ⟨["t"], [], 2⟩,
  ⟨["v"], [], 4⟩,
  ⟨["zwj"], [], 1⟩]

/-- The sets of characters that decide where sentences end. -/
def sentenceBreaks : List Named := [
  ⟨["aterm", "at"], [(0x2E, 0x2E)], 3⟩,
  ⟨["close", "cl"], [(0x22, 0x22), (0x27, 0x29), (0x5B, 0x5B), (0x5D, 0x5D), (0x7B, 0x7B),
    (0x7D, 0x7D)], 100⟩,
  ⟨["cr"], [(0xD, 0xD)], 0⟩,
  ⟨["extend", "ex"], [], 504⟩,
  ⟨["format", "fo"], [], 18⟩,
  ⟨["lf"], [(0xA, 0xA)], 0⟩,
  ⟨["lower", "lo"], [(0x61, 0x7A)], 669⟩,
  ⟨["numeric", "nu"], [(0x30, 0x39)], 73⟩,
  ⟨["oletter", "le"], [], 530⟩,
  ⟨["scontinue", "sc"], [(0x2C, 0x2D), (0x3A, 0x3B)], 19⟩,
  ⟨["sep", "se"], [], 2⟩,
  ⟨["sp"], [(0x9, 0x9), (0xB, 0xC), (0x20, 0x20)], 6⟩,
  ⟨["sterm", "st"], [(0x21, 0x21), (0x3F, 0x3F)], 79⟩,
  ⟨["upper", "up"], [(0x41, 0x5A)], 649⟩]

/-- The sets of characters that decide where words end. -/
def wordBreaks : List Named := [
  ⟨["aletter", "le"], [(0x41, 0x5A), (0x61, 0x7A)], 580⟩,
  ⟨["cr"], [(0xD, 0xD)], 0⟩,
  ⟨["doublequote", "dq"], [(0x22, 0x22)], 0⟩,
  ⟨["extend"], [], 506⟩,
  ⟨["extendnumlet", "ex"], [(0x5F, 0x5F)], 5⟩,
  ⟨["format", "fo"], [], 15⟩,
  ⟨["hebrewletter", "hl"], [], 9⟩,
  ⟨["katakana", "ka"], [], 14⟩,
  ⟨["lf"], [(0xA, 0xA)], 0⟩,
  ⟨["midletter", "ml"], [(0x3A, 0x3A)], 7⟩,
  ⟨["midnum", "mn"], [(0x2C, 0x2C), (0x3B, 0x3B)], 12⟩,
  ⟨["midnumlet", "mb"], [(0x2E, 0x2E)], 5⟩,
  ⟨["newline", "nl"], [(0xB, 0xC)], 2⟩,
  ⟨["numeric", "nu"], [(0x30, 0x39)], 72⟩,
  ⟨["regionalindicator", "ri"], [], 1⟩,
  ⟨["singlequote", "sq"], [(0x27, 0x27)], 0⟩,
  ⟨["wsegspace"], [(0x20, 0x20)], 5⟩,
  ⟨["zwj"], [], 1⟩]

/-- The ASCII range as a whole. -/
def asciiSet : CharSet := .range 0 0x7F

/-- Every character. -/
def anySet : CharSet := .range 0 0x10FFFF

/-- The characters of a name that count when names are compared, in lower case. -/
def significant (cs : List Char) : List Char :=
  cs.filterMap fun c =>
    if c = ' ' || c = '_' || c = '-' || '\x7f' < c then none else some c.toLower

/-- A property name in the form in which names are compared. The `is` at the start of a short name
of a property that no set stands under is kept. -/
def normalName (name : String) : String :=
  match name.toList with
  | i :: s :: rest =>
    if i.toLower = 'i' && s.toLower = 's' then
      let cs := significant rest
      if cs = ['c'] then "isc" else String.ofList cs
    else String.ofList (significant (i :: s :: rest))
  | cs => String.ofList (significant cs)

/-- The set with that normal name in a list of named sets. -/
def lookUp? (sets : List Named) (name : String) : Option CharSet :=
  (sets.find? fun n => n.names.contains name).map Named.set

/-- The general category with that normal name. -/
def category? (name : String) : Option CharSet :=
  if name = "any" then some anySet
  else if name = "assigned" then some (.diff anySet (.property [] 707))
  else if name = "ascii" then some asciiSet
  else lookUp? categories name

/-- The set that a bare property name denotes: a binary property, else a category, else a
script. Three names that are also short names of properties denote categories or nothing. -/
def named? (name : String) : Option CharSet :=
  let name := normalName name
  let binary :=
    if name = "cf" || name = "sc" || name = "lc" then none else lookUp? binaryProperties name
  binary <|> category? name <|> lookUp? scripts name

/-- The versions of the standard in which characters were first assigned. -/
def ages : List String :=
  ["1.1", "2.0", "2.1", "3.0", "3.1", "3.2", "4.0", "4.1", "5.0", "5.1", "5.2", "6.0", "6.1",
    "6.2", "6.3", "7.0", "8.0", "9.0", "10.0", "11.0", "12.0", "12.1", "13.0", "14.0", "15.0",
    "15.1", "16.0"]

/-- The version with that normal name, in digits. -/
def age? (name : String) : Option String :=
  let digits := match name.toList with
    | 'v' :: rest => String.ofList rest
    | _ => name
  ages.find? fun v => v == digits || String.ofList (v.toList.filter (· != '.')) == digits

/-- The set of the characters whose named property has the named value. -/
def valued? (property value : String) : Option CharSet :=
  let property := normalName property
  let value := normalName value
  if property = "gc" || property = "generalcategory" then category? value
  else if property = "sc" || property = "script" then lookUp? scripts value
  else if property = "scx" || property = "scriptextensions" then lookUp? scripts value
  else if property = "age" then (age? value).map fun _ => .union asciiSet (.property [] 400)
  else if property = "gcb" || property = "graphemeclusterbreak" then lookUp? graphemeBreaks value
  else if property = "sb" || property = "sentencebreak" then lookUp? sentenceBreaks value
  else if property = "wb" || property = "wordbreak" then lookUp? wordBreaks value
  else none

/-! ## Short classes -/

/-- The decimal digits, of ASCII only unless `unicode`. -/
def digits (unicode : Bool) : CharSet :=
  .property [(0x30, 0x39)] (if unicode then 60 else 0)

/-- White space, of ASCII only unless `unicode`. -/
def blanks (unicode : Bool) : CharSet :=
  .property [(0x9, 0xD), (0x20, 0x20)] (if unicode then 8 else 0)

/-- Word characters, of ASCII only unless `unicode`. -/
def wordChars (unicode : Bool) : CharSet :=
  .property [(0x30, 0x39), (0x41, 0x5A), (0x5F, 0x5F), (0x61, 0x7A)] (if unicode then 729 else 0)

/-- The bracketed ASCII class of that name. -/
def asciiClass? (name : String) : Option CharSet :=
  if name = "alnum" then some (.property [(0x30, 0x39), (0x41, 0x5A), (0x61, 0x7A)] 0)
  else if name = "alpha" then some (.property [(0x41, 0x5A), (0x61, 0x7A)] 0)
  else if name = "ascii" then some asciiSet
  else if name = "blank" then some (.property [(0x9, 0x9), (0x20, 0x20)] 0)
  else if name = "cntrl" then some (.property [(0x0, 0x1F), (0x7F, 0x7F)] 0)
  else if name = "digit" then some (.property [(0x30, 0x39)] 0)
  else if name = "graph" then some (.property [(0x21, 0x7E)] 0)
  else if name = "lower" then some (.property [(0x61, 0x7A)] 0)
  else if name = "print" then some (.property [(0x20, 0x7E)] 0)
  else if name = "punct" then
    some (.property [(0x21, 0x2F), (0x3A, 0x40), (0x5B, 0x60), (0x7B, 0x7E)] 0)
  else if name = "space" then some (.property [(0x9, 0xD), (0x20, 0x20)] 0)
  else if name = "upper" then some (.property [(0x41, 0x5A)] 0)
  else if name = "word" then some (wordChars false)
  else if name = "xdigit" then some (.property [(0x30, 0x39), (0x41, 0x46), (0x61, 0x66)] 0)
  else none

end LongPoll.CharSet
