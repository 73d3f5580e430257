import ShapeLisp.Text.Script.AtoH
import ShapeLisp.Text.Script.ItoO
import ShapeLisp.Text.Script.PtoZ
import ShapeLisp.Text.Script.Common

/-!
# Scripts by name

Every script has a full name and a short one. Names are compared after `normalName`, which keeps
lower-case letters and digits only.
-/

namespace ShapeLisp.Text.Script

/-- The scripts under their full and short names. -/
def named : List (String × String × CodePoints) :=
  [("adlam", "adlm", adlam),
   ("ahom", "ahom", ahom),
   ("anatolianhieroglyphs", "hluw", anatolianHieroglyphs),
   ("arabic", "arab", arabic),
   ("armenian", "armn", armenian),
   ("avestan", "avst", avestan),
   ("balinese", "bali", balinese),
   ("bamum", "bamu", bamum),
   ("bassavah", "bass", bassaVah),
   ("batak", "batk", batak),
   ("bengali", "beng", bengali),
   ("bhaiksuki", "bhks", bhaiksuki),
   ("bopomofo", "bopo", bopomofo),
   ("brahmi", "brah", brahmi),
   ("braille", "brai", braille),
   ("buginese", "bugi", buginese),
   ("buhid", "buhd", buhid),
   ("canadianaboriginal", "cans", canadianAboriginal),
   ("carian", "cari", carian),
   ("caucasianalbanian", "aghb", caucasianAlbanian),
   ("chakma", "cakm", chakma),
   ("cham", "cham", cham),
   ("cherokee", "cher", cherokee),
   ("chorasmian", "chrs", chorasmian),
   ("common", "zyyy", common),
   ("coptic", "copt", coptic),
   ("cuneiform", "xsux", cuneiform),
   ("cypriot", "cprt", cypriot),
   ("cyprominoan", "cpmn", cyproMinoan),
   ("cyrillic", "cyrl", cyrillic),
   ("deseret", "dsrt", deseret),
   ("devanagari", "deva", devanagari),
   ("divesakuru", "diak", divesAkuru),
   ("dogra", "dogr", dogra),
   ("duployan", "dupl", duployan),
   ("egyptianhieroglyphs", "egyp", egyptianHieroglyphs),
   ("elbasan", "elba", elbasan),
   ("elymaic", "elym", elymaic),
   ("ethiopic", "ethi", ethiopic),
   ("georgian", "geor", georgian),
   ("glagolitic", "glag", glagolitic),
   ("gothic", "goth", gothic),
   ("grantha", "gran", grantha),
   ("greek", "grek", greek),
   ("gujarati", "gujr", gujarati),
   ("gunjalagondi", "gong", gunjalaGondi),
   ("gurmukhi", "guru", gurmukhi),
   ("han", "hani", han),
   ("hangul", "hang", hangul),
   ("hanifirohingya", "rohg", hanifiRohingya),
   ("hanunoo", "hano", hanunoo),
   ("hatran", "hatr", hatran),
   ("hebrew", "hebr", hebrew),
   ("hiragana", "hira", hiragana),
   ("imperialaramaic", "armi", imperialAramaic),
   ("inherited", "zinh", inherited),
   ("inscriptionalpahlavi", "phli", inscriptionalPahlavi),
   ("inscriptionalparthian", "prti", inscriptionalParthian),
   ("javanese", "java", javanese),
   ("kaithi", "kthi", kaithi),
   ("kannada", "knda", kannada),
   ("katakana", "kana", katakana),
   ("kawi", "kawi", kawi),
   ("kayahli", "kali", kayahLi),
   ("kharoshthi", "khar", kharoshthi),
   ("khitansmallscript", "kits", khitanSmallScript),
   ("khmer", "khmr", khmer),
   ("khojki", "khoj", khojki),
   ("khudawadi", "sind", khudawadi),
   ("lao", "laoo", lao),
   ("latin", "latn", latin),
   ("lepcha", "lepc", lepcha),
   ("limbu", "limb", limbu),
   ("lineara", "lina", linearA),
   ("linearb", "linb", linearB),
   ("lisu", "lisu", lisu),
   ("lycian", "lyci", lycian),
   ("lydian", "lydi", lydian),
   ("mahajani", "mahj", mahajani),
   ("makasar", "maka", makasar),
   ("malayalam", "mlym", malayalam),
   ("mandaic", "mand", mandaic),
   ("manichaean", "mani", manichaean),
   ("marchen", "marc", marchen),
   ("masaramgondi", "gonm", masaramGondi),
   ("medefaidrin", "medf", medefaidrin),
   ("meeteimayek", "mtei", meeteiMayek),
   ("mendekikakui", "mend", mendeKikakui),
   ("meroiticcursive", "merc", meroiticCursive),
   ("meroitichieroglyphs", "mero", meroiticHieroglyphs),
   ("miao", "plrd", miao),
   ("modi", "modi", modi),
   ("mongolian", "mong", mongolian),
   ("mro", "mroo", mro),
   ("multani", "mult", multani),
   ("myanmar", "mymr", myanmar),
   ("nabataean", "nbat", nabataean),
   ("nagmundari", "nagm", nagMundari),
   ("nandinagari", "nand", nandinagari),
   ("newtailue", "talu", newTaiLue),
   ("newa", "newa", newa),
   ("nko", "nkoo", nko),
   ("nushu", "nshu", nushu),
   ("nyiakengpuachuehmong", "hmnp", nyiakengPuachueHmong),
   ("ogham", "ogam", ogham),
   ("olchiki", "olck", olChiki),
   ("oldhungarian", "hung", oldHungarian),
   ("olditalic", "ital", oldItalic),
   ("oldnortharabian", "narb", oldNorthArabian),
   ("oldpermic", "perm", oldPermic),
   ("oldpersian", "xpeo", oldPersian),
   ("oldsogdian", "sogo", oldSogdian),
   ("oldsoutharabian", "sarb", oldSouthArabian),
   ("oldturkic", "orkh", oldTurkic),
   ("olduyghur", "ougr", oldUyghur),
   ("oriya", "orya", oriya),
   ("osage", "osge", osage),
   ("osmanya", "osma", osmanya),
   ("pahawhhmong", "hmng", pahawhHmong),
   ("palmyrene", "palm", palmyrene),
   ("paucinhau", "pauc", pauCinHau),
   ("phagspa", "phag", phagsPa),
   ("phoenician", "phnx", phoenician),
   ("psalterpahlavi", "phlp", psalterPahlavi),
   ("rejang", "rjng", rejang),
   ("runic", "runr", runic),
   ("samaritan", "samr", samaritan),
   ("saurashtra", "saur", saurashtra),
   ("sharada", "shrd", sharada),
   ("shavian", "shaw", shavian),
   ("siddham", "sidd", siddham),
   ("signwriting", "sgnw", signWriting),
   ("sinhala", "sinh", sinhala),
   ("sogdian", "sogd", sogdian),
   ("sorasompeng", "sora", soraSompeng),
   ("soyombo", "soyo", soyombo),
   ("sundanese", "sund", sundanese),
   ("sylotinagri", "sylo", sylotiNagri),
   ("syriac", "syrc", syriac),
   ("tagalog", "tglg", tagalog),
   ("tagbanwa", "tagb", tagbanwa),
   ("taile", "tale", taiLe),
   ("taitham", "lana", taiTham),
   ("taiviet", "tavt", taiViet),
   ("takri", "takr", takri),
   ("tamil", "taml", tamil),
   ("tangsa", "tnsa", tangsa),
   ("tangut", "tang", tangut),
   ("telugu", "telu", telugu),
   ("thaana", "thaa", thaana),
   ("thai", "thai", thai),
   ("tibetan", "tibt", tibetan),
   ("tifinagh", "tfng", tifinagh),
   ("tirhuta", "tirh", tirhuta),
   ("toto", "toto", toto),
   ("ugaritic", "ugar", ugaritic),
   ("vai", "vaii", vai),
   ("vithkuqi", "vith", vithkuqi),
   ("wancho", "wcho", wancho),
   ("warangciti", "wara", warangCiti),
   ("yezidi", "yezi", yezidi),
   ("yi", "yiii", yi),
   ("zanabazarsquare", "zanb", zanabazarSquare)]

/-- The code points of the script with a normal name. -/
def find? (name : String) : Option CodePoints :=
  (named.find? fun (full, short, _) => full = name || short = name).map fun (_, _, table) => table

end ShapeLisp.Text.Script
