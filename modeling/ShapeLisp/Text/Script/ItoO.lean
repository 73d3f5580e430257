import ShapeLisp.Text.CodePoints

/-!
# Scripts from Imperial Aramaic to Oriya

The code points of each script.
-/

namespace ShapeLisp.Text.Script

/-- The script Imperial Aramaic. -/
def imperialAramaic : CodePoints :=
  [(0x10840, 0x10855), (0x10857, 0x1085F)]

/-- The script Inherited. -/
def inherited : CodePoints :=
  [(0x0300, 0x036F), (0x0485, 0x0486), (0x064B, 0x0655), (0x0670, 0x0670), (0x0951, 0x0954),
   (0x1AB0, 0x1ACE), (0x1CD0, 0x1CD2), (0x1CD4, 0x1CE0), (0x1CE2, 0x1CE8), (0x1CED, 0x1CED),
   (0x1CF4, 0x1CF4), (0x1CF8, 0x1CF9), (0x1DC0, 0x1DFF), (0x200C, 0x200D), (0x20D0, 0x20F0),
   (0x302A, 0x302D), (0x3099, 0x309A), (0xFE00, 0xFE0F), (0xFE20, 0xFE2D), (0x101FD, 0x101FD),
   (0x102E0, 0x102E0), (0x1133B, 0x1133B), (0x1CF00, 0x1CF2D), (0x1CF30, 0x1CF46),
   (0x1D167, 0x1D169), (0x1D17B, 0x1D182), (0x1D185, 0x1D18B), (0x1D1AA, 0x1D1AD),
   (0xE0100, 0xE01EF)]

/-- The script Inscriptional Pahlavi. -/
def inscriptionalPahlavi : CodePoints :=
  [(0x10B60, 0x10B72), (0x10B78, 0x10B7F)]

/-- The script Inscriptional Parthian. -/
def inscriptionalParthian : CodePoints :=
  [(0x10B40, 0x10B55), (0x10B58, 0x10B5F)]

/-- The script Javanese. -/
def javanese : CodePoints :=
  [(0xA980, 0xA9CD), (0xA9D0, 0xA9D9), (0xA9DE, 0xA9DF)]

/-- The script Kaithi. -/
def kaithi : CodePoints :=
  [(0x11080, 0x110C2), (0x110CD, 0x110CD)]

/-- The script Kannada. -/
def kannada : CodePoints :=
  [(0x0C80, 0x0C8C), (0x0C8E, 0x0C90), (0x0C92, 0x0CA8), (0x0CAA, 0x0CB3), (0x0CB5, 0x0CB9),
   (0x0CBC, 0x0CC4), (0x0CC6, 0x0CC8), (0x0CCA, 0x0CCD), (0x0CD5, 0x0CD6), (0x0CDD, 0x0CDE),
   (0x0CE0, 0x0CE3), (0x0CE6, 0x0CEF), (0x0CF1, 0x0CF3)]

/-- The script Katakana. -/
def katakana : CodePoints :=
  [(0x30A1, 0x30FA), (0x30FD, 0x30FF), (0x31F0, 0x31FF), (0x32D0, 0x32FE), (0x3300, 0x3357),
   (0xFF66, 0xFF6F), (0xFF71, 0xFF9D), (0x1AFF0, 0x1AFF3), (0x1AFF5, 0x1AFFB),
   (0x1AFFD, 0x1AFFE), (0x1B000, 0x1B000), (0x1B120, 0x1B122), (0x1B155, 0x1B155),
   (0x1B164, 0x1B167)]

/-- The script Kawi. -/
def kawi : CodePoints :=
  [(0x11F00, 0x11F10), (0x11F12, 0x11F3A), (0x11F3E, 0x11F59)]

/-- The script Kayah Li. -/
def kayahLi : CodePoints :=
  [(0xA900, 0xA92D), (0xA92F, 0xA92F)]

/-- The script Kharoshthi. -/
def kharoshthi : CodePoints :=
  [(0x10A00, 0x10A03), (0x10A05, 0x10A06), (0x10A0C, 0x10A13), (0x10A15, 0x10A17),
   (0x10A19, 0x10A35), (0x10A38, 0x10A3A), (0x10A3F, 0x10A48), (0x10A50, 0x10A58)]

/-- The script Khitan Small Script. -/
def khitanSmallScript : CodePoints :=
  [(0x16FE4, 0x16FE4), (0x18B00, 0x18CD5)]

/-- The script Khmer. -/
def khmer : CodePoints :=
  [(0x1780, 0x17DD), (0x17E0, 0x17E9), (0x17F0, 0x17F9), (0x19E0, 0x19FF)]

/-- The script Khojki. -/
def khojki : CodePoints :=
  [(0x11200, 0x11211), (0x11213, 0x11241)]

/-- The script Khudawadi. -/
def khudawadi : CodePoints :=
  [(0x112B0, 0x112EA), (0x112F0, 0x112F9)]

/-- The script Lao. -/
def lao : CodePoints :=
  [(0x0E81, 0x0E82), (0x0E84, 0x0E84), (0x0E86, 0x0E8A), (0x0E8C, 0x0EA3), (0x0EA5, 0x0EA5),
   (0x0EA7, 0x0EBD), (0x0EC0, 0x0EC4), (0x0EC6, 0x0EC6), (0x0EC8, 0x0ECE), (0x0ED0, 0x0ED9),
   (0x0EDC, 0x0EDF)]

/-- The script Latin. -/
def latin : CodePoints :=
  [(0x0041, 0x005A), (0x0061, 0x007A), (0x00AA, 0x00AA), (0x00BA, 0x00BA), (0x00C0, 0x00D6),
   (0x00D8, 0x00F6), (0x00F8, 0x02B8), (0x02E0, 0x02E4), (0x1D00, 0x1D25), (0x1D2C, 0x1D5C),
   (0x1D62, 0x1D65), (0x1D6B, 0x1D77), (0x1D79, 0x1DBE), (0x1E00, 0x1EFF), (0x2071, 0x2071),
   (0x207F, 0x207F), (0x2090, 0x209C), (0x212A, 0x212B), (0x2132, 0x2132), (0x214E, 0x214E),
   (0x2160, 0x2188), (0x2C60, 0x2C7F), (0xA722, 0xA787), (0xA78B, 0xA7CA), (0xA7D0, 0xA7D1),
   (0xA7D3, 0xA7D3), (0xA7D5, 0xA7D9), (0xA7F2, 0xA7FF), (0xAB30, 0xAB5A), (0xAB5C, 0xAB64),
   (0xAB66, 0xAB69), (0xFB00, 0xFB06), (0xFF21, 0xFF3A), (0xFF41, 0xFF5A), (0x10780, 0x10785),
   (0x10787, 0x107B0), (0x107B2, 0x107BA), (0x1DF00, 0x1DF1E), (0x1DF25, 0x1DF2A)]

/-- The script Lepcha. -/
def lepcha : CodePoints :=
  [(0x1C00, 0x1C37), (0x1C3B, 0x1C49), (0x1C4D, 0x1C4F)]

/-- The script Limbu. -/
def limbu : CodePoints :=
  [(0x1900, 0x191E), (0x1920, 0x192B), (0x1930, 0x193B), (0x1940, 0x1940), (0x1944, 0x194F)]

/-- The script Linear A. -/
def linearA : CodePoints :=
  [(0x10600, 0x10736), (0x10740, 0x10755), (0x10760, 0x10767)]

/-- The script Linear B. -/
def linearB : CodePoints :=
  [(0x10000, 0x1000B), (0x1000D, 0x10026), (0x10028, 0x1003A), (0x1003C, 0x1003D),
   (0x1003F, 0x1004D), (0x10050, 0x1005D), (0x10080, 0x100FA)]

/-- The script Lisu. -/
def lisu : CodePoints :=
  [(0xA4D0, 0xA4FF), (0x11FB0, 0x11FB0)]

/-- The script Lycian. -/
def lycian : CodePoints :=
  [(0x10280, 0x1029C)]

/-- The script Lydian. -/
def lydian : CodePoints :=
  [(0x10920, 0x10939), (0x1093F, 0x1093F)]

/-- The script Mahajani. -/
def mahajani : CodePoints :=
  [(0x11150, 0x11176)]

/-- The script Makasar. -/
def makasar : CodePoints :=
  [(0x11EE0, 0x11EF8)]

/-- The script Malayalam. -/
def malayalam : CodePoints :=
  [(0x0D00, 0x0D0C), (0x0D0E, 0x0D10), (0x0D12, 0x0D44), (0x0D46, 0x0D48), (0x0D4A, 0x0D4F),
   (0x0D54, 0x0D63), (0x0D66, 0x0D7F)]

/-- The script Mandaic. -/
def mandaic : CodePoints :=
  [(0x0840, 0x085B), (0x085E, 0x085E)]

/-- The script Manichaean. -/
def manichaean : CodePoints :=
  [(0x10AC0, 0x10AE6), (0x10AEB, 0x10AF6)]

/-- The script Marchen. -/
def marchen : CodePoints :=
  [(0x11C70, 0x11C8F), (0x11C92, 0x11CA7), (0x11CA9, 0x11CB6)]

/-- The script Masaram Gondi. -/
def masaramGondi : CodePoints :=
  [(0x11D00, 0x11D06), (0x11D08, 0x11D09), (0x11D0B, 0x11D36), (0x11D3A, 0x11D3A),
   (0x11D3C, 0x11D3D), (0x11D3F, 0x11D47), (0x11D50, 0x11D59)]

/-- The script Medefaidrin. -/
def medefaidrin : CodePoints :=
  [(0x16E40, 0x16E9A)]

/-- The script Meetei Mayek. -/
def meeteiMayek : CodePoints :=
  [(0xAAE0, 0xAAF6), (0xABC0, 0xABED), (0xABF0, 0xABF9)]

/-- The script Mende Kikakui. -/
def mendeKikakui : CodePoints :=
  [(0x1E800, 0x1E8C4), (0x1E8C7, 0x1E8D6)]

/-- The script Meroitic Cursive. -/
def meroiticCursive : CodePoints :=
  [(0x109A0, 0x109B7), (0x109BC, 0x109CF), (0x109D2, 0x109FF)]

/-- The script Meroitic Hieroglyphs. -/
def meroiticHieroglyphs : CodePoints :=
  [(0x10980, 0x1099F)]

/-- The script Miao. -/
def miao : CodePoints :=
  [(0x16F00, 0x16F4A), (0x16F4F, 0x16F87), (0x16F8F, 0x16F9F)]

/-- The script Modi. -/
def modi : CodePoints :=
  [(0x11600, 0x11644), (0x11650, 0x11659)]

/-- The script Mongolian. -/
def mongolian : CodePoints :=
  [(0x1800, 0x1801), (0x1804, 0x1804), (0x1806, 0x1819), (0x1820, 0x1878), (0x1880, 0x18AA),
   (0x11660, 0x1166C)]

/-- The script Mro. -/
def mro : CodePoints :=
  [(0x16A40, 0x16A5E), (0x16A60, 0x16A69), (0x16A6E, 0x16A6F)]

/-- The script Multani. -/
def multani : CodePoints :=
  [(0x11280, 0x11286), (0x11288, 0x11288), (0x1128A, 0x1128D), (0x1128F, 0x1129D),
   (0x1129F, 0x112A9)]

/-- The script Myanmar. -/
def myanmar : CodePoints :=
  [(0x1000, 0x109F), (0xA9E0, 0xA9FE), (0xAA60, 0xAA7F)]

/-- The script Nabataean. -/
def nabataean : CodePoints :=
  [(0x10880, 0x1089E), (0x108A7, 0x108AF)]

/-- The script Nag Mundari. -/
def nagMundari : CodePoints :=
  [(0x1E4D0, 0x1E4F9)]

/-- The script Nandinagari. -/
def nandinagari : CodePoints :=
  [(0x119A0, 0x119A7), (0x119AA, 0x119D7), (0x119DA, 0x119E4)]

/-- The script New Tai Lue. -/
def newTaiLue : CodePoints :=
  [(0x1980, 0x19AB), (0x19B0, 0x19C9), (0x19D0, 0x19DA), (0x19DE, 0x19DF)]

/-- The script Newa. -/
def newa : CodePoints :=
  [(0x11400, 0x1145B), (0x1145D, 0x11461)]

/-- The script Nko. -/
def nko : CodePoints :=
  [(0x07C0, 0x07FA), (0x07FD, 0x07FF)]

/-- The script Nushu. -/
def nushu : CodePoints :=
  [(0x16FE1, 0x16FE1), (0x1B170, 0x1B2FB)]

/-- The script Nyiakeng Puachue Hmong. -/
def nyiakengPuachueHmong : CodePoints :=
  [(0x1E100, 0x1E12C), (0x1E130, 0x1E13D), (0x1E140, 0x1E149), (0x1E14E, 0x1E14F)]

/-- The script Ogham. -/
def ogham : CodePoints :=
  [(0x1680, 0x169C)]

/-- The script Ol Chiki. -/
def olChiki : CodePoints :=
  [(0x1C50, 0x1C7F)]

/-- The script Old Hungarian. -/
def oldHungarian : CodePoints :=
  [(0x10C80, 0x10CB2), (0x10CC0, 0x10CF2), (0x10CFA, 0x10CFF)]

/-- The script Old Italic. -/
def oldItalic : CodePoints :=
  [(0x10300, 0x10323), (0x1032D, 0x1032F)]

/-- The script Old North Arabian. -/
def oldNorthArabian : CodePoints :=
  [(0x10A80, 0x10A9F)]

/-- The script Old Permic. -/
def oldPermic : CodePoints :=
  [(0x10350, 0x1037A)]

/-- The script Old Persian. -/
def oldPersian : CodePoints :=
  [(0x103A0, 0x103C3), (0x103C8, 0x103D5)]

/-- The script Old Sogdian. -/
def oldSogdian : CodePoints :=
  [(0x10F00, 0x10F27)]

/-- The script Old South Arabian. -/
def oldSouthArabian : CodePoints :=
  [(0x10A60, 0x10A7F)]

/-- The script Old Turkic. -/
def oldTurkic : CodePoints :=
  [(0x10C00, 0x10C48)]

/-- The script Old Uyghur. -/
def oldUyghur : CodePoints :=
  [(0x10F70, 0x10F89)]

/-- The script Oriya. -/
def oriya : CodePoints :=
  [(0x0B01, 0x0B03), (0x0B05, 0x0B0C), (0x0B0F, 0x0B10), (0x0B13, 0x0B28), (0x0B2A, 0x0B30),
   (0x0B32, 0x0B33), (0x0B35, 0x0B39), (0x0B3C, 0x0B44), (0x0B47, 0x0B48), (0x0B4B, 0x0B4D),
   (0x0B55, 0x0B57), (0x0B5C, 0x0B5D), (0x0B5F, 0x0B63), (0x0B66, 0x0B77)]

/-- The script Osage. -/
def osage : CodePoints :=
  [(0x104B0, 0x104D3), (0x104D8, 0x104FB)]

/-- The script Osmanya. -/
def osmanya : CodePoints :=
  [(0x10480, 0x1049D), (0x104A0, 0x104A9)]

end ShapeLisp.Text.Script
