import ShapeLisp.Text.CodePoints

/-!
# Scripts from Pahawh Hmong on

The code points of each script.
-/

namespace ShapeLisp.Text.Script

/-- The script Pahawh Hmong. -/
def pahawhHmong : CodePoints :=
  [(0x16B00, 0x16B45), (0x16B50, 0x16B59), (0x16B5B, 0x16B61), (0x16B63, 0x16B77),
   (0x16B7D, 0x16B8F)]

/-- The script Palmyrene. -/
def palmyrene : CodePoints :=
  [(0x10860, 0x1087F)]

/-- The script Pau Cin Hau. -/
def pauCinHau : CodePoints :=
  [(0x11AC0, 0x11AF8)]

/-- The script Phags Pa. -/
def phagsPa : CodePoints :=
  [(0xA840, 0xA877)]

/-- The script Phoenician. -/
def phoenician : CodePoints :=
  [(0x10900, 0x1091B), (0x1091F, 0x1091F)]

/-- The script Psalter Pahlavi. -/
def psalterPahlavi : CodePoints :=
  [(0x10B80, 0x10B91), (0x10B99, 0x10B9C), (0x10BA9, 0x10BAF)]

/-- The script Rejang. -/
def rejang : CodePoints :=
  [(0xA930, 0xA953), (0xA95F, 0xA95F)]

/-- The script Runic. -/
def runic : CodePoints :=
  [(0x16A0, 0x16EA), (0x16EE, 0x16F8)]

/-- The script Samaritan. -/
def samaritan : CodePoints :=
  [(0x0800, 0x082D), (0x0830, 0x083E)]

/-- The script Saurashtra. -/
def saurashtra : CodePoints :=
  [(0xA880, 0xA8C5), (0xA8CE, 0xA8D9)]

/-- The script Sharada. -/
def sharada : CodePoints :=
  [(0x11180, 0x111DF)]

/-- The script Shavian. -/
def shavian : CodePoints :=
  [(0x10450, 0x1047F)]

/-- The script Siddham. -/
def siddham : CodePoints :=
  [(0x11580, 0x115B5), (0x115B8, 0x115DD)]

/-- The script SignWriting. -/
def signWriting : CodePoints :=
  [(0x1D800, 0x1DA8B), (0x1DA9B, 0x1DA9F), (0x1DAA1, 0x1DAAF)]

/-- The script Sinhala. -/
def sinhala : CodePoints :=
  [(0x0D81, 0x0D83), (0x0D85, 0x0D96), (0x0D9A, 0x0DB1), (0x0DB3, 0x0DBB), (0x0DBD, 0x0DBD),
   (0x0DC0, 0x0DC6), (0x0DCA, 0x0DCA), (0x0DCF, 0x0DD4), (0x0DD6, 0x0DD6), (0x0DD8, 0x0DDF),
   (0x0DE6, 0x0DEF), (0x0DF2, 0x0DF4), (0x111E1, 0x111F4)]

/-- The script Sogdian. -/
def sogdian : CodePoints :=
  [(0x10F30, 0x10F59)]

/-- The script Sora Sompeng. -/
def soraSompeng : CodePoints :=
  [(0x110D0, 0x110E8), (0x110F0, 0x110F9)]

/-- The script Soyombo. -/
def soyombo : CodePoints :=
  [(0x11A50, 0x11AA2)]

/-- The script Sundanese. -/
def sundanese : CodePoints :=
  [(0x1B80, 0x1BBF), (0x1CC0, 0x1CC7)]

/-- The script Syloti Nagri. -/
def sylotiNagri : CodePoints :=
  [(0xA800, 0xA82C)]

/-- The script Syriac. -/
def syriac : CodePoints :=
  [(0x0700, 0x070D), (0x070F, 0x074A), (0x074D, 0x074F), (0x0860, 0x086A)]

/-- The script Tagalog. -/
def tagalog : CodePoints :=
  [(0x1700, 0x1715), (0x171F, 0x171F)]

/-- The script Tagbanwa. -/
def tagbanwa : CodePoints :=
  [(0x1760, 0x176C), (0x176E, 0x1770), (0x1772, 0x1773)]

/-- The script Tai Le. -/
def taiLe : CodePoints :=
  [(0x1950, 0x196D), (0x1970, 0x1974)]

/-- The script Tai Tham. -/
def taiTham : CodePoints :=
  [(0x1A20, 0x1A5E), (0x1A60, 0x1A7C), (0x1A7F, 0x1A89), (0x1A90, 0x1A99), (0x1AA0, 0x1AAD)]

/-- The script Tai Viet. -/
def taiViet : CodePoints :=
  [(0xAA80, 0xAAC2), (0xAADB, 0xAADF)]

/-- The script Takri. -/
def takri : CodePoints :=
  [(0x11680, 0x116B9), (0x116C0, 0x116C9)]

/-- The script Tamil. -/
def tamil : CodePoints :=
  [(0x0B82, 0x0B83), (0x0B85, 0x0B8A), (0x0B8E, 0x0B90), (0x0B92, 0x0B95), (0x0B99, 0x0B9A),
   (0x0B9C, 0x0B9C), (0x0B9E, 0x0B9F), (0x0BA3, 0x0BA4), (0x0BA8, 0x0BAA), (0x0BAE, 0x0BB9),
   (0x0BBE, 0x0BC2), (0x0BC6, 0x0BC8), (0x0BCA, 0x0BCD), (0x0BD0, 0x0BD0), (0x0BD7, 0x0BD7),
   (0x0BE6, 0x0BFA), (0x11FC0, 0x11FF1), (0x11FFF, 0x11FFF)]

/-- The script Tangsa. -/
def tangsa : CodePoints :=
  [(0x16A70, 0x16ABE), (0x16AC0, 0x16AC9)]

/-- The script Tangut. -/
def tangut : CodePoints :=
  [(0x16FE0, 0x16FE0), (0x17000, 0x187F7), (0x18800, 0x18AFF), (0x18D00, 0x18D08)]

/-- The script Telugu. -/
def telugu : CodePoints :=
  [(0x0C00, 0x0C0C), (0x0C0E, 0x0C10), (0x0C12, 0x0C28), (0x0C2A, 0x0C39), (0x0C3C, 0x0C44),
   (0x0C46, 0x0C48), (0x0C4A, 0x0C4D), (0x0C55, 0x0C56), (0x0C58, 0x0C5A), (0x0C5D, 0x0C5D),
   (0x0C60, 0x0C63), (0x0C66, 0x0C6F), (0x0C77, 0x0C7F)]

/-- The script Thaana. -/
def thaana : CodePoints :=
  [(0x0780, 0x07B1)]

/-- The script Thai. -/
def thai : CodePoints :=
  [(0x0E01, 0x0E3A), (0x0E40, 0x0E5B)]

/-- The script Tibetan. -/
def tibetan : CodePoints :=
  [(0x0F00, 0x0F47), (0x0F49, 0x0F6C), (0x0F71, 0x0F97), (0x0F99, 0x0FBC), (0x0FBE, 0x0FCC),
   (0x0FCE, 0x0FD4), (0x0FD9, 0x0FDA)]

/-- The script Tifinagh. -/
def tifinagh : CodePoints :=
  [(0x2D30, 0x2D67), (0x2D6F, 0x2D70), (0x2D7F, 0x2D7F)]

/-- The script Tirhuta. -/
def tirhuta : CodePoints :=
  [(0x11480, 0x114C7), (0x114D0, 0x114D9)]

/-- The script Toto. -/
def toto : CodePoints :=
  [(0x1E290, 0x1E2AE)]

/-- The script Ugaritic. -/
def ugaritic : CodePoints :=
  [(0x10380, 0x1039D), (0x1039F, 0x1039F)]

/-- The script Vai. -/
def vai : CodePoints :=
  [(0xA500, 0xA62B)]

/-- The script Vithkuqi. -/
def vithkuqi : CodePoints :=
  [(0x10570, 0x1057A), (0x1057C, 0x1058A), (0x1058C, 0x10592), (0x10594, 0x10595),
   (0x10597, 0x105A1), (0x105A3, 0x105B1), (0x105B3, 0x105B9), (0x105BB, 0x105BC)]

/-- The script Wancho. -/
def wancho : CodePoints :=
  [(0x1E2C0, 0x1E2F9), (0x1E2FF, 0x1E2FF)]

/-- The script Warang Citi. -/
def warangCiti : CodePoints :=
  [(0x118A0, 0x118F2), (0x118FF, 0x118FF)]

/-- The script Yezidi. -/
def yezidi : CodePoints :=
  [(0x10E80, 0x10EA9), (0x10EAB, 0x10EAD), (0x10EB0, 0x10EB1)]

/-- The script Yi. -/
def yi : CodePoints :=
  [(0xA000, 0xA48C), (0xA490, 0xA4C6)]

/-- The script Zanabazar Square. -/
def zanabazarSquare : CodePoints :=
  [(0x11A00, 0x11A47)]

end ShapeLisp.Text.Script
