import ToolGateway.Unicode.Ranges

/-!
# Characters that fold

A character folds if another text stands for it where capitals, widths and other variants of
writing do not matter: capitals, ligatures, full-width forms, words in a square. Characters that may
be left out fold to nothing. The capitals of ASCII are not among them.

The tables are those of Unicode 17.
-/

namespace ToolGateway.Unicode

/-- Ranges of characters that may be left out. -/
def leftOut : Ranges :=
  [(0xAD, 0xAD), (0x34F, 0x34F), (0x115F, 0x1160), (0x17B4, 0x17B5), (0x180B, 0x180F),
   (0x200B, 0x200B), (0x2060, 0x2064), (0x206A, 0x206F), (0x3164, 0x3164), (0xFE00, 0xFE0F),
   (0xFEFF, 0xFEFF), (0xFFA0, 0xFFA0), (0x1BCA0, 0x1BCA3), (0x1D173, 0x1D17A), (0xE0100, 0xE01EF)]

/-- Ranges of capitals that alternate with their small letters. -/
def alternating : Ranges :=
  [(0x100, 0x12E), (0x134, 0x136), (0x139, 0x13D), (0x141, 0x147), (0x14A, 0x176), (0x179, 0x17D),
   (0x182, 0x184), (0x1A0, 0x1A4), (0x1B3, 0x1B5), (0x1CD, 0x1DB), (0x1DE, 0x1EE), (0x1F8, 0x21E),
   (0x222, 0x232), (0x246, 0x24E), (0x370, 0x372), (0x3D8, 0x3EE), (0x460, 0x480), (0x48A, 0x4BE),
   (0x4C1, 0x4CD), (0x4D0, 0x52E), (0x1E00, 0x1E94), (0x1EA0, 0x1EFE), (0x2C67, 0x2C6B),
   (0x2C80, 0x2CE2), (0x2CEB, 0x2CED), (0xA640, 0xA66C), (0xA680, 0xA69A), (0xA722, 0xA72E),
   (0xA732, 0xA76E), (0xA779, 0xA77B), (0xA77E, 0xA786), (0xA790, 0xA792), (0xA796, 0xA7A8),
   (0xA7B4, 0xA7C2), (0xA7C7, 0xA7C9), (0xA7CC, 0xA7DA)]

/-- Ranges of characters of the basic plane that fold to others in the same order, with the
character to which the first one folds. -/
def shiftedFirst : List (Nat × Nat × Nat) :=
  [(0xC0, 0xD6, 0xE0), (0xD8, 0xDE, 0xF8), (0x391, 0x3A1, 0x3B1), (0x3A3, 0x3AB, 0x3C3),
   (0x400, 0x40F, 0x450), (0x410, 0x42F, 0x430), (0x531, 0x556, 0x561), (0x10A0, 0x10C5, 0x2D00),
   (0x13F8, 0x13FD, 0x13F0), (0x1C90, 0x1CBA, 0x10D0), (0x1D33, 0x1D3A, 0x67),
   (0x1DAE, 0x1DB1, 0x272), (0x1F08, 0x1F0F, 0x1F00), (0x1F18, 0x1F1D, 0x1F10),
   (0x1F28, 0x1F2F, 0x1F20), (0x1F38, 0x1F3F, 0x1F30), (0x1F48, 0x1F4D, 0x1F40),
   (0x1F68, 0x1F6F, 0x1F60), (0x2074, 0x2079, 0x34), (0x2080, 0x2089, 0x30),
   (0x2096, 0x2099, 0x6B), (0x2135, 0x2138, 0x5D0), (0x2460, 0x2468, 0x31),
   (0x24B6, 0x24CF, 0x61), (0x24D0, 0x24E9, 0x61), (0x2C00, 0x2C2F, 0x2C30),
   (0x313A, 0x313F, 0x11B0), (0x3145, 0x314E, 0x1109), (0x314F, 0x3163, 0x1161),
   (0x3178, 0x317C, 0x112B), (0x3269, 0x326D, 0x110E), (0x32E4, 0x32E9, 0x30CA),
   (0x32EE, 0x32F2, 0x30DE), (0x32F5, 0x32FA, 0x30E8), (0x32FB, 0x32FE, 0x30EF),
   (0xAB70, 0xABBF, 0x13A0), (0xFE41, 0xFE44, 0x300C), (0xFF01, 0xFF20, 0x21),
   (0xFF21, 0xFF3A, 0x61), (0xFF3B, 0xFF5E, 0x5B), (0xFF85, 0xFF8A, 0x30CA),
   (0xFF8F, 0xFF93, 0x30DE), (0xFF96, 0xFF9B, 0x30E8), (0xFFAA, 0xFFAF, 0x11B0),
   (0xFFB5, 0xFFBE, 0x1109), (0xFFC2, 0xFFC7, 0x1161), (0xFFCA, 0xFFCF, 0x1167),
   (0xFFD2, 0xFFD7, 0x116D), (0xFFE9, 0xFFEC, 0x2190)]

/-- Such ranges in the further planes. -/
def shiftedBeyond : List (Nat × Nat × Nat) :=
  [(0x10400, 0x10427, 0x10428), (0x104B0, 0x104D3, 0x104D8), (0x10570, 0x1057A, 0x10597),
   (0x1057C, 0x1058A, 0x105A3), (0x1058C, 0x10592, 0x105B3), (0x10C80, 0x10CB2, 0x10CC0),
   (0x10D50, 0x10D65, 0x10D70), (0x118A0, 0x118BF, 0x118C0), (0x16E40, 0x16E5F, 0x16E60),
   (0x16EA0, 0x16EB8, 0x16EBB), (0x1CCD6, 0x1CCEF, 0x61), (0x1CCF0, 0x1CCF9, 0x30),
   (0x1D400, 0x1D419, 0x61), (0x1D41A, 0x1D433, 0x61), (0x1D434, 0x1D44D, 0x61),
   (0x1D44E, 0x1D454, 0x61), (0x1D456, 0x1D467, 0x69), (0x1D468, 0x1D481, 0x61),
   (0x1D482, 0x1D49B, 0x61), (0x1D4A9, 0x1D4AC, 0x6E), (0x1D4AE, 0x1D4B5, 0x73),
   (0x1D4B6, 0x1D4B9, 0x61), (0x1D4BD, 0x1D4C3, 0x68), (0x1D4C5, 0x1D4CF, 0x70),
   (0x1D4D0, 0x1D4E9, 0x61), (0x1D4EA, 0x1D503, 0x61), (0x1D507, 0x1D50A, 0x64),
   (0x1D50D, 0x1D514, 0x6A), (0x1D516, 0x1D51C, 0x73), (0x1D51E, 0x1D537, 0x61),
   (0x1D53B, 0x1D53E, 0x64), (0x1D540, 0x1D544, 0x69), (0x1D54A, 0x1D550, 0x73),
   (0x1D552, 0x1D56B, 0x61), (0x1D56C, 0x1D585, 0x61), (0x1D586, 0x1D59F, 0x61),
   (0x1D5A0, 0x1D5B9, 0x61), (0x1D5BA, 0x1D5D3, 0x61), (0x1D5D4, 0x1D5ED, 0x61),
   (0x1D5EE, 0x1D607, 0x61), (0x1D608, 0x1D621, 0x61), (0x1D622, 0x1D63B, 0x61),
   (0x1D63C, 0x1D655, 0x61), (0x1D656, 0x1D66F, 0x61), (0x1D670, 0x1D689, 0x61),
   (0x1D68A, 0x1D6A3, 0x61), (0x1D6A8, 0x1D6B8, 0x3B1), (0x1D6BA, 0x1D6C0, 0x3C3),
   (0x1D6C2, 0x1D6D2, 0x3B1), (0x1D6D4, 0x1D6DA, 0x3C3), (0x1D6E2, 0x1D6F2, 0x3B1),
   (0x1D6F4, 0x1D6FA, 0x3C3), (0x1D6FC, 0x1D70C, 0x3B1), (0x1D70E, 0x1D714, 0x3C3),
   (0x1D71C, 0x1D72C, 0x3B1), (0x1D72E, 0x1D734, 0x3C3), (0x1D736, 0x1D746, 0x3B1),
   (0x1D748, 0x1D74E, 0x3C3), (0x1D756, 0x1D766, 0x3B1), (0x1D768, 0x1D76E, 0x3C3),
   (0x1D770, 0x1D780, 0x3B1), (0x1D782, 0x1D788, 0x3C3), (0x1D790, 0x1D7A0, 0x3B1),
   (0x1D7A2, 0x1D7A8, 0x3C3), (0x1D7AA, 0x1D7BA, 0x3B1), (0x1D7BC, 0x1D7C2, 0x3C3),
   (0x1D7CE, 0x1D7D7, 0x30), (0x1D7D8, 0x1D7E1, 0x30), (0x1D7E2, 0x1D7EB, 0x30),
   (0x1D7EC, 0x1D7F5, 0x30), (0x1D7F6, 0x1D7FF, 0x30), (0x1E030, 0x1E038, 0x430),
   (0x1E03C, 0x1E046, 0x43E), (0x1E051, 0x1E059, 0x430), (0x1E05F, 0x1E064, 0x443),
   (0x1E900, 0x1E921, 0x1E922), (0x1EE0A, 0x1EE0D, 0x643), (0x1EE2A, 0x1EE2D, 0x643),
   (0x1F130, 0x1F149, 0x61), (0x1FBF0, 0x1FBF9, 0x30)]

/-- A row of characters that fold to texts of one length. -/
structure Spelling where
  /-- The first of the characters. -/
  first : Nat
  /-- How many characters each of them folds to. -/
  width : Nat
  /-- The texts to which they fold, one behind the other. -/
  texts : String
  deriving DecidableEq, Repr

/-- Characters below 0x2000 that fold to others in no order, or to more than one. -/
def spelledFirst : List Spelling :=
  [⟨0xA0, 1, " "⟩, ⟨0xA8, 2, " \u0308"⟩, ⟨0xAA, 1, "a"⟩, ⟨0xAF, 2, " \u0304"⟩, ⟨0xB2, 1, "23"⟩,
   ⟨0xB4, 2, " \u0301"⟩, ⟨0xB5, 1, "μ"⟩, ⟨0xB8, 2, " \u0327"⟩, ⟨0xB9, 1, "1o"⟩,
   ⟨0xBC, 3, "1⁄41⁄23⁄4"⟩, ⟨0x130, 2, "i\u0307"⟩, ⟨0x132, 2, "ijij"⟩, ⟨0x13F, 2, "l·l·"⟩,
   ⟨0x149, 2, "ʼn"⟩, ⟨0x178, 1, "ÿ"⟩, ⟨0x17F, 1, "s"⟩, ⟨0x181, 1, "ɓ"⟩, ⟨0x186, 1, "ɔƈ"⟩,
   ⟨0x189, 1, "ɖɗƌ"⟩, ⟨0x18E, 1, "ǝəɛƒ"⟩, ⟨0x193, 1, "ɠɣ"⟩, ⟨0x196, 1, "ɩɨƙ"⟩, ⟨0x19C, 1, "ɯɲ"⟩,
   ⟨0x19F, 1, "ɵ"⟩, ⟨0x1A6, 1, "ʀƨ"⟩, ⟨0x1A9, 1, "ʃ"⟩, ⟨0x1AC, 1, "ƭ"⟩, ⟨0x1AE, 1, "ʈư"⟩,
   ⟨0x1B1, 1, "ʊʋ"⟩, ⟨0x1B7, 1, "ʒƹ"⟩, ⟨0x1BC, 1, "ƽ"⟩, ⟨0x1C4, 2, "dždždžljljljnjnjnj"⟩,
   ⟨0x1F1, 2, "dzdzdz"⟩, ⟨0x1F4, 1, "ǵ"⟩, ⟨0x1F6, 1, "ƕƿ"⟩, ⟨0x220, 1, "ƞ"⟩, ⟨0x23A, 1, "ⱥȼ"⟩,
   ⟨0x23D, 1, "ƚⱦ"⟩, ⟨0x241, 1, "ɂ"⟩, ⟨0x243, 1, "ƀʉʌ"⟩, ⟨0x2B0, 1, "hɦjrɹɻʁwy"⟩,
   ⟨0x2D8, 2, " \u0306 \u0307 \u030A \u0328 \u0303 \u030B"⟩, ⟨0x2E0, 1, "ɣlsxʕ"⟩,
   ⟨0x340, 1, "\u0300\u0301"⟩, ⟨0x343, 1, "\u0313"⟩, ⟨0x344, 2, "\u0308\u0301"⟩, ⟨0x345, 1, "ι"⟩,
   ⟨0x374, 1, "ʹ"⟩, ⟨0x376, 1, "ͷ"⟩, ⟨0x37A, 2, " ι"⟩, ⟨0x37E, 1, ";ϳ"⟩, ⟨0x384, 2, " \u0301"⟩,
   ⟨0x385, 3, " \u0308\u0301"⟩, ⟨0x386, 1, "ά·έήί"⟩, ⟨0x38C, 1, "ό"⟩, ⟨0x38E, 1, "ύώ"⟩,
   ⟨0x3CF, 1, "ϗβθυύϋφπ"⟩, ⟨0x3F0, 1, "κρσ"⟩, ⟨0x3F4, 1, "θε"⟩, ⟨0x3F7, 1, "ϸ"⟩, ⟨0x3F9, 1, "σϻ"⟩,
   ⟨0x3FD, 1, "ͻͼͽ"⟩, ⟨0x4C0, 1, "ӏ"⟩, ⟨0x587, 2, "եւ"⟩,
   ⟨0x675, 2, "\u0627\u0674\u0648\u0674\u06C7\u0674\u064A\u0674"⟩,
   ⟨0x958, 2, "क\u093Cख\u093Cग\u093Cज\u093Cड\u093Cढ\u093Cफ\u093Cय\u093C"⟩,
   ⟨0x9DC, 2, "ড\u09BCঢ\u09BC"⟩, ⟨0x9DF, 2, "য\u09BC"⟩, ⟨0xA33, 2, "ਲ\u0A3C"⟩,
   ⟨0xA36, 2, "ਸ\u0A3C"⟩, ⟨0xA59, 2, "ਖ\u0A3Cਗ\u0A3Cਜ\u0A3C"⟩, ⟨0xA5E, 2, "ਫ\u0A3C"⟩,
   ⟨0xB5C, 2, "ଡ\u0B3Cଢ\u0B3C"⟩, ⟨0xE33, 2, "\u0E4Dา"⟩, ⟨0xEB3, 2, "\u0ECDາ"⟩, ⟨0xEDC, 2, "ຫນຫມ"⟩,
   ⟨0xF0C, 1, "་"⟩, ⟨0xF43, 2, "ག\u0FB7"⟩, ⟨0xF4D, 2, "ཌ\u0FB7"⟩, ⟨0xF52, 2, "ད\u0FB7"⟩,
   ⟨0xF57, 2, "བ\u0FB7"⟩, ⟨0xF5C, 2, "ཛ\u0FB7"⟩, ⟨0xF69, 2, "ཀ\u0FB5"⟩,
   ⟨0xF73, 2, "\u0F71\u0F72"⟩, ⟨0xF75, 2, "\u0F71\u0F74\u0FB2\u0F80"⟩,
   ⟨0xF77, 3, "\u0FB2\u0F71\u0F80"⟩, ⟨0xF78, 2, "\u0FB3\u0F80"⟩, ⟨0xF79, 3, "\u0FB3\u0F71\u0F80"⟩,
   ⟨0xF81, 2, "\u0F71\u0F80"⟩, ⟨0xF93, 2, "\u0F92\u0FB7"⟩, ⟨0xF9D, 2, "\u0F9C\u0FB7"⟩,
   ⟨0xFA2, 2, "\u0FA1\u0FB7"⟩, ⟨0xFA7, 2, "\u0FA6\u0FB7"⟩, ⟨0xFAC, 2, "\u0FAB\u0FB7"⟩,
   ⟨0xFB9, 2, "\u0F90\u0FB5"⟩, ⟨0x10C7, 1, "ⴧ"⟩, ⟨0x10CD, 1, "ⴭ"⟩, ⟨0x10FC, 1, "ნ"⟩,
   ⟨0x1C80, 1, "вдосттъѣꙋ\u1C8A"⟩, ⟨0x1CBD, 1, "ჽჾჿ"⟩, ⟨0x1D2C, 1, "aæb"⟩, ⟨0x1D30, 1, "deǝ"⟩,
   ⟨0x1D3C, 1, "oȣprtuwaɐɑᴂbdeəɛɜg"⟩, ⟨0x1D4F, 1, "kmŋoɔᴖᴗptuᴝɯvᴥβγδφχiruvβγρφχ"⟩,
   ⟨0x1D78, 1, "н"⟩, ⟨0x1D9B, 1, "ɒcɕðɜfɟɡɥɨɩɪᵻʝɭᶅʟɱɰ"⟩, ⟨0x1DB2, 1, "ɸʂʃƫʉʊᴜʋʌzʐʑʒθ"⟩,
   ⟨0x1E9A, 2, "aʾ"⟩, ⟨0x1E9B, 1, "ṡ"⟩, ⟨0x1E9E, 1, "ß"⟩, ⟨0x1F59, 1, "ὑ"⟩, ⟨0x1F5B, 1, "ὓ"⟩,
   ⟨0x1F5D, 1, "ὕ"⟩, ⟨0x1F5F, 1, "ὗ"⟩, ⟨0x1F71, 1, "ά"⟩, ⟨0x1F73, 1, "έ"⟩, ⟨0x1F75, 1, "ή"⟩,
   ⟨0x1F77, 1, "ί"⟩, ⟨0x1F79, 1, "ό"⟩, ⟨0x1F7B, 1, "ύ"⟩, ⟨0x1F7D, 1, "ώ"⟩,
   ⟨0x1F80, 2, "ἀιἁιἂιἃιἄιἅιἆιἇιἀιἁιἂιἃιἄιἅιἆιἇιἠιἡιἢιἣιἤιἥιἦιἧιἠιἡιἢιἣιἤιἥιἦιἧιὠιὡιὢιὣιὤιὥιὦι"⟩,
   ⟨0x1FA7, 2, "ὧιὠιὡιὢιὣιὤιὥιὦιὧι"⟩, ⟨0x1FB2, 2, "ὰιαιάι"⟩, ⟨0x1FB7, 2, "ᾶι"⟩,
   ⟨0x1FB8, 1, "ᾰᾱὰά"⟩, ⟨0x1FBC, 2, "αι \u0313"⟩, ⟨0x1FBE, 1, "ι"⟩, ⟨0x1FBF, 2, " \u0313 \u0342"⟩,
   ⟨0x1FC1, 3, " \u0308\u0342"⟩, ⟨0x1FC2, 2, "ὴιηιήι"⟩, ⟨0x1FC7, 2, "ῆι"⟩, ⟨0x1FC8, 1, "ὲέὴή"⟩,
   ⟨0x1FCC, 2, "ηι"⟩, ⟨0x1FCD, 3, " \u0313\u0300 \u0313\u0301 \u0313\u0342"⟩, ⟨0x1FD3, 1, "ΐ"⟩,
   ⟨0x1FD8, 1, "ῐῑὶί"⟩, ⟨0x1FDD, 3, " \u0314\u0300 \u0314\u0301 \u0314\u0342"⟩, ⟨0x1FE3, 1, "ΰ"⟩,
   ⟨0x1FE8, 1, "ῠῡὺύῥ"⟩, ⟨0x1FED, 3, " \u0308\u0300 \u0308\u0301"⟩, ⟨0x1FEF, 1, "`"⟩,
   ⟨0x1FF2, 2, "ὼιωιώι"⟩, ⟨0x1FF7, 2, "ῶι"⟩, ⟨0x1FF8, 1, "ὸόὼώ"⟩, ⟨0x1FFC, 2, "ωι \u0301 \u0314"⟩]

/-- Such characters from 0x2000 on, most of them signs. -/
def spelledSigns : List Spelling :=
  [⟨0x2000, 1, "           "⟩, ⟨0x2011, 1, "‐"⟩, ⟨0x2017, 2, " \u0333"⟩, ⟨0x202F, 1, " "⟩,
   ⟨0x2033, 2, "′′"⟩, ⟨0x2034, 3, "′′′"⟩, ⟨0x2036, 2, "‵‵"⟩, ⟨0x2037, 3, "‵‵‵"⟩,
   ⟨0x203C, 2, "!!"⟩, ⟨0x203E, 2, " \u0305"⟩, ⟨0x2047, 2, "???!!?"⟩, ⟨0x2057, 4, "′′′′"⟩,
   ⟨0x205F, 1, " "⟩, ⟨0x2070, 1, "0i"⟩, ⟨0x207A, 1, "+−=()n"⟩, ⟨0x208A, 1, "+−=()"⟩,
   ⟨0x2090, 1, "aeoxəh"⟩, ⟨0x209A, 1, "pst"⟩, ⟨0x20A8, 2, "rs"⟩, ⟨0x2100, 3, "a/ca/s"⟩,
   ⟨0x2102, 1, "c"⟩, ⟨0x2103, 2, "°c"⟩, ⟨0x2105, 3, "c/oc/u"⟩, ⟨0x2107, 1, "ɛ"⟩,
   ⟨0x2109, 2, "°f"⟩, ⟨0x210A, 1, "ghhhhħiill"⟩, ⟨0x2115, 1, "n"⟩, ⟨0x2116, 2, "no"⟩,
   ⟨0x2119, 1, "pqrrr"⟩, ⟨0x2120, 2, "sm"⟩, ⟨0x2121, 3, "tel"⟩, ⟨0x2122, 2, "tm"⟩,
   ⟨0x2124, 1, "z"⟩, ⟨0x2126, 1, "ω"⟩, ⟨0x2128, 1, "z"⟩, ⟨0x212A, 1, "kåbc"⟩,
   ⟨0x212F, 1, "eefⅎmo"⟩, ⟨0x2139, 1, "i"⟩, ⟨0x213B, 3, "fax"⟩, ⟨0x213C, 1, "πγγπ∑"⟩,
   ⟨0x2145, 1, "ddeij"⟩, ⟨0x2150, 3, "1⁄71⁄9"⟩, ⟨0x2152, 4, "1⁄10"⟩,
   ⟨0x2153, 3, "1⁄32⁄31⁄52⁄53⁄54⁄51⁄65⁄61⁄83⁄85⁄87⁄8"⟩, ⟨0x215F, 2, "1⁄"⟩, ⟨0x2160, 1, "i"⟩,
   ⟨0x2161, 2, "ii"⟩, ⟨0x2162, 3, "iii"⟩, ⟨0x2163, 2, "iv"⟩, ⟨0x2164, 1, "v"⟩, ⟨0x2165, 2, "vi"⟩,
   ⟨0x2166, 3, "vii"⟩, ⟨0x2167, 4, "viii"⟩, ⟨0x2168, 2, "ix"⟩, ⟨0x2169, 1, "x"⟩,
   ⟨0x216A, 2, "xi"⟩, ⟨0x216B, 3, "xii"⟩, ⟨0x216C, 1, "lcdmi"⟩, ⟨0x2171, 2, "ii"⟩,
   ⟨0x2172, 3, "iii"⟩, ⟨0x2173, 2, "iv"⟩, ⟨0x2174, 1, "v"⟩, ⟨0x2175, 2, "vi"⟩, ⟨0x2176, 3, "vii"⟩,
   ⟨0x2177, 4, "viii"⟩, ⟨0x2178, 2, "ix"⟩, ⟨0x2179, 1, "x"⟩, ⟨0x217A, 2, "xi"⟩,
   ⟨0x217B, 3, "xii"⟩, ⟨0x217C, 1, "lcdm"⟩, ⟨0x2183, 1, "ↄ"⟩, ⟨0x2189, 3, "0⁄3"⟩,
   ⟨0x222C, 2, "∫∫"⟩, ⟨0x222D, 3, "∫∫∫"⟩, ⟨0x222F, 2, "∮∮"⟩, ⟨0x2230, 3, "∮∮∮"⟩,
   ⟨0x2329, 1, "〈〉"⟩, ⟨0x2469, 2, "1011121314151617181920"⟩,
   ⟨0x2474, 3, "(1)(2)(3)(4)(5)(6)(7)(8)(9)"⟩,
   ⟨0x247D, 4, "(10)(11)(12)(13)(14)(15)(16)(17)(18)(19)(20)"⟩,
   ⟨0x249C, 3, "(a)(b)(c)(d)(e)(f)(g)(h)(i)(j)(k)(l)(m)(n)(o)(p)(q)(r)(s)(t)(u)(v)(w)(x)(y)(z)"⟩,
   ⟨0x24EA, 1, "0"⟩, ⟨0x2A0C, 4, "∫∫∫∫"⟩, ⟨0x2A74, 3, "::="⟩, ⟨0x2A75, 2, "=="⟩,
   ⟨0x2A76, 3, "==="⟩, ⟨0x2ADC, 2, "⫝\u0338"⟩, ⟨0x2C60, 1, "ⱡ"⟩, ⟨0x2C62, 1, "ɫᵽɽ"⟩,
   ⟨0x2C6D, 1, "ɑɱɐɒ"⟩, ⟨0x2C72, 1, "ⱳ"⟩, ⟨0x2C75, 1, "ⱶ"⟩, ⟨0x2C7C, 1, "jvȿɀ"⟩, ⟨0x2CF2, 1, "ⳳ"⟩,
   ⟨0x2D6F, 1, "ⵡ"⟩, ⟨0x2E9F, 1, "母"⟩, ⟨0x2EF3, 1, "龟"⟩,
   ⟨0x2F00, 1, "一丨丶丿乙亅二亠人儿入八冂冖冫几凵刀力勹匕匚匸十卜卩厂厶又口囗土士夂夊夕大女子宀寸小尢尸屮山巛工己巾干幺广廴廾弋弓彐彡彳心戈戶手支攴文斗斤方无日曰月木欠止歹殳"⟩,
   ⟨0x2F4F, 1, "毋比毛氏气水火爪父爻爿片牙牛犬玄玉瓜瓦甘生用田疋疒癶白皮皿目矛矢石示禸禾穴立竹米糸缶网羊羽老而耒耳聿肉臣自至臼舌舛舟艮色艸虍虫血行衣襾見角言谷豆豕豸貝赤走足身"⟩,
   ⟨0x2F9E, 1, "車辛辰辵邑酉釆里金長門阜隶隹雨靑非面革韋韭音頁風飛食首香馬骨高髟鬥鬯鬲鬼魚鳥鹵鹿麥麻黃黍黑黹黽鼎鼓鼠鼻齊齒龍龜龠"⟩]

/-- Such characters from 0x3000 on, most of them of East Asia. -/
def spelledEastern : List Spelling :=
  [⟨0x3000, 1, " "⟩, ⟨0x3002, 1, "."⟩, ⟨0x3036, 1, "〒"⟩, ⟨0x3038, 1, "十卄卅"⟩,
   ⟨0x309B, 2, " \u3099 \u309A"⟩, ⟨0x309F, 2, "より"⟩, ⟨0x30FF, 2, "コト"⟩,
   ⟨0x3131, 1, "\u1100\u1101\u11AA\u1102\u11AC\u11AD\u1103\u1104\u1105"⟩,
   ⟨0x3140, 1, "\u111A\u1106\u1107\u1108\u1121"⟩,
   ⟨0x3165, 1, "\u1114\u1115\u11C7\u11C8\u11CC\u11CE\u11D3\u11D7\u11D9\u111C\u11DD\u11DF\u111D"⟩,
   ⟨0x3172, 1, "\u111E\u1120\u1122\u1123\u1127\u1129"⟩,
   ⟨0x317D, 1, "\u1132\u1136\u1140\u1147\u114C\u11F1\u11F2\u1157\u1158\u1159\u1184\u1185\u1188"⟩,
   ⟨0x318A, 1, "\u1191\u1192\u1194\u119E\u11A1"⟩, ⟨0x3192, 1, "一二三四上中下甲乙丙丁天地人"⟩,
   ⟨0x3200, 3, "(\u1100)(\u1102)(\u1103)(\u1105)(\u1106)(\u1107)(\u1109)(\u110B)(\u110C)"⟩,
   ⟨0x3209, 3, "(\u110E)(\u110F)(\u1110)(\u1111)(\u1112)(가)(나)(다)(라)(마)(바)(사)(아)(자)(차)(카)(타)(파)"⟩,
   ⟨0x321B, 3, "(하)(주)"⟩, ⟨0x321D, 4, "(오전)(오후)"⟩,
   ⟨0x3220, 3, "(一)(二)(三)(四)(五)(六)(七)(八)(九)(十)(月)(火)(水)(木)(金)(土)(日)(株)(有)(社)(名)(特)(財)(祝)(労)(代)"⟩,
   ⟨0x323A, 3, "(呼)(学)(監)(企)(資)(協)(祭)(休)(自)(至)"⟩, ⟨0x3244, 1, "問幼文箏"⟩, ⟨0x3250, 3, "pte"⟩,
   ⟨0x3251, 2, "212223242526272829303132333435"⟩,
   ⟨0x3260, 1, "\u1100\u1102\u1103\u1105\u1106\u1107\u1109\u110B\u110C"⟩,
   ⟨0x326E, 1, "가나다라마바사아자차카타파하"⟩, ⟨0x327C, 2, "참고주의"⟩, ⟨0x327E, 1, "우"⟩,
   ⟨0x3280, 1, "一二三四五六七八九十月火水木金土日株有社名特財祝労秘男女適優印注項休写正上中下左右医宗学監企資協夜"⟩,
   ⟨0x32B1, 2, "3637383940414243444546474849501月2月3月4月5月6月7月8月9月"⟩, ⟨0x32C9, 3, "10月11月12月"⟩,
   ⟨0x32CC, 2, "hg"⟩, ⟨0x32CD, 3, "erg"⟩, ⟨0x32CE, 2, "ev"⟩, ⟨0x32CF, 3, "ltd"⟩,
   ⟨0x32D0, 1, "アイウエオカキクケコサシスセソタチツテト"⟩, ⟨0x32EA, 1, "ヒフヘホ"⟩, ⟨0x32F3, 1, "ヤユ"⟩, ⟨0x32FF, 2, "令和"⟩,
   ⟨0x3300, 4, "アパートアルファアンペア"⟩, ⟨0x3303, 3, "アール"⟩, ⟨0x3304, 4, "イニング"⟩, ⟨0x3305, 3, "インチウォン"⟩,
   ⟨0x3307, 5, "エスクード"⟩, ⟨0x3308, 4, "エーカー"⟩, ⟨0x3309, 3, "オンスオームカイリ"⟩, ⟨0x330C, 4, "カラットカロリー"⟩,
   ⟨0x330E, 3, "ガロンガンマ"⟩, ⟨0x3310, 2, "ギガ"⟩, ⟨0x3311, 3, "ギニー"⟩, ⟨0x3312, 4, "キュリーギルダー"⟩,
   ⟨0x3314, 2, "キロ"⟩, ⟨0x3315, 5, "キログラム"⟩, ⟨0x3316, 6, "キロメートル"⟩, ⟨0x3317, 5, "キロワット"⟩,
   ⟨0x3318, 3, "グラム"⟩, ⟨0x3319, 5, "グラムトンクルゼイロ"⟩, ⟨0x331B, 4, "クローネ"⟩, ⟨0x331C, 3, "ケースコルナコーポ"⟩,
   ⟨0x331F, 4, "サイクル"⟩, ⟨0x3320, 5, "サンチーム"⟩, ⟨0x3321, 4, "シリング"⟩, ⟨0x3322, 3, "センチセントダース"⟩,
   ⟨0x3325, 2, "デシドルトンナノ"⟩, ⟨0x3329, 3, "ノットハイツ"⟩, ⟨0x332B, 5, "パーセント"⟩, ⟨0x332C, 3, "パーツ"⟩,
   ⟨0x332D, 4, "バーレル"⟩, ⟨0x332E, 5, "ピアストル"⟩, ⟨0x332F, 3, "ピクル"⟩, ⟨0x3330, 2, "ピコビル"⟩,
   ⟨0x3332, 5, "ファラッド"⟩, ⟨0x3333, 4, "フィート"⟩, ⟨0x3334, 5, "ブッシェル"⟩, ⟨0x3335, 3, "フラン"⟩,
   ⟨0x3336, 5, "ヘクタール"⟩, ⟨0x3337, 2, "ペソ"⟩, ⟨0x3338, 3, "ペニヒヘルツペンスページベータ"⟩, ⟨0x333D, 4, "ポイント"⟩,
   ⟨0x333E, 3, "ボルト"⟩, ⟨0x333F, 2, "ホン"⟩, ⟨0x3340, 3, "ポンドホールホーン"⟩, ⟨0x3343, 4, "マイクロ"⟩,
   ⟨0x3344, 3, "マイルマッハマルク"⟩, ⟨0x3347, 5, "マンション"⟩, ⟨0x3348, 4, "ミクロン"⟩, ⟨0x3349, 2, "ミリ"⟩,
   ⟨0x334A, 5, "ミリバール"⟩, ⟨0x334B, 2, "メガ"⟩, ⟨0x334C, 4, "メガトンメートル"⟩, ⟨0x334E, 3, "ヤードヤールユアン"⟩,
   ⟨0x3351, 4, "リットル"⟩, ⟨0x3352, 2, "リラ"⟩, ⟨0x3353, 3, "ルピー"⟩, ⟨0x3354, 4, "ルーブル"⟩,
   ⟨0x3355, 2, "レム"⟩, ⟨0x3356, 5, "レントゲン"⟩, ⟨0x3357, 3, "ワット"⟩,
   ⟨0x3358, 2, "0点1点2点3点4点5点6点7点8点9点"⟩,
   ⟨0x3362, 3, "10点11点12点13点14点15点16点17点18点19点20点21点22点23点24点hpa"⟩, ⟨0x3372, 2, "daau"⟩,
   ⟨0x3374, 3, "bar"⟩, ⟨0x3375, 2, "ovpcdm"⟩, ⟨0x3378, 3, "dm2dm3"⟩, ⟨0x337A, 2, "iu平成昭和大正明治"⟩,
   ⟨0x337F, 4, "株式会社"⟩, ⟨0x3380, 2, "panaμamakakbmbgb"⟩, ⟨0x3388, 3, "cal"⟩, ⟨0x3389, 4, "kcal"⟩,
   ⟨0x338A, 2, "pfnfμfμgmgkghz"⟩, ⟨0x3391, 3, "khzmhzghzthz"⟩,
   ⟨0x3395, 2, "μlmldlklfmnmμmmmcmkm"⟩, ⟨0x339F, 3, "mm2cm2"⟩, ⟨0x33A1, 2, "m2"⟩,
   ⟨0x33A2, 3, "km2mm3cm3"⟩, ⟨0x33A5, 2, "m3"⟩, ⟨0x33A6, 3, "km3m∕s"⟩, ⟨0x33A8, 4, "m∕s2"⟩,
   ⟨0x33A9, 2, "pa"⟩, ⟨0x33AA, 3, "kpampagparad"⟩, ⟨0x33AE, 5, "rad∕s"⟩, ⟨0x33AF, 6, "rad∕s2"⟩,
   ⟨0x33B0, 2, "psnsμsmspvnvμvmvkvmvpwnwμwmwkwmwkωmω"⟩, ⟨0x33C3, 2, "bqcccd"⟩,
   ⟨0x33C6, 4, "c∕kg"⟩, ⟨0x33C8, 2, "dbgyhahpinkkkmktlmln"⟩, ⟨0x33D2, 3, "log"⟩,
   ⟨0x33D3, 2, "lxmb"⟩, ⟨0x33D5, 3, "milmol"⟩, ⟨0x33D7, 2, "ph"⟩, ⟨0x33D9, 3, "ppm"⟩,
   ⟨0x33DA, 2, "prsrsvwb"⟩, ⟨0x33DE, 3, "v∕ma∕m"⟩, ⟨0x33E0, 2, "1日2日3日4日5日6日7日8日9日"⟩,
   ⟨0x33E9, 3, "10日11日12日13日14日15日16日17日18日19日20日21日22日23日24日25日26日27日28日29日30日31日gal"⟩,
   ⟨0xA69C, 1, "ъь"⟩, ⟨0xA770, 1, "ꝯ"⟩, ⟨0xA77D, 1, "ᵹ"⟩, ⟨0xA78B, 1, "ꞌ"⟩, ⟨0xA78D, 1, "ɥ"⟩,
   ⟨0xA7AA, 1, "ɦɜɡɬɪ"⟩, ⟨0xA7B0, 1, "ʞʇʝꭓ"⟩, ⟨0xA7C4, 1, "ꞔʂᶎ"⟩, ⟨0xA7CB, 1, "ɤ"⟩,
   ⟨0xA7DC, 1, "ƛ"⟩, ⟨0xA7F1, 1, "scfqꟶ"⟩, ⟨0xA7F8, 1, "ħœ"⟩, ⟨0xAB5C, 1, "ꜧꬷɫꭒ"⟩,
   ⟨0xAB69, 1, "ʍ"⟩]

/-- Ideographs of the basic plane that stand for others. -/
def spelledIdeographs : List Spelling :=
  [⟨0xF900, 1, "豈更車賈滑串句龜龜契金喇奈懶癩羅蘿螺裸邏樂洛烙珞落酪駱亂卵欄爛蘭鸞嵐濫藍襤拉臘蠟廊朗浪狼郎來冷勞擄櫓爐盧老蘆虜路露魯鷺碌祿綠菉錄鹿論壟弄籠聾牢磊賂雷壘屢樓淚漏"⟩,
   ⟨0xF94F, 1, "累縷陋勒肋凜凌稜綾菱陵讀拏樂諾丹寧怒率異北磻便復不泌數索參塞省葉說殺辰沈拾若掠略亮兩凉梁糧良諒量勵呂女廬旅濾礪閭驪麗黎力曆歷轢年憐戀撚漣煉璉秊練聯輦蓮連鍊列劣"⟩,
   ⟨0xF99E, 1, "咽烈裂說廉念捻殮簾獵令囹寧嶺怜玲瑩羚聆鈴零靈領例禮醴隸惡了僚寮尿料樂燎療蓼遼龍暈阮劉杻柳流溜琉留硫紐類六戮陸倫崙淪輪律慄栗率隆利吏履易李梨泥理痢罹裏裡里離匿溺"⟩,
   ⟨0xF9ED, 1, "吝燐璘藺隣鱗麟林淋臨立笠粒狀炙識什茶刺切度拓糖宅洞暴輻行降見廓兀嗀"⟩, ⟨0xFA10, 1, "塚"⟩, ⟨0xFA12, 1, "晴"⟩,
   ⟨0xFA15, 1, "凞猪益礼神祥福靖精羽"⟩, ⟨0xFA20, 1, "蘒"⟩, ⟨0xFA22, 1, "諸"⟩, ⟨0xFA25, 1, "逸都"⟩,
   ⟨0xFA2A, 1, "飯飼館鶴郞隷侮僧免勉勤卑喝嘆器塀墨層屮悔慨憎懲敏既暑梅海渚漢煮爫琢碑社祉祈祐祖祝禍禎穀突節練縉繁署者臭艹艹著褐視謁謹賓贈辶逸難響頻恵𤋮舘"⟩,
   ⟨0xFA70, 1, "並况全侀充冀勇勺喝啕喙嗢塚墳奄奔婢嬨廒廙彩徭惘慎愈憎慠懲戴揄搜摒敖晴朗望杖歹殺流滛滋漢瀞煮瞧爵犯猪瑱甆画瘝瘟益盛直睊着磌窱節类絛練缾者荒華蝹襁覆視調諸請謁諾諭"⟩,
   ⟨0xFABF, 1, "謹變贈輸遲醙鉶陼難靖韛響頋頻鬒龜𢡊𢡄𣏕㮝䀘䀹𥉉𥳐𧻓齃龎"⟩]

/-- Forms that letters and signs take, up to the end of the basic plane. -/
def spelledForms : List Spelling :=
  [⟨0xFB00, 2, "fffifl"⟩, ⟨0xFB03, 3, "ffiffl"⟩, ⟨0xFB05, 2, "stst"⟩, ⟨0xFB13, 2, "մնմեմիվնմխ"⟩,
   ⟨0xFB1D, 2, "\u05D9\u05B4"⟩, ⟨0xFB1F, 2, "\u05F2\u05B7"⟩,
   ⟨0xFB20, 1, "\u05E2\u05D0\u05D3\u05D4\u05DB\u05DC\u05DD\u05E8\u05EA+"⟩,
   ⟨0xFB2A, 2, "\u05E9\u05C1\u05E9\u05C2"⟩, ⟨0xFB2C, 3, "\u05E9\u05BC\u05C1\u05E9\u05BC\u05C2"⟩,
   ⟨0xFB2E, 2, "\u05D0\u05B7\u05D0\u05B8\u05D0\u05BC\u05D1\u05BC\u05D2\u05BC\u05D3\u05BC"⟩,
   ⟨0xFB34, 2, "\u05D4\u05BC\u05D5\u05BC\u05D6\u05BC"⟩,
   ⟨0xFB38, 2, "\u05D8\u05BC\u05D9\u05BC\u05DA\u05BC\u05DB\u05BC\u05DC\u05BC"⟩,
   ⟨0xFB3E, 2, "\u05DE\u05BC"⟩, ⟨0xFB40, 2, "\u05E0\u05BC\u05E1\u05BC"⟩,
   ⟨0xFB43, 2, "\u05E3\u05BC\u05E4\u05BC"⟩,
   ⟨0xFB46, 2, "\u05E6\u05BC\u05E7\u05BC\u05E8\u05BC\u05E9\u05BC\u05EA\u05BC\u05D5\u05B9"⟩,
   ⟨0xFB4C, 2, "\u05D1\u05BF\u05DB\u05BF\u05E4\u05BF\u05D0\u05DC"⟩,
   ⟨0xFB50, 1, "\u0671\u0671\u067B\u067B\u067B\u067B\u067E\u067E\u067E\u067E\u0680\u0680\u0680"⟩,
   ⟨0xFB5D, 1, "\u0680\u067A\u067A\u067A\u067A\u067F\u067F\u067F\u067F\u0679\u0679\u0679\u0679"⟩,
   ⟨0xFB6A, 1, "\u06A4\u06A4\u06A4\u06A4\u06A6\u06A6\u06A6\u06A6\u0684\u0684\u0684\u0684\u0683"⟩,
   ⟨0xFB77, 1, "\u0683\u0683\u0683\u0686\u0686\u0686\u0686\u0687\u0687\u0687\u0687\u068D\u068D"⟩,
   ⟨0xFB84, 1, "\u068C\u068C\u068E\u068E\u0688\u0688\u0698\u0698\u0691\u0691\u06A9\u06A9\u06A9"⟩,
   ⟨0xFB91, 1, "\u06A9\u06AF\u06AF\u06AF\u06AF\u06B3\u06B3\u06B3\u06B3\u06B1\u06B1\u06B1\u06B1"⟩,
   ⟨0xFB9E, 1, "\u06BA\u06BA\u06BB\u06BB\u06BB\u06BB\u06C0\u06C0\u06C1\u06C1\u06C1\u06C1\u06BE"⟩,
   ⟨0xFBAB, 1, "\u06BE\u06BE\u06BE\u06D2\u06D2\u06D3\u06D3"⟩,
   ⟨0xFBD3, 1, "\u06AD\u06AD\u06AD\u06AD\u06C7\u06C7\u06C6\u06C6\u06C8\u06C8"⟩,
   ⟨0xFBDD, 2, "\u06C7\u0674"⟩,
   ⟨0xFBDE, 1, "\u06CB\u06CB\u06C5\u06C5\u06C9\u06C9\u06D0\u06D0\u06D0\u06D0\u0649\u0649"⟩,
   ⟨0xFBEA, 2, "\u0626\u0627\u0626\u0627\u0626\u06D5\u0626\u06D5\u0626\u0648\u0626\u0648"⟩,
   ⟨0xFBF0, 2, "\u0626\u06C7\u0626\u06C7\u0626\u06C6\u0626\u06C6\u0626\u06C8\u0626\u06C8"⟩,
   ⟨0xFBF6, 2, "\u0626\u06D0\u0626\u06D0\u0626\u06D0\u0626\u0649\u0626\u0649\u0626\u0649"⟩,
   ⟨0xFBFC, 1, "\u06CC\u06CC\u06CC\u06CC"⟩,
   ⟨0xFC00, 2, "\u0626\u062C\u0626\u062D\u0626\u0645\u0626\u0649\u0626\u064A\u0628\u062C"⟩,
   ⟨0xFC06, 2, "\u0628\u062D\u0628\u062E\u0628\u0645\u0628\u0649\u0628\u064A\u062A\u062C"⟩,
   ⟨0xFC0C, 2, "\u062A\u062D\u062A\u062E\u062A\u0645\u062A\u0649\u062A\u064A\u062B\u062C"⟩,
   ⟨0xFC12, 2, "\u062B\u0645\u062B\u0649\u062B\u064A\u062C\u062D\u062C\u0645\u062D\u062C"⟩,
   ⟨0xFC18, 2, "\u062D\u0645\u062E\u062C\u062E\u062D\u062E\u0645\u0633\u062C\u0633\u062D"⟩,
   ⟨0xFC1E, 2, "\u0633\u062E\u0633\u0645\u0635\u062D\u0635\u0645\u0636\u062C\u0636\u062D"⟩,
   ⟨0xFC24, 2, "\u0636\u062E\u0636\u0645\u0637\u062D\u0637\u0645\u0638\u0645\u0639\u062C"⟩,
   ⟨0xFC2A, 2, "\u0639\u0645\u063A\u062C\u063A\u0645\u0641\u062C\u0641\u062D\u0641\u062E"⟩,
   ⟨0xFC30, 2, "\u0641\u0645\u0641\u0649\u0641\u064A\u0642\u062D\u0642\u0645\u0642\u0649"⟩,
   ⟨0xFC36, 2, "\u0642\u064A\u0643\u0627\u0643\u062C\u0643\u062D\u0643\u062E\u0643\u0644"⟩,
   ⟨0xFC3C, 2, "\u0643\u0645\u0643\u0649\u0643\u064A\u0644\u062C\u0644\u062D\u0644\u062E"⟩,
   ⟨0xFC42, 2, "\u0644\u0645\u0644\u0649\u0644\u064A\u0645\u062C\u0645\u062D\u0645\u062E"⟩,
   ⟨0xFC48, 2, "\u0645\u0645\u0645\u0649\u0645\u064A\u0646\u062C\u0646\u062D\u0646\u062E"⟩,
   ⟨0xFC4E, 2, "\u0646\u0645\u0646\u0649\u0646\u064A\u0647\u062C\u0647\u0645\u0647\u0649"⟩,
   ⟨0xFC54, 2, "\u0647\u064A\u064A\u062C\u064A\u062D\u064A\u062E\u064A\u0645\u064A\u0649"⟩,
   ⟨0xFC5A, 2, "\u064A\u064A\u0630\u0670\u0631\u0670\u0649\u0670"⟩,
   ⟨0xFC5E, 3, " \u064C\u0651 \u064D\u0651 \u064E\u0651 \u064F\u0651 \u0650\u0651 \u0651\u0670"⟩,
   ⟨0xFC64, 2, "\u0626\u0631\u0626\u0632\u0626\u0645\u0626\u0646\u0626\u0649\u0626\u064A"⟩,
   ⟨0xFC6A, 2, "\u0628\u0631\u0628\u0632\u0628\u0645\u0628\u0646\u0628\u0649\u0628\u064A"⟩,
   ⟨0xFC70, 2, "\u062A\u0631\u062A\u0632\u062A\u0645\u062A\u0646\u062A\u0649\u062A\u064A"⟩,
   ⟨0xFC76, 2, "\u062B\u0631\u062B\u0632\u062B\u0645\u062B\u0646\u062B\u0649\u062B\u064A"⟩,
   ⟨0xFC7C, 2, "\u0641\u0649\u0641\u064A\u0642\u0649\u0642\u064A\u0643\u0627\u0643\u0644"⟩,
   ⟨0xFC82, 2, "\u0643\u0645\u0643\u0649\u0643\u064A\u0644\u0645\u0644\u0649\u0644\u064A"⟩,
   ⟨0xFC88, 2, "\u0645\u0627\u0645\u0645\u0646\u0631\u0646\u0632\u0646\u0645\u0646\u0646"⟩,
   ⟨0xFC8E, 2, "\u0646\u0649\u0646\u064A\u0649\u0670\u064A\u0631\u064A\u0632\u064A\u0645"⟩,
   ⟨0xFC94, 2, "\u064A\u0646\u064A\u0649\u064A\u064A\u0626\u062C\u0626\u062D\u0626\u062E"⟩,
   ⟨0xFC9A, 2, "\u0626\u0645\u0626\u0647\u0628\u062C\u0628\u062D\u0628\u062E\u0628\u0645"⟩,
   ⟨0xFCA0, 2, "\u0628\u0647\u062A\u062C\u062A\u062D\u062A\u062E\u062A\u0645\u062A\u0647"⟩,
   ⟨0xFCA6, 2, "\u062B\u0645\u062C\u062D\u062C\u0645\u062D\u062C\u062D\u0645\u062E\u062C"⟩,
   ⟨0xFCAC, 2, "\u062E\u0645\u0633\u062C\u0633\u062D\u0633\u062E\u0633\u0645\u0635\u062D"⟩,
   ⟨0xFCB2, 2, "\u0635\u062E\u0635\u0645\u0636\u062C\u0636\u062D\u0636\u062E\u0636\u0645"⟩,
   ⟨0xFCB8, 2, "\u0637\u062D\u0638\u0645\u0639\u062C\u0639\u0645\u063A\u062C\u063A\u0645"⟩,
   ⟨0xFCBE, 2, "\u0641\u062C\u0641\u062D\u0641\u062E\u0641\u0645\u0642\u062D\u0642\u0645"⟩,
   ⟨0xFCC4, 2, "\u0643\u062C\u0643\u062D\u0643\u062E\u0643\u0644\u0643\u0645\u0644\u062C"⟩,
   ⟨0xFCCA, 2, "\u0644\u062D\u0644\u062E\u0644\u0645\u0644\u0647\u0645\u062C\u0645\u062D"⟩,
   ⟨0xFCD0, 2, "\u0645\u062E\u0645\u0645\u0646\u062C\u0646\u062D\u0646\u062E\u0646\u0645"⟩,
   ⟨0xFCD6, 2, "\u0646\u0647\u0647\u062C\u0647\u0645\u0647\u0670\u064A\u062C\u064A\u062D"⟩,
   ⟨0xFCDC, 2, "\u064A\u062E\u064A\u0645\u064A\u0647\u0626\u0645\u0626\u0647\u0628\u0645"⟩,
   ⟨0xFCE2, 2, "\u0628\u0647\u062A\u0645\u062A\u0647\u062B\u0645\u062B\u0647\u0633\u0645"⟩,
   ⟨0xFCE8, 2, "\u0633\u0647\u0634\u0645\u0634\u0647\u0643\u0644\u0643\u0645\u0644\u0645"⟩,
   ⟨0xFCEE, 2, "\u0646\u0645\u0646\u0647\u064A\u0645\u064A\u0647"⟩,
   ⟨0xFCF2, 3, "\u0640\u064E\u0651\u0640\u064F\u0651\u0640\u0650\u0651"⟩,
   ⟨0xFCF5, 2, "\u0637\u0649\u0637\u064A\u0639\u0649\u0639\u064A\u063A\u0649\u063A\u064A"⟩,
   ⟨0xFCFB, 2, "\u0633\u0649\u0633\u064A\u0634\u0649\u0634\u064A\u062D\u0649\u062D\u064A"⟩,
   ⟨0xFD01, 2, "\u062C\u0649\u062C\u064A\u062E\u0649\u062E\u064A\u0635\u0649\u0635\u064A"⟩,
   ⟨0xFD07, 2, "\u0636\u0649\u0636\u064A\u0634\u062C\u0634\u062D\u0634\u062E\u0634\u0645"⟩,
   ⟨0xFD0D, 2, "\u0634\u0631\u0633\u0631\u0635\u0631\u0636\u0631\u0637\u0649\u0637\u064A"⟩,
   ⟨0xFD13, 2, "\u0639\u0649\u0639\u064A\u063A\u0649\u063A\u064A\u0633\u0649\u0633\u064A"⟩,
   ⟨0xFD19, 2, "\u0634\u0649\u0634\u064A\u062D\u0649\u062D\u064A\u062C\u0649\u062C\u064A"⟩,
   ⟨0xFD1F, 2, "\u062E\u0649\u062E\u064A\u0635\u0649\u0635\u064A\u0636\u0649\u0636\u064A"⟩,
   ⟨0xFD25, 2, "\u0634\u062C\u0634\u062D\u0634\u062E\u0634\u0645\u0634\u0631\u0633\u0631"⟩,
   ⟨0xFD2B, 2, "\u0635\u0631\u0636\u0631\u0634\u062C\u0634\u062D\u0634\u062E\u0634\u0645"⟩,
   ⟨0xFD31, 2, "\u0633\u0647\u0634\u0647\u0637\u0645\u0633\u062C\u0633\u062D\u0633\u062E"⟩,
   ⟨0xFD37, 2, "\u0634\u062C\u0634\u062D\u0634\u062E\u0637\u0645\u0638\u0645\u0627\u064B"⟩,
   ⟨0xFD3D, 2, "\u0627\u064B"⟩,
   ⟨0xFD50, 3, "\u062A\u062C\u0645\u062A\u062D\u062C\u062A\u062D\u062C\u062A\u062D\u0645"⟩,
   ⟨0xFD54, 3, "\u062A\u062E\u0645\u062A\u0645\u062C\u062A\u0645\u062D\u062A\u0645\u062E"⟩,
   ⟨0xFD58, 3, "\u062C\u0645\u062D\u062C\u0645\u062D\u062D\u0645\u064A\u062D\u0645\u0649"⟩,
   ⟨0xFD5C, 3, "\u0633\u062D\u062C\u0633\u062C\u062D\u0633\u062C\u0649\u0633\u0645\u062D"⟩,
   ⟨0xFD60, 3, "\u0633\u0645\u062D\u0633\u0645\u062C\u0633\u0645\u0645\u0633\u0645\u0645"⟩,
   ⟨0xFD64, 3, "\u0635\u062D\u062D\u0635\u062D\u062D\u0635\u0645\u0645\u0634\u062D\u0645"⟩,
   ⟨0xFD68, 3, "\u0634\u062D\u0645\u0634\u062C\u064A\u0634\u0645\u062E\u0634\u0645\u062E"⟩,
   ⟨0xFD6C, 3, "\u0634\u0645\u0645\u0634\u0645\u0645\u0636\u062D\u0649\u0636\u062E\u0645"⟩,
   ⟨0xFD70, 3, "\u0636\u062E\u0645\u0637\u0645\u062D\u0637\u0645\u062D\u0637\u0645\u0645"⟩,
   ⟨0xFD74, 3, "\u0637\u0645\u064A\u0639\u062C\u0645\u0639\u0645\u0645\u0639\u0645\u0645"⟩,
   ⟨0xFD78, 3, "\u0639\u0645\u0649\u063A\u0645\u0645\u063A\u0645\u064A\u063A\u0645\u0649"⟩,
   ⟨0xFD7C, 3, "\u0641\u062E\u0645\u0641\u062E\u0645\u0642\u0645\u062D\u0642\u0645\u0645"⟩,
   ⟨0xFD80, 3, "\u0644\u062D\u0645\u0644\u062D\u064A\u0644\u062D\u0649\u0644\u062C\u062C"⟩,
   ⟨0xFD84, 3, "\u0644\u062C\u062C\u0644\u062E\u0645\u0644\u062E\u0645\u0644\u0645\u062D"⟩,
   ⟨0xFD88, 3, "\u0644\u0645\u062D\u0645\u062D\u062C\u0645\u062D\u0645\u0645\u062D\u064A"⟩,
   ⟨0xFD8C, 3, "\u0645\u062C\u062D\u0645\u062C\u0645\u0645\u062E\u062C\u0645\u062E\u0645"⟩,
   ⟨0xFD92, 3, "\u0645\u062C\u062E\u0647\u0645\u062C\u0647\u0645\u0645\u0646\u062D\u0645"⟩,
   ⟨0xFD96, 3, "\u0646\u062D\u0649\u0646\u062C\u0645\u0646\u062C\u0645\u0646\u062C\u0649"⟩,
   ⟨0xFD9A, 3, "\u0646\u0645\u064A\u0646\u0645\u0649\u064A\u0645\u0645\u064A\u0645\u0645"⟩,
   ⟨0xFD9E, 3, "\u0628\u062E\u064A\u062A\u062C\u064A\u062A\u062C\u0649\u062A\u062E\u064A"⟩,
   ⟨0xFDA2, 3, "\u062A\u062E\u0649\u062A\u0645\u064A\u062A\u0645\u0649\u062C\u0645\u064A"⟩,
   ⟨0xFDA6, 3, "\u062C\u062D\u0649\u062C\u0645\u0649\u0633\u062E\u0649\u0635\u062D\u064A"⟩,
   ⟨0xFDAA, 3, "\u0634\u062D\u064A\u0636\u062D\u064A\u0644\u062C\u064A\u0644\u0645\u064A"⟩,
   ⟨0xFDAE, 3, "\u064A\u062D\u064A\u064A\u062C\u064A\u064A\u0645\u064A\u0645\u0645\u064A"⟩,
   ⟨0xFDB2, 3, "\u0642\u0645\u064A\u0646\u062D\u064A\u0642\u0645\u062D\u0644\u062D\u0645"⟩,
   ⟨0xFDB6, 3, "\u0639\u0645\u064A\u0643\u0645\u064A\u0646\u062C\u062D\u0645\u062E\u064A"⟩,
   ⟨0xFDBA, 3, "\u0644\u062C\u0645\u0643\u0645\u0645\u0644\u062C\u0645\u0646\u062C\u062D"⟩,
   ⟨0xFDBE, 3, "\u062C\u062D\u064A\u062D\u062C\u064A\u0645\u062C\u064A\u0641\u0645\u064A"⟩,
   ⟨0xFDC2, 3, "\u0628\u062D\u064A\u0643\u0645\u0645\u0639\u062C\u0645\u0635\u0645\u0645"⟩,
   ⟨0xFDC6, 3, "\u0633\u062E\u064A\u0646\u062C\u064A"⟩,
   ⟨0xFDF0, 3, "\u0635\u0644\u06D2\u0642\u0644\u06D2"⟩,
   ⟨0xFDF2, 4, "\u0627\u0644\u0644\u0647\u0627\u0643\u0628\u0631\u0645\u062D\u0645\u062F"⟩,
   ⟨0xFDF5, 4, "\u0635\u0644\u0639\u0645\u0631\u0633\u0648\u0644\u0639\u0644\u064A\u0647"⟩,
   ⟨0xFDF8, 4, "\u0648\u0633\u0644\u0645"⟩, ⟨0xFDF9, 3, "\u0635\u0644\u0649"⟩, ⟨0xFDFA, 18, ""⟩,
   ⟨0xFDFA, 18, "\u0635\u0644\u0649 \u0627\u0644\u0644\u0647 \u0639\u0644\u064A\u0647 " ++
      "\u0648\u0633\u0644\u0645"⟩,
   ⟨0xFDFB, 8, "\u062C\u0644 \u062C\u0644\u0627\u0644\u0647"⟩,
   ⟨0xFDFC, 4, "\u0631\u06CC\u0627\u0644"⟩, ⟨0xFE10, 1, ",、"⟩, ⟨0xFE13, 1, ":;!?〖〗"⟩,
   ⟨0xFE31, 1, "—–__()\x7b\x7d〔〕【】《》〈〉"⟩, ⟨0xFE47, 1, "[]"⟩,
   ⟨0xFE49, 2, " \u0305 \u0305 \u0305 \u0305"⟩, ⟨0xFE4D, 1, "___,、"⟩,
   ⟨0xFE54, 1, ";:?!—()\x7b\x7d〔〕#&*+-<>="⟩, ⟨0xFE68, 1, "\\$%@"⟩,
   ⟨0xFE70, 2, " \u064B\u0640\u064B \u064C"⟩, ⟨0xFE74, 2, " \u064D"⟩,
   ⟨0xFE76, 2, " \u064E\u0640\u064E \u064F\u0640\u064F \u0650\u0640\u0650 \u0651\u0640\u0651"⟩,
   ⟨0xFE7E, 2, " \u0652\u0640\u0652"⟩,
   ⟨0xFE80, 1, "\u0621\u0622\u0622\u0623\u0623\u0624\u0624\u0625\u0625\u0626\u0626\u0626\u0626"⟩,
   ⟨0xFE8D, 1, "\u0627\u0627\u0628\u0628\u0628\u0628\u0629\u0629\u062A\u062A\u062A\u062A\u062B"⟩,
   ⟨0xFE9A, 1, "\u062B\u062B\u062B\u062C\u062C\u062C\u062C\u062D\u062D\u062D\u062D\u062E\u062E"⟩,
   ⟨0xFEA7, 1, "\u062E\u062E\u062F\u062F\u0630\u0630\u0631\u0631\u0632\u0632\u0633\u0633\u0633"⟩,
   ⟨0xFEB4, 1, "\u0633\u0634\u0634\u0634\u0634\u0635\u0635\u0635\u0635\u0636\u0636\u0636\u0636"⟩,
   ⟨0xFEC1, 1, "\u0637\u0637\u0637\u0637\u0638\u0638\u0638\u0638\u0639\u0639\u0639\u0639\u063A"⟩,
   ⟨0xFECE, 1, "\u063A\u063A\u063A\u0641\u0641\u0641\u0641\u0642\u0642\u0642\u0642\u0643\u0643"⟩,
   ⟨0xFEDB, 1, "\u0643\u0643\u0644\u0644\u0644\u0644\u0645\u0645\u0645\u0645\u0646\u0646\u0646"⟩,
   ⟨0xFEE8, 1, "\u0646\u0647\u0647\u0647\u0647\u0648\u0648\u0649\u0649\u064A\u064A\u064A\u064A"⟩,
   ⟨0xFEF5, 2, "\u0644\u0622\u0644\u0622\u0644\u0623\u0644\u0623\u0644\u0625\u0644\u0625"⟩,
   ⟨0xFEFB, 2, "\u0644\u0627\u0644\u0627"⟩, ⟨0xFF5F, 1, "⦅⦆.「」、・ヲァィゥェォャュョッーアイウエオカキクケコサシスセソタチツテト"⟩,
   ⟨0xFF8B, 1, "ヒフヘホ"⟩, ⟨0xFF94, 1, "ヤユ"⟩, ⟨0xFF9C, 1, "ワン\u3099\u309A"⟩,
   ⟨0xFFA1, 1, "\u1100\u1101\u11AA\u1102\u11AC\u11AD\u1103\u1104\u1105"⟩,
   ⟨0xFFB0, 1, "\u111A\u1106\u1107\u1108\u1121"⟩, ⟨0xFFDA, 1, "\u1173\u1174\u1175"⟩,
   ⟨0xFFE0, 1, "¢£¬"⟩, ⟨0xFFE3, 2, " \u0304"⟩, ⟨0xFFE4, 1, "¦¥₩"⟩, ⟨0xFFE8, 1, "│"⟩,
   ⟨0xFFED, 1, "■○"⟩]

/-- Characters of the further planes that fold to others in no order, or to more than one. -/
def spelledBeyond : List Spelling :=
  [⟨0x10594, 1, "𐖻𐖼"⟩, ⟨0x10781, 1, "ːˑæʙɓ"⟩,
   ⟨0x10787, 1, "ʣꭦʥʤɖɗᶑɘɞʩɤɢɠʛħʜɧʄʪʫɬ𝼄ꞎɮ𝼅ʎ𝼆øɶɷqɺ𝼈ɽɾʀʨʦꭧʧʈⱱ"⟩, ⟨0x107B2, 1, "ʏʡʢʘǀǁǂ𝼊𝼞"⟩,
   ⟨0x1D49C, 1, "a"⟩, ⟨0x1D49E, 1, "cd"⟩, ⟨0x1D4A2, 1, "g"⟩, ⟨0x1D4A5, 1, "jk"⟩,
   ⟨0x1D4BB, 1, "f"⟩, ⟨0x1D504, 1, "ab"⟩, ⟨0x1D538, 1, "ab"⟩, ⟨0x1D546, 1, "o"⟩,
   ⟨0x1D6A4, 1, "ıȷ"⟩, ⟨0x1D6B9, 1, "θ"⟩, ⟨0x1D6C1, 1, "∇"⟩, ⟨0x1D6D3, 1, "σ"⟩,
   ⟨0x1D6DB, 1, "∂εθκφρπ"⟩, ⟨0x1D6F3, 1, "θ"⟩, ⟨0x1D6FB, 1, "∇"⟩, ⟨0x1D70D, 1, "σ"⟩,
   ⟨0x1D715, 1, "∂εθκφρπ"⟩, ⟨0x1D72D, 1, "θ"⟩, ⟨0x1D735, 1, "∇"⟩, ⟨0x1D747, 1, "σ"⟩,
   ⟨0x1D74F, 1, "∂εθκφρπ"⟩, ⟨0x1D767, 1, "θ"⟩, ⟨0x1D76F, 1, "∇"⟩, ⟨0x1D781, 1, "σ"⟩,
   ⟨0x1D789, 1, "∂εθκφρπ"⟩, ⟨0x1D7A1, 1, "θ"⟩, ⟨0x1D7A9, 1, "∇"⟩, ⟨0x1D7BB, 1, "σ"⟩,
   ⟨0x1D7C3, 1, "∂εθκφρπϝϝ"⟩, ⟨0x1E039, 1, "клм"⟩, ⟨0x1E047, 1, "ыэюꚉәіјөүӏ"⟩,
   ⟨0x1E05A, 1, "клопс"⟩, ⟨0x1E065, 1, "ъыґіѕџҫꙑұ"⟩, ⟨0x1EE00, 1, "\u0627\u0628\u062C\u062F"⟩,
   ⟨0x1EE05, 1, "\u0648\u0632\u062D\u0637\u064A"⟩,
   ⟨0x1EE0E, 1, "\u0633\u0639\u0641\u0635\u0642\u0631\u0634\u062A\u062B\u062E\u0630\u0636\u0638"⟩,
   ⟨0x1EE1B, 1, "\u063A\u066E\u06BA\u06A1\u066F"⟩, ⟨0x1EE21, 1, "\u0628\u062C"⟩,
   ⟨0x1EE24, 1, "\u0647"⟩, ⟨0x1EE27, 1, "\u062D"⟩, ⟨0x1EE29, 1, "\u064A"⟩,
   ⟨0x1EE2E, 1, "\u0633\u0639\u0641\u0635\u0642"⟩, ⟨0x1EE34, 1, "\u0634\u062A\u062B\u062E"⟩,
   ⟨0x1EE39, 1, "\u0636"⟩, ⟨0x1EE3B, 1, "\u063A"⟩, ⟨0x1EE42, 1, "\u062C"⟩, ⟨0x1EE47, 1, "\u062D"⟩,
   ⟨0x1EE49, 1, "\u064A"⟩, ⟨0x1EE4B, 1, "\u0644"⟩, ⟨0x1EE4D, 1, "\u0646\u0633\u0639"⟩,
   ⟨0x1EE51, 1, "\u0635\u0642"⟩, ⟨0x1EE54, 1, "\u0634"⟩, ⟨0x1EE57, 1, "\u062E"⟩,
   ⟨0x1EE59, 1, "\u0636"⟩, ⟨0x1EE5B, 1, "\u063A"⟩, ⟨0x1EE5D, 1, "\u06BA"⟩, ⟨0x1EE5F, 1, "\u066F"⟩,
   ⟨0x1EE61, 1, "\u0628\u062C"⟩, ⟨0x1EE64, 1, "\u0647"⟩, ⟨0x1EE67, 1, "\u062D\u0637\u064A\u0643"⟩,
   ⟨0x1EE6C, 1, "\u0645\u0646\u0633\u0639\u0641\u0635\u0642"⟩,
   ⟨0x1EE74, 1, "\u0634\u062A\u062B\u062E"⟩, ⟨0x1EE79, 1, "\u0636\u0638\u063A\u066E"⟩,
   ⟨0x1EE7E, 1, "\u06A1"⟩,
   ⟨0x1EE80, 1, "\u0627\u0628\u062C\u062F\u0647\u0648\u0632\u062D\u0637\u064A"⟩,
   ⟨0x1EE8B, 1, "\u0644\u0645\u0646\u0633\u0639\u0641\u0635\u0642\u0631\u0634\u062A\u062B\u062E"⟩,
   ⟨0x1EE98, 1, "\u0630\u0636\u0638\u063A"⟩, ⟨0x1EEA1, 1, "\u0628\u062C\u062F"⟩,
   ⟨0x1EEA5, 1, "\u0648\u0632\u062D\u0637\u064A"⟩,
   ⟨0x1EEAB, 1, "\u0644\u0645\u0646\u0633\u0639\u0641\u0635\u0642\u0631\u0634\u062A\u062B\u062E"⟩,
   ⟨0x1EEB8, 1, "\u0630\u0636\u0638\u063A"⟩, ⟨0x1F101, 2, "0,1,2,3,4,5,6,7,8,9,"⟩,
   ⟨0x1F110, 3, "(a)(b)(c)(d)(e)(f)(g)(h)(i)(j)(k)(l)(m)(n)(o)(p)(q)(r)(s)(t)(u)(v)(w)(x)(y)(z)"⟩,
   ⟨0x1F12A, 3, "〔s〕"⟩, ⟨0x1F12B, 1, "cr"⟩, ⟨0x1F12D, 2, "cdwz"⟩, ⟨0x1F14A, 2, "hvmvsdss"⟩,
   ⟨0x1F14E, 3, "ppv"⟩, ⟨0x1F14F, 2, "wc"⟩, ⟨0x1F16A, 2, "mcmdmr"⟩, ⟨0x1F190, 2, "dj"⟩,
   ⟨0x1F200, 2, "ほかココ"⟩, ⟨0x1F202, 1, "サ"⟩,
   ⟨0x1F210, 1, "手字双デ二多解天交映無料前後再新初終生販声吹演投捕一三遊左中右指走打禁空合満有月申割営配"⟩,
   ⟨0x1F240, 3, "〔本〕〔三〕〔二〕〔安〕〔点〕〔打〕〔盗〕〔勝〕〔敗〕"⟩, ⟨0x1F250, 1, "得可"⟩,
   ⟨0x2F800, 1, "丽丸乁𠄢你侮侻倂偺備僧像㒞𠘺免兔兤具𠔜㒹內再𠕋冗冤仌冬况𩇟凵刃㓟刻剆割剷㔕勇勉勤勺包匆北卉卑博即卽卿卿卿𠨬灰及叟𠭣叫叱吆咞吸呈周咢哶唐啓啣善善喙喫喳嗂圖嘆圗"⟩,
   ⟨0x2F84E, 1, "噑噴切壮城埴堍型堲報墬𡓤売壷夆多夢奢𡚨𡛪姬娛娧姘婦㛮㛼嬈嬾嬾𡧈寃寘寧寳𡬘寿将当尢㞁屠屮峀岍𡷤嵃𡷦嵮嵫嵼巡巢㠯巽帨帽幩㡢𢆃㡼庰庳庶廊𪎒廾𢌱𢌱舁弢弢㣇𣊸𦇚形彫㣣"⟩,
   ⟨0x2F89C, 1, "徚忍志忹悁㤺㤜悔𢛔惇慈慌慎慌慺憎憲憤憯懞懲懶成戛扝抱拔捐𢬌挽拼捨掃揤𢯱搢揅掩㨮摩摾撝摷㩬敏敬𣀊旣書晉㬙暑㬈㫤冒冕最暜肭䏙朗望朡杞杓𣏃㭉柺枅桒梅𣑭梎栟椔㮝楂榣"⟩,
   ⟨0x2F8EA, 1, "槪檨𣚣櫛㰘次𣢧歔㱎歲殟殺殻𣪍𡴋𣫺汎𣲼沿泍汧洖派海流浩浸涅𣴞洴港湮㴳滋滇𣻑淹潮𣽞𣾎濆瀹瀞瀛㶖灊災灷炭𠔥煅𤉣熜𤎫爨爵牐𤘈犀犕𤜵𤠔獺王㺬玥㺸㺸瑇瑜瑱璅瓊㼛甤𤰶甾𤲒"⟩,
   ⟨0x2F938, 1, "異𢆟瘐𤾡𤾸𥁄㿼䀈直𥃳𥃲𥄙𥄳眞真真睊䀹瞋䁆䂖𥐝硎碌磌䃣𥘦祖𥚚𥛅福秫䄯穀穊穏𥥼𥪧𥪧竮䈂𥮫篆築䈧𥲀糒䊠糨糣紀𥾆絣䌁緇縂繅䌴𦈨𦉇䍙𦋙罺𦌾羕翺者𦓚𦔣聠𦖨聰𣍟䏕育脃䐋脾"⟩,
   ⟨0x2F986, 1, "媵𦞧𦞵𣎓𣎜舁舄辞䑫芑芋芝劳花芳芽苦𦬼若茝荣莭茣莽菧著荓菊菌菜𦰶𦵫𦳕䔫蓱蓳蔖𧏊蕤𦼬䕝䕡𦾱𧃒䕫虐虜虧虩蚩蚈蜎蛢蝹蜨蝫螆䗗蟡蠁䗹衠衣𧙧裗裞䘵裺㒻𧢮𧥦䚾䛇誠諭變豕𧲨"⟩,
   ⟨0x2F9D4, 1, "貫賁贛起𧼯𠠄跋趼跰𠣞軔輸𨗒𨗭邔郱鄑𨜮鄛鈸鋗鋘鉼鏹鐕𨯺開䦕閷𨵷䧦雃嶲霣𩅅𩈚䩮䩶韠𩐊䪲𩒖頋頋頩𩖶飢䬳餩馧駂駾䯎𩬰鬒鱀鳽䳎䳭鵧𪃎䳸𪄅𪈎𪊑麻䵖黹黾鼅鼏鼖鼻𪘀"⟩]

/-- Musical notes that are put together of their parts. -/
def notes : List (Nat × List Nat) :=
  [(0x1D15E, [0x1D157, 0x1D165]), (0x1D15F, [0x1D158, 0x1D165]),
   (0x1D160, [0x1D158, 0x1D165, 0x1D16E]), (0x1D161, [0x1D158, 0x1D165, 0x1D16F]),
   (0x1D162, [0x1D158, 0x1D165, 0x1D170]), (0x1D163, [0x1D158, 0x1D165, 0x1D171]),
   (0x1D164, [0x1D158, 0x1D165, 0x1D172]), (0x1D1BB, [0x1D1B9, 0x1D165]),
   (0x1D1BC, [0x1D1BA, 0x1D165]), (0x1D1BD, [0x1D1B9, 0x1D165, 0x1D16E]),
   (0x1D1BE, [0x1D1BA, 0x1D165, 0x1D16E]), (0x1D1BF, [0x1D1B9, 0x1D165, 0x1D16F]),
   (0x1D1C0, [0x1D1BA, 0x1D165, 0x1D16F])]

/-! ## Folding -/

/-- The text to which a character of a row folds. -/
def Spelling.fold? (s : Spelling) (n : Nat) : Option (List Nat) :=
  if s.first ≤ n then
    match (s.texts.toList.drop ((n - s.first) * s.width)).take s.width with
    | [] => none
    | text => some (text.map Char.toNat)
  else none

/-- All rows. -/
def spellings : List Spelling :=
  spelledFirst ++ spelledSigns ++ spelledEastern ++ spelledIdeographs ++ spelledForms ++
    spelledBeyond

/-- The text to which a character folds. -/
def fold? (n : Nat) : Option (List Nat) :=
  if leftOut.has n then some []
  else if alternating.hasEverySecond n then some [n + 1]
  else
    match (shiftedFirst ++ shiftedBeyond).find? fun r => r.1 ≤ n && n ≤ r.2.1 with
    | some (first, _, image) => some [image + (n - first)]
    | none => (notes.lookup n).or (spellings.findSome? fun s => s.fold? n)

/-- Whether a character folds. -/
def folds (n : Nat) : Bool := (fold? n).isSome

/-- A text in which every character that folds has done so. -/
def folded (codes : List Nat) : List Nat := codes.flatMap fun n => (fold? n).getD [n]

end ToolGateway.Unicode
