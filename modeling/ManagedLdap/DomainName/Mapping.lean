/-
# ManagedLdap.DomainName.Mapping -- the characters of a name that stand for others

Many characters of an international domain name only stand for others: capitals for small
letters, wide and ornamental forms for plain ones, the full stops of other scripts for the
point.  Some stand for nothing, and some may not be used at all.  The table is that of
Unicode 17 without the transitional forms; a character it does not list stands for itself.
-/
import ManagedLdap.Text.Ranges

namespace ManagedLdap.DomainName

set_option autoImplicit false

/-- What the characters of a range stand for. -/
inductive Image where
  /-- They may not be used. -/
  | refused
  /-- They are left out. -/
  | dropped
  /-- Each stands for the one so many code points further on. -/
  | shifted (distance : Int)
  /-- The first, the third and so on stand each for its successor, the others for
  themselves. -/
  | paired
  /-- Each stands for the letter at its position. -/
  | letters (text : String)
  /-- Each stands for the text at its position. -/
  | words (texts : List String)

/-- Alphabets below U+2000, as closed ranges in increasing order. -/
def alphabetImages : Text.ClassTable Image := [
  (0x41, 0x5A, .shifted 32), (0x80, 0x9F, .refused), (0xA0, 0xA0, .letters " "),
  (0xA8, 0xA8, .words [" \u0308"]), (0xAA, 0xAA, .letters "a"), (0xAD, 0xAD, .dropped),
  (0xAF, 0xAF, .words [" \u0304"]), (0xB2, 0xB3, .letters "23"), (0xB4, 0xB4, .words [" \u0301"]),
  (0xB5, 0xB5, .letters "μ"), (0xB8, 0xB8, .words [" \u0327"]), (0xB9, 0xBA, .letters "1o"),
  (0xBC, 0xBE, .words ["1⁄4", "1⁄2", "3⁄4"]), (0xC0, 0xD6, .shifted 32), (0xD8, 0xDE, .shifted 32),
  (0x100, 0x12E, .paired), (0x130, 0x130, .words ["i\u0307"]), (0x132, 0x133, .words ["ij", "ij"]),
  (0x134, 0x136, .paired), (0x139, 0x13D, .paired), (0x13F, 0x140, .words ["l·", "l·"]),
  (0x141, 0x147, .paired), (0x149, 0x149, .words ["\u02BCn"]), (0x14A, 0x176, .paired),
  (0x178, 0x179, .letters "ÿź"), (0x17B, 0x17D, .paired), (0x17F, 0x17F, .letters "s"),
  (0x181, 0x182, .letters "ɓƃ"), (0x184, 0x184, .letters "ƅ"), (0x186, 0x187, .letters "ɔƈ"),
  (0x189, 0x18B, .letters "ɖɗƌ"), (0x18E, 0x191, .letters "ǝəɛƒ"), (0x193, 0x194, .letters "ɠɣ"),
  (0x196, 0x198, .letters "ɩɨƙ"), (0x19C, 0x19D, .letters "ɯɲ"), (0x19F, 0x1A0, .letters "ɵơ"),
  (0x1A2, 0x1A4, .paired), (0x1A6, 0x1A7, .letters "ʀƨ"), (0x1A9, 0x1A9, .letters "ʃ"),
  (0x1AC, 0x1AC, .letters "ƭ"), (0x1AE, 0x1AF, .letters "ʈư"), (0x1B1, 0x1B3, .letters "ʊʋƴ"),
  (0x1B5, 0x1B5, .letters "ƶ"), (0x1B7, 0x1B8, .letters "ʒƹ"), (0x1BC, 0x1BC, .letters "ƽ"),
  (0x1C4, 0x1CC, .words ["dž", "dž", "dž", "lj", "lj", "lj", "nj", "nj", "nj"]),
  (0x1CD, 0x1DB, .paired), (0x1DE, 0x1EE, .paired), (0x1F1, 0x1F3, .words ["dz", "dz", "dz"]),
  (0x1F4, 0x1F4, .letters "ǵ"), (0x1F6, 0x1F8, .letters "ƕƿǹ"), (0x1FA, 0x21E, .paired),
  (0x220, 0x220, .letters "ƞ"), (0x222, 0x232, .paired), (0x23A, 0x23B, .letters "ⱥȼ"),
  (0x23D, 0x23E, .letters "ƚⱦ"), (0x241, 0x241, .letters "ɂ"), (0x243, 0x246, .letters "ƀʉʌɇ"),
  (0x248, 0x24E, .paired), (0x2B0, 0x2B8, .letters "hɦjrɹɻʁwy"),
  (0x2D8, 0x2DD, .words [" \u0306", " \u0307", " \u030A", " \u0328", " \u0303", " \u030B"]),
  (0x2E0, 0x2E4, .letters "ɣlsxʕ"), (0x340, 0x341, .letters "\u0300\u0301"),
  (0x343, 0x343, .letters "\u0313"), (0x344, 0x344, .words ["\u0308\u0301"]),
  (0x345, 0x345, .letters "ι"), (0x34F, 0x34F, .dropped), (0x370, 0x372, .paired),
  (0x374, 0x374, .letters "\u02B9"), (0x376, 0x376, .letters "ͷ"), (0x378, 0x379, .refused),
  (0x37A, 0x37A, .words [" ι"]), (0x37E, 0x37F, .letters ";ϳ"), (0x380, 0x383, .refused),
  (0x384, 0x385, .words [" \u0301", " \u0308\u0301"]), (0x386, 0x38A, .letters "ά·έήί"),
  (0x38B, 0x38B, .refused), (0x38C, 0x38C, .letters "ό"), (0x38D, 0x38D, .refused),
  (0x38E, 0x38F, .letters "ύώ"), (0x391, 0x3A1, .shifted 32), (0x3A2, 0x3A2, .refused),
  (0x3A3, 0x3AB, .shifted 32), (0x3CF, 0x3D6, .letters "ϗβθυύϋφπ"), (0x3D8, 0x3EE, .paired),
  (0x3F0, 0x3F2, .letters "κρσ"), (0x3F4, 0x3F5, .letters "θε"), (0x3F7, 0x3F7, .letters "ϸ"),
  (0x3F9, 0x3FA, .letters "σϻ"), (0x3FD, 0x3FF, .shifted (-130)), (0x400, 0x40F, .shifted 80),
  (0x410, 0x42F, .shifted 32), (0x460, 0x480, .paired), (0x48A, 0x4BE, .paired),
  (0x4C0, 0x4C1, .letters "ӏӂ"), (0x4C3, 0x4CD, .paired), (0x4D0, 0x52E, .paired),
  (0x530, 0x530, .refused), (0x531, 0x556, .shifted 48), (0x557, 0x558, .refused),
  (0x587, 0x587, .words ["եւ"]), (0x58B, 0x58C, .refused), (0x590, 0x590, .refused),
  (0x5C8, 0x5CF, .refused), (0x5EB, 0x5EE, .refused), (0x5F5, 0x605, .refused),
  (0x61C, 0x61C, .refused),
  (0x675, 0x678, .words ["\u0627\u0674", "\u0648\u0674", "\u06C7\u0674", "\u064A\u0674"]),
  (0x6DD, 0x6DD, .refused), (0x70E, 0x70F, .refused), (0x74B, 0x74C, .refused),
  (0x7B2, 0x7BF, .refused), (0x7FB, 0x7FC, .refused), (0x82E, 0x82F, .refused),
  (0x83F, 0x83F, .refused), (0x85C, 0x85D, .refused), (0x85F, 0x85F, .refused),
  (0x86B, 0x86F, .refused), (0x890, 0x896, .refused), (0x8E2, 0x8E2, .refused),
  (0x958, 0x95F, .words [
    "क\u093C", "ख\u093C", "ग\u093C", "ज\u093C", "ड\u093C", "ढ\u093C", "फ\u093C", "य\u093C"]),
  (0x984, 0x984, .refused), (0x98D, 0x98E, .refused), (0x991, 0x992, .refused),
  (0x9A9, 0x9A9, .refused), (0x9B1, 0x9B1, .refused), (0x9B3, 0x9B5, .refused),
  (0x9BA, 0x9BB, .refused), (0x9C5, 0x9C6, .refused), (0x9C9, 0x9CA, .refused),
  (0x9CF, 0x9D6, .refused), (0x9D8, 0x9DB, .refused), (0x9DC, 0x9DD, .words ["ড\u09BC", "ঢ\u09BC"]),
  (0x9DE, 0x9DE, .refused), (0x9DF, 0x9DF, .words ["য\u09BC"]), (0x9E4, 0x9E5, .refused),
  (0x9FF, 0xA00, .refused), (0xA04, 0xA04, .refused), (0xA0B, 0xA0E, .refused),
  (0xA11, 0xA12, .refused), (0xA29, 0xA29, .refused), (0xA31, 0xA31, .refused),
  (0xA33, 0xA33, .words ["ਲ\u0A3C"]), (0xA34, 0xA34, .refused), (0xA36, 0xA36, .words ["ਸ\u0A3C"]),
  (0xA37, 0xA37, .refused), (0xA3A, 0xA3B, .refused), (0xA3D, 0xA3D, .refused),
  (0xA43, 0xA46, .refused), (0xA49, 0xA4A, .refused), (0xA4E, 0xA50, .refused),
  (0xA52, 0xA58, .refused), (0xA59, 0xA5B, .words ["ਖ\u0A3C", "ਗ\u0A3C", "ਜ\u0A3C"]),
  (0xA5D, 0xA5D, .refused), (0xA5E, 0xA5E, .words ["ਫ\u0A3C"]), (0xA5F, 0xA65, .refused),
  (0xA77, 0xA80, .refused), (0xA84, 0xA84, .refused), (0xA8E, 0xA8E, .refused),
  (0xA92, 0xA92, .refused), (0xAA9, 0xAA9, .refused), (0xAB1, 0xAB1, .refused),
  (0xAB4, 0xAB4, .refused), (0xABA, 0xABB, .refused), (0xAC6, 0xAC6, .refused),
  (0xACA, 0xACA, .refused), (0xACE, 0xACF, .refused), (0xAD1, 0xADF, .refused),
  (0xAE4, 0xAE5, .refused), (0xAF2, 0xAF8, .refused), (0xB00, 0xB00, .refused),
  (0xB04, 0xB04, .refused), (0xB0D, 0xB0E, .refused), (0xB11, 0xB12, .refused),
  (0xB29, 0xB29, .refused), (0xB31, 0xB31, .refused), (0xB34, 0xB34, .refused),
  (0xB3A, 0xB3B, .refused), (0xB45, 0xB46, .refused), (0xB49, 0xB4A, .refused),
  (0xB4E, 0xB54, .refused), (0xB58, 0xB5B, .refused), (0xB5C, 0xB5D, .words ["ଡ\u0B3C", "ଢ\u0B3C"]),
  (0xB5E, 0xB5E, .refused), (0xB64, 0xB65, .refused), (0xB78, 0xB81, .refused),
  (0xB84, 0xB84, .refused), (0xB8B, 0xB8D, .refused), (0xB91, 0xB91, .refused),
  (0xB96, 0xB98, .refused), (0xB9B, 0xB9B, .refused), (0xB9D, 0xB9D, .refused),
  (0xBA0, 0xBA2, .refused), (0xBA5, 0xBA7, .refused), (0xBAB, 0xBAD, .refused),
  (0xBBA, 0xBBD, .refused), (0xBC3, 0xBC5, .refused), (0xBC9, 0xBC9, .refused),
  (0xBCE, 0xBCF, .refused), (0xBD1, 0xBD6, .refused), (0xBD8, 0xBE5, .refused),
  (0xBFB, 0xBFF, .refused), (0xC0D, 0xC0D, .refused), (0xC11, 0xC11, .refused),
  (0xC29, 0xC29, .refused), (0xC3A, 0xC3B, .refused), (0xC45, 0xC45, .refused),
  (0xC49, 0xC49, .refused), (0xC4E, 0xC54, .refused), (0xC57, 0xC57, .refused),
  (0xC5B, 0xC5B, .refused), (0xC5E, 0xC5F, .refused), (0xC64, 0xC65, .refused),
  (0xC70, 0xC76, .refused), (0xC8D, 0xC8D, .refused), (0xC91, 0xC91, .refused),
  (0xCA9, 0xCA9, .refused), (0xCB4, 0xCB4, .refused), (0xCBA, 0xCBB, .refused),
  (0xCC5, 0xCC5, .refused), (0xCC9, 0xCC9, .refused), (0xCCE, 0xCD4, .refused),
  (0xCD7, 0xCDB, .refused), (0xCDF, 0xCDF, .refused), (0xCE4, 0xCE5, .refused),
  (0xCF0, 0xCF0, .refused), (0xCF4, 0xCFF, .refused), (0xD0D, 0xD0D, .refused),
  (0xD11, 0xD11, .refused), (0xD45, 0xD45, .refused), (0xD49, 0xD49, .refused),
  (0xD50, 0xD53, .refused), (0xD64, 0xD65, .refused), (0xD80, 0xD80, .refused),
  (0xD84, 0xD84, .refused), (0xD97, 0xD99, .refused), (0xDB2, 0xDB2, .refused),
  (0xDBC, 0xDBC, .refused), (0xDBE, 0xDBF, .refused), (0xDC7, 0xDC9, .refused),
  (0xDCB, 0xDCE, .refused), (0xDD5, 0xDD5, .refused), (0xDD7, 0xDD7, .refused),
  (0xDE0, 0xDE5, .refused), (0xDF0, 0xDF1, .refused), (0xDF5, 0xE00, .refused),
  (0xE33, 0xE33, .words ["\u0E4Dา"]), (0xE3B, 0xE3E, .refused), (0xE5C, 0xE80, .refused),
  (0xE83, 0xE83, .refused), (0xE85, 0xE85, .refused), (0xE8B, 0xE8B, .refused),
  (0xEA4, 0xEA4, .refused), (0xEA6, 0xEA6, .refused), (0xEB3, 0xEB3, .words ["\u0ECDາ"]),
  (0xEBE, 0xEBF, .refused), (0xEC5, 0xEC5, .refused), (0xEC7, 0xEC7, .refused),
  (0xECF, 0xECF, .refused), (0xEDA, 0xEDB, .refused), (0xEDC, 0xEDD, .words ["ຫນ", "ຫມ"]),
  (0xEE0, 0xEFF, .refused), (0xF0C, 0xF0C, .letters "་"), (0xF43, 0xF43, .words ["ག\u0FB7"]),
  (0xF48, 0xF48, .refused), (0xF4D, 0xF4D, .words ["ཌ\u0FB7"]), (0xF52, 0xF52, .words ["ད\u0FB7"]),
  (0xF57, 0xF57, .words ["བ\u0FB7"]), (0xF5C, 0xF5C, .words ["ཛ\u0FB7"]),
  (0xF69, 0xF69, .words ["ཀ\u0FB5"]), (0xF6D, 0xF70, .refused),
  (0xF73, 0xF73, .words ["\u0F71\u0F72"]),
  (0xF75, 0xF79, .words [
    "\u0F71\u0F74", "\u0FB2\u0F80", "\u0FB2\u0F71\u0F80", "\u0FB3\u0F80", "\u0FB3\u0F71\u0F80"]),
  (0xF81, 0xF81, .words ["\u0F71\u0F80"]), (0xF93, 0xF93, .words ["\u0F92\u0FB7"]),
  (0xF98, 0xF98, .refused), (0xF9D, 0xF9D, .words ["\u0F9C\u0FB7"]),
  (0xFA2, 0xFA2, .words ["\u0FA1\u0FB7"]), (0xFA7, 0xFA7, .words ["\u0FA6\u0FB7"]),
  (0xFAC, 0xFAC, .words ["\u0FAB\u0FB7"]), (0xFB9, 0xFB9, .words ["\u0F90\u0FB5"]),
  (0xFBD, 0xFBD, .refused), (0xFCD, 0xFCD, .refused), (0xFDB, 0xFFF, .refused),
  (0x10A0, 0x10C5, .shifted 7264), (0x10C6, 0x10C6, .refused), (0x10C7, 0x10C7, .letters "ⴧ"),
  (0x10C8, 0x10CC, .refused), (0x10CD, 0x10CD, .letters "ⴭ"), (0x10CE, 0x10CF, .refused),
  (0x10FC, 0x10FC, .letters "ნ"), (0x115F, 0x1160, .dropped), (0x1249, 0x1249, .refused),
  (0x124E, 0x124F, .refused), (0x1257, 0x1257, .refused), (0x1259, 0x1259, .refused),
  (0x125E, 0x125F, .refused), (0x1289, 0x1289, .refused), (0x128E, 0x128F, .refused),
  (0x12B1, 0x12B1, .refused), (0x12B6, 0x12B7, .refused), (0x12BF, 0x12BF, .refused),
  (0x12C1, 0x12C1, .refused), (0x12C6, 0x12C7, .refused), (0x12D7, 0x12D7, .refused),
  (0x1311, 0x1311, .refused), (0x1316, 0x1317, .refused), (0x135B, 0x135C, .refused),
  (0x137D, 0x137F, .refused), (0x139A, 0x139F, .refused), (0x13F6, 0x13F7, .refused),
  (0x13F8, 0x13FD, .shifted (-8)), (0x13FE, 0x13FF, .refused), (0x1680, 0x1680, .refused),
  (0x169D, 0x169F, .refused), (0x16F9, 0x16FF, .refused), (0x1716, 0x171E, .refused),
  (0x1737, 0x173F, .refused), (0x1754, 0x175F, .refused), (0x176D, 0x176D, .refused),
  (0x1771, 0x1771, .refused), (0x1774, 0x177F, .refused), (0x17B4, 0x17B5, .dropped),
  (0x17DE, 0x17DF, .refused), (0x17EA, 0x17EF, .refused), (0x17FA, 0x17FF, .refused),
  (0x180B, 0x180F, .dropped), (0x181A, 0x181F, .refused), (0x1879, 0x187F, .refused),
  (0x18AB, 0x18AF, .refused), (0x18F6, 0x18FF, .refused), (0x191F, 0x191F, .refused),
  (0x192C, 0x192F, .refused), (0x193C, 0x193F, .refused), (0x1941, 0x1943, .refused),
  (0x196E, 0x196F, .refused), (0x1975, 0x197F, .refused), (0x19AC, 0x19AF, .refused),
  (0x19CA, 0x19CF, .refused), (0x19DB, 0x19DD, .refused), (0x1A1C, 0x1A1D, .refused),
  (0x1A5F, 0x1A5F, .refused), (0x1A7D, 0x1A7E, .refused), (0x1A8A, 0x1A8F, .refused),
  (0x1A9A, 0x1A9F, .refused), (0x1AAE, 0x1AAF, .refused), (0x1ADE, 0x1ADF, .refused),
  (0x1AEC, 0x1AFF, .refused), (0x1B4D, 0x1B4D, .refused), (0x1BF4, 0x1BFB, .refused),
  (0x1C38, 0x1C3A, .refused), (0x1C4A, 0x1C4C, .refused), (0x1C80, 0x1C89, .letters "вдосттъѣꙋᲊ"),
  (0x1C8B, 0x1C8F, .refused), (0x1C90, 0x1CBA, .shifted (-3008)), (0x1CBB, 0x1CBC, .refused),
  (0x1CBD, 0x1CBF, .shifted (-3008)), (0x1CC8, 0x1CCF, .refused), (0x1CFB, 0x1CFF, .refused),
  (0x1D2C, 0x1D2E, .letters "aæb"), (0x1D30, 0x1D32, .letters "deǝ"),
  (0x1D33, 0x1D3A, .shifted (-7372)), (0x1D3C, 0x1D4D, .letters "oȣprtuwaɐɑᴂbdeəɛɜg"),
  (0x1D4F, 0x1D6A, .letters "kmŋoɔᴖᴗptuᴝɯvᴥβγδφχiruvβγρφχ"), (0x1D78, 0x1D78, .letters "н"),
  (0x1D9B, 0x1DBF, .letters "ɒcɕðɜfɟɡɥɨɩɪᵻʝɭᶅʟɱɰɲɳɴɵɸʂʃƫʉʊᴜʋʌzʐʑʒθ"), (0x1E00, 0x1E94, .paired),
  (0x1E9A, 0x1E9A, .words ["a\u02BE"]), (0x1E9B, 0x1E9B, .letters "ṡ"),
  (0x1E9E, 0x1E9E, .letters "ß"), (0x1EA0, 0x1EFE, .paired), (0x1F08, 0x1F0F, .shifted (-8)),
  (0x1F16, 0x1F17, .refused), (0x1F18, 0x1F1D, .shifted (-8)), (0x1F1E, 0x1F1F, .refused),
  (0x1F28, 0x1F2F, .shifted (-8)), (0x1F38, 0x1F3F, .shifted (-8)), (0x1F46, 0x1F47, .refused),
  (0x1F48, 0x1F4D, .shifted (-8)), (0x1F4E, 0x1F4F, .refused), (0x1F58, 0x1F58, .refused),
  (0x1F59, 0x1F59, .letters "ὑ"), (0x1F5A, 0x1F5A, .refused), (0x1F5B, 0x1F5B, .letters "ὓ"),
  (0x1F5C, 0x1F5C, .refused), (0x1F5D, 0x1F5D, .letters "ὕ"), (0x1F5E, 0x1F5E, .refused),
  (0x1F5F, 0x1F5F, .letters "ὗ"), (0x1F68, 0x1F6F, .shifted (-8)), (0x1F71, 0x1F71, .letters "ά"),
  (0x1F73, 0x1F73, .letters "έ"), (0x1F75, 0x1F75, .letters "ή"), (0x1F77, 0x1F77, .letters "ί"),
  (0x1F79, 0x1F79, .letters "ό"), (0x1F7B, 0x1F7B, .letters "ύ"), (0x1F7D, 0x1F7D, .letters "ώ"),
  (0x1F7E, 0x1F7F, .refused),
  (0x1F80, 0x1FAF, .words [
    "ἀι", "ἁι", "ἂι", "ἃι", "ἄι", "ἅι", "ἆι", "ἇι", "ἀι", "ἁι", "ἂι", "ἃι", "ἄι", "ἅι", "ἆι",
    "ἇι", "ἠι", "ἡι", "ἢι", "ἣι", "ἤι", "ἥι", "ἦι", "ἧι", "ἠι", "ἡι", "ἢι", "ἣι", "ἤι", "ἥι",
    "ἦι", "ἧι", "ὠι", "ὡι", "ὢι", "ὣι", "ὤι", "ὥι", "ὦι", "ὧι", "ὠι", "ὡι", "ὢι", "ὣι", "ὤι",
    "ὥι", "ὦι", "ὧι"]),
  (0x1FB2, 0x1FB4, .words ["ὰι", "αι", "άι"]), (0x1FB5, 0x1FB5, .refused),
  (0x1FB7, 0x1FB7, .words ["ᾶι"]), (0x1FB8, 0x1FBB, .letters "ᾰᾱὰά"),
  (0x1FBC, 0x1FBD, .words ["αι", " \u0313"]), (0x1FBE, 0x1FBE, .letters "ι"),
  (0x1FBF, 0x1FC4, .words [" \u0313", " \u0342", " \u0308\u0342", "ὴι", "ηι", "ήι"]),
  (0x1FC5, 0x1FC5, .refused), (0x1FC7, 0x1FC7, .words ["ῆι"]), (0x1FC8, 0x1FCB, .letters "ὲέὴή"),
  (0x1FCC, 0x1FCF, .words ["ηι", " \u0313\u0300", " \u0313\u0301", " \u0313\u0342"]),
  (0x1FD3, 0x1FD3, .letters "ΐ"), (0x1FD4, 0x1FD5, .refused), (0x1FD8, 0x1FDB, .letters "ῐῑὶί"),
  (0x1FDC, 0x1FDC, .refused),
  (0x1FDD, 0x1FDF, .words [" \u0314\u0300", " \u0314\u0301", " \u0314\u0342"]),
  (0x1FE3, 0x1FE3, .letters "ΰ"), (0x1FE8, 0x1FEC, .letters "ῠῡὺύῥ"),
  (0x1FED, 0x1FEE, .words [" \u0308\u0300", " \u0308\u0301"]), (0x1FEF, 0x1FEF, .letters "\u0060"),
  (0x1FF0, 0x1FF1, .refused), (0x1FF2, 0x1FF4, .words ["ὼι", "ωι", "ώι"]),
  (0x1FF5, 0x1FF5, .refused), (0x1FF7, 0x1FF7, .words ["ῶι"]), (0x1FF8, 0x1FFB, .letters "ὸόὼώ"),
  (0x1FFC, 0x1FFE, .words ["ωι", " \u0301", " \u0314"]), (0x1FFF, 0x1FFF, .refused)]

/-- Symbols, syllables, ideographs and forms from U+2000 to U+FFFF. -/
def symbolImages : Text.ClassTable Image := [
  (0x2000, 0x200A, .letters "           "), (0x200B, 0x200B, .dropped), (0x200E, 0x200F, .refused),
  (0x2011, 0x2011, .letters "‐"), (0x2017, 0x2017, .words [" \u0333"]), (0x2024, 0x2026, .refused),
  (0x2028, 0x202E, .refused), (0x202F, 0x202F, .letters " "),
  (0x2033, 0x2034, .words ["′′", "′′′"]), (0x2036, 0x2037, .words ["‵‵", "‵‵‵"]),
  (0x203C, 0x203C, .words ["!!"]), (0x203E, 0x203E, .words [" \u0305"]),
  (0x2047, 0x2049, .words ["??", "?!", "!?"]), (0x2057, 0x2057, .words ["′′′′"]),
  (0x205F, 0x205F, .letters " "), (0x2060, 0x2064, .dropped), (0x2065, 0x2069, .refused),
  (0x206A, 0x206F, .dropped), (0x2070, 0x2071, .letters "0i"), (0x2072, 0x2073, .refused),
  (0x2074, 0x2079, .shifted (-8256)), (0x207A, 0x207F, .letters "+−=()n"),
  (0x2080, 0x2089, .shifted (-8272)), (0x208A, 0x208E, .letters "+−=()"),
  (0x208F, 0x208F, .refused), (0x2090, 0x209C, .letters "aeoxəhklmnpst"),
  (0x209D, 0x209F, .refused), (0x20A8, 0x20A8, .words ["rs"]), (0x20C2, 0x20CF, .refused),
  (0x20F1, 0x20FF, .refused), (0x2100, 0x2101, .words ["a/c", "a/s"]),
  (0x2102, 0x2102, .letters "c"), (0x2103, 0x2103, .words ["°c"]),
  (0x2105, 0x2106, .words ["c/o", "c/u"]), (0x2107, 0x2107, .letters "ɛ"),
  (0x2109, 0x2109, .words ["°f"]), (0x210A, 0x2113, .letters "ghhhhħiill"),
  (0x2115, 0x2115, .letters "n"), (0x2116, 0x2116, .words ["no"]),
  (0x2119, 0x211B, .shifted (-8361)), (0x211C, 0x211D, .letters "rr"),
  (0x2120, 0x2122, .words ["sm", "tel", "tm"]), (0x2124, 0x2124, .letters "z"),
  (0x2126, 0x2126, .letters "ω"), (0x2128, 0x2128, .letters "z"), (0x212A, 0x212D, .letters "kåbc"),
  (0x212F, 0x2139, .letters "eefⅎmo\u05D0\u05D1\u05D2\u05D3i"), (0x213B, 0x213B, .words ["fax"]),
  (0x213C, 0x2140, .letters "πγγπ∑"), (0x2145, 0x2149, .letters "ddeij"),
  (0x2150, 0x215F, .words [
    "1⁄7", "1⁄9", "1⁄10", "1⁄3", "2⁄3", "1⁄5", "2⁄5", "3⁄5", "4⁄5", "1⁄6", "5⁄6", "1⁄8", "3⁄8",
    "5⁄8", "7⁄8", "1⁄"]),
  (0x2160, 0x2160, .letters "i"), (0x2161, 0x2163, .words ["ii", "iii", "iv"]),
  (0x2164, 0x2164, .letters "v"), (0x2165, 0x2168, .words ["vi", "vii", "viii", "ix"]),
  (0x2169, 0x2169, .letters "x"), (0x216A, 0x216B, .words ["xi", "xii"]),
  (0x216C, 0x2170, .letters "lcdmi"), (0x2171, 0x2173, .words ["ii", "iii", "iv"]),
  (0x2174, 0x2174, .letters "v"), (0x2175, 0x2178, .words ["vi", "vii", "viii", "ix"]),
  (0x2179, 0x2179, .letters "x"), (0x217A, 0x217B, .words ["xi", "xii"]),
  (0x217C, 0x217F, .letters "lcdm"), (0x2183, 0x2183, .letters "ↄ"),
  (0x2189, 0x2189, .words ["0⁄3"]), (0x218C, 0x218F, .refused),
  (0x222C, 0x222D, .words ["∫∫", "∫∫∫"]), (0x222F, 0x2230, .words ["∮∮", "∮∮∮"]),
  (0x2329, 0x232A, .letters "〈〉"), (0x242A, 0x243F, .refused), (0x244B, 0x245F, .refused),
  (0x2460, 0x2468, .shifted (-9263)),
  (0x2469, 0x2487, .words [
    "10", "11", "12", "13", "14", "15", "16", "17", "18", "19", "20", "(1)", "(2)", "(3)", "(4)",
    "(5)", "(6)", "(7)", "(8)", "(9)", "(10)", "(11)", "(12)", "(13)", "(14)", "(15)", "(16)",
    "(17)", "(18)", "(19)", "(20)"]),
  (0x2488, 0x249B, .refused),
  (0x249C, 0x24B5, .words [
    "(a)", "(b)", "(c)", "(d)", "(e)", "(f)", "(g)", "(h)", "(i)", "(j)", "(k)", "(l)", "(m)",
    "(n)", "(o)", "(p)", "(q)", "(r)", "(s)", "(t)", "(u)", "(v)", "(w)", "(x)", "(y)", "(z)"]),
  (0x24B6, 0x24CF, .shifted (-9301)), (0x24D0, 0x24E9, .shifted (-9327)),
  (0x24EA, 0x24EA, .letters "0"), (0x2A0C, 0x2A0C, .words ["∫∫∫∫"]),
  (0x2A74, 0x2A76, .words ["::=", "==", "==="]), (0x2ADC, 0x2ADC, .words ["⫝\u0338"]),
  (0x2B74, 0x2B75, .refused), (0x2C00, 0x2C2F, .shifted 48), (0x2C60, 0x2C60, .letters "ⱡ"),
  (0x2C62, 0x2C64, .letters "ɫᵽɽ"), (0x2C67, 0x2C6B, .paired), (0x2C6D, 0x2C70, .letters "ɑɱɐɒ"),
  (0x2C72, 0x2C72, .letters "ⱳ"), (0x2C75, 0x2C75, .letters "ⱶ"),
  (0x2C7C, 0x2C80, .letters "jvȿɀⲁ"), (0x2C82, 0x2CE2, .paired), (0x2CEB, 0x2CED, .paired),
  (0x2CF2, 0x2CF2, .letters "ⳳ"), (0x2CF4, 0x2CF8, .refused), (0x2D26, 0x2D26, .refused),
  (0x2D28, 0x2D2C, .refused), (0x2D2E, 0x2D2F, .refused), (0x2D68, 0x2D6E, .refused),
  (0x2D6F, 0x2D6F, .letters "ⵡ"), (0x2D71, 0x2D7E, .refused), (0x2D97, 0x2D9F, .refused),
  (0x2DA7, 0x2DA7, .refused), (0x2DAF, 0x2DAF, .refused), (0x2DB7, 0x2DB7, .refused),
  (0x2DBF, 0x2DBF, .refused), (0x2DC7, 0x2DC7, .refused), (0x2DCF, 0x2DCF, .refused),
  (0x2DD7, 0x2DD7, .refused), (0x2DDF, 0x2DDF, .refused), (0x2E5E, 0x2E7F, .refused),
  (0x2E9A, 0x2E9A, .refused), (0x2E9F, 0x2E9F, .letters "母"), (0x2EF3, 0x2EF3, .letters "龟"),
  (0x2EF4, 0x2EFF, .refused),
  (0x2F00, 0x2FD5, .letters (
    "一丨丶丿乙亅二亠人儿入八冂冖冫几凵刀力勹匕匚匸十卜卩厂厶又口囗土士夂夊夕大女子宀寸小" ++
    "尢尸屮山巛工己巾干幺广廴廾弋弓彐彡彳心戈戶手支攴文斗斤方无日曰月木欠止歹殳毋比毛氏气" ++
    "水火爪父爻爿片牙牛犬玄玉瓜瓦甘生用田疋疒癶白皮皿目矛矢石示禸禾穴立竹米糸缶网羊羽老而" ++
    "耒耳聿肉臣自至臼舌舛舟艮色艸虍虫血行衣襾見角言谷豆豕豸貝赤走足身車辛辰辵邑酉釆里金長" ++
    "門阜隶隹雨靑非面革韋韭音頁風飛食首香馬骨高髟鬥鬯鬲鬼魚鳥鹵鹿麥麻黃黍黑黹黽鼎鼓鼠鼻齊" ++
    "齒龍龜龠")),
  (0x2FD6, 0x2FFF, .refused), (0x3000, 0x3000, .letters " "), (0x3002, 0x3002, .letters "."),
  (0x3036, 0x3036, .letters "〒"), (0x3038, 0x303A, .letters "十卄卅"), (0x3040, 0x3040, .refused),
  (0x3097, 0x3098, .refused), (0x309B, 0x309C, .words [" \u3099", " \u309A"]),
  (0x309F, 0x309F, .words ["より"]), (0x30FF, 0x30FF, .words ["コト"]), (0x3100, 0x3104, .refused),
  (0x3130, 0x3130, .refused), (0x3131, 0x3139, .letters "ᄀᄁᆪᄂᆬᆭᄃᄄᄅ"),
  (0x313A, 0x313F, .shifted (-8074)), (0x3140, 0x3144, .letters "ᄚᄆᄇᄈᄡ"),
  (0x3145, 0x314E, .shifted (-8252)), (0x314F, 0x3163, .shifted (-8174)),
  (0x3164, 0x3164, .dropped), (0x3165, 0x3177, .letters "ᄔᄕᇇᇈᇌᇎᇓᇗᇙᄜᇝᇟᄝᄞᄠᄢᄣᄧᄩ"),
  (0x3178, 0x317C, .shifted (-8269)), (0x317D, 0x318E, .letters "ᄲᄶᅀᅇᅌᇱᇲᅗᅘᅙᆄᆅᆈᆑᆒᆔᆞᆡ"),
  (0x318F, 0x318F, .refused), (0x3192, 0x319F, .letters "一二三四上中下甲乙丙丁天地人"),
  (0x31E6, 0x31EF, .refused),
  (0x3200, 0x321E, .words [
    "(ᄀ)", "(ᄂ)", "(ᄃ)", "(ᄅ)", "(ᄆ)", "(ᄇ)", "(ᄉ)", "(ᄋ)", "(ᄌ)", "(ᄎ)", "(ᄏ)", "(ᄐ)", "(ᄑ)",
    "(ᄒ)", "(가)", "(나)", "(다)", "(라)", "(마)", "(바)", "(사)", "(아)", "(자)", "(차)", "(카)", "(타)",
    "(파)", "(하)", "(주)", "(오전)", "(오후)"]),
  (0x321F, 0x321F, .refused),
  (0x3220, 0x3243, .words [
    "(一)", "(二)", "(三)", "(四)", "(五)", "(六)", "(七)", "(八)", "(九)", "(十)", "(月)", "(火)", "(水)",
    "(木)", "(金)", "(土)", "(日)", "(株)", "(有)", "(社)", "(名)", "(特)", "(財)", "(祝)", "(労)", "(代)",
    "(呼)", "(学)", "(監)", "(企)", "(資)", "(協)", "(祭)", "(休)", "(自)", "(至)"]),
  (0x3244, 0x3247, .letters "問幼文箏"),
  (0x3250, 0x325F, .words [
    "pte", "21", "22", "23", "24", "25", "26", "27", "28", "29", "30", "31", "32", "33", "34",
    "35"]),
  (0x3260, 0x3268, .letters "ᄀᄂᄃᄅᄆᄇᄉᄋᄌ"), (0x3269, 0x326D, .shifted (-8539)),
  (0x326E, 0x327B, .letters "가나다라마바사아자차카타파하"), (0x327C, 0x327D, .words ["참고", "주의"]),
  (0x327E, 0x327E, .letters "우"),
  (0x3280, 0x32B0, .letters "一二三四五六七八九十月火水木金土日株有社名特財祝労秘男女適優印注項休写正上中下左右医宗学監企資協夜"),
  (0x32B1, 0x32CF, .words [
    "36", "37", "38", "39", "40", "41", "42", "43", "44", "45", "46", "47", "48", "49", "50",
    "1月", "2月", "3月", "4月", "5月", "6月", "7月", "8月", "9月", "10月", "11月", "12月", "hg", "erg", "ev",
    "ltd"]),
  (0x32D0, 0x32E3, .letters "アイウエオカキクケコサシスセソタチツテト"), (0x32E4, 0x32E9, .shifted (-538)),
  (0x32EA, 0x32ED, .letters "ヒフヘホ"), (0x32EE, 0x32F2, .shifted (-528)),
  (0x32F3, 0x32F4, .letters "ヤユ"), (0x32F5, 0x32FA, .shifted (-525)),
  (0x32FB, 0x32FE, .shifted (-524)),
  (0x32FF, 0x33C1, .words [
    "令和", "アパ\u30FCト", "アルファ", "アンペア", "ア\u30FCル", "イニング", "インチ", "ウォン", "エスク\u30FCド",
    "エ\u30FCカ\u30FC", "オンス", "オ\u30FCム", "カイリ", "カラット", "カロリ\u30FC", "ガロン", "ガンマ", "ギガ",
    "ギニ\u30FC", "キュリ\u30FC", "ギルダ\u30FC", "キロ", "キログラム", "キロメ\u30FCトル", "キロワット", "グラム", "グラムトン",
    "クルゼイロ", "クロ\u30FCネ", "ケ\u30FCス", "コルナ", "コ\u30FCポ", "サイクル", "サンチ\u30FCム", "シリング", "センチ",
    "セント", "ダ\u30FCス", "デシ", "ドル", "トン", "ナノ", "ノット", "ハイツ", "パ\u30FCセント", "パ\u30FCツ",
    "バ\u30FCレル", "ピアストル", "ピクル", "ピコ", "ビル", "ファラッド", "フィ\u30FCト", "ブッシェル", "フラン", "ヘクタ\u30FCル",
    "ペソ", "ペニヒ", "ヘルツ", "ペンス", "ペ\u30FCジ", "ベ\u30FCタ", "ポイント", "ボルト", "ホン", "ポンド", "ホ\u30FCル",
    "ホ\u30FCン", "マイクロ", "マイル", "マッハ", "マルク", "マンション", "ミクロン", "ミリ", "ミリバ\u30FCル", "メガ", "メガトン",
    "メ\u30FCトル", "ヤ\u30FCド", "ヤ\u30FCル", "ユアン", "リットル", "リラ", "ルピ\u30FC", "ル\u30FCブル", "レム",
    "レントゲン", "ワット", "0点", "1点", "2点", "3点", "4点", "5点", "6点", "7点", "8点", "9点", "10点", "11点",
    "12点", "13点", "14点", "15点", "16点", "17点", "18点", "19点", "20点", "21点", "22点", "23点", "24点",
    "hpa", "da", "au", "bar", "ov", "pc", "dm", "dm2", "dm3", "iu", "平成", "昭和", "大正", "明治",
    "株式会社", "pa", "na", "μa", "ma", "ka", "kb", "mb", "gb", "cal", "kcal", "pf", "nf", "μf", "μg",
    "mg", "kg", "hz", "khz", "mhz", "ghz", "thz", "μl", "ml", "dl", "kl", "fm", "nm", "μm", "mm",
    "cm", "km", "mm2", "cm2", "m2", "km2", "mm3", "cm3", "m3", "km3", "m∕s", "m∕s2", "pa", "kpa",
    "mpa", "gpa", "rad", "rad∕s", "rad∕s2", "ps", "ns", "μs", "ms", "pv", "nv", "μv", "mv", "kv",
    "mv", "pw", "nw", "μw", "mw", "kw", "mw", "kω", "mω"]),
  (0x33C2, 0x33C2, .refused), (0x33C3, 0x33C6, .words ["bq", "cc", "cd", "c∕kg"]),
  (0x33C7, 0x33C7, .refused),
  (0x33C8, 0x33D7, .words [
    "db", "gy", "ha", "hp", "in", "kk", "km", "kt", "lm", "ln", "log", "lx", "mb", "mil", "mol",
    "ph"]),
  (0x33D8, 0x33D8, .refused),
  (0x33D9, 0x33FF, .words [
    "ppm", "pr", "sr", "sv", "wb", "v∕m", "a∕m", "1日", "2日", "3日", "4日", "5日", "6日", "7日", "8日",
    "9日", "10日", "11日", "12日", "13日", "14日", "15日", "16日", "17日", "18日", "19日", "20日", "21日",
    "22日", "23日", "24日", "25日", "26日", "27日", "28日", "29日", "30日", "31日", "gal"]),
  (0xA48D, 0xA48F, .refused), (0xA4C7, 0xA4CF, .refused), (0xA62C, 0xA63F, .refused),
  (0xA640, 0xA66C, .paired), (0xA680, 0xA69A, .paired), (0xA69C, 0xA69D, .letters "ъь"),
  (0xA6F8, 0xA6FF, .refused), (0xA722, 0xA72E, .paired), (0xA732, 0xA76E, .paired),
  (0xA770, 0xA770, .letters "ꝯ"), (0xA779, 0xA77B, .paired), (0xA77D, 0xA77E, .letters "ᵹꝿ"),
  (0xA780, 0xA786, .paired), (0xA78B, 0xA78B, .letters "ꞌ"), (0xA78D, 0xA78D, .letters "ɥ"),
  (0xA790, 0xA792, .paired), (0xA796, 0xA7A8, .paired), (0xA7AA, 0xA7AE, .letters "ɦɜɡɬɪ"),
  (0xA7B0, 0xA7B4, .letters "ʞʇʝꭓꞵ"), (0xA7B6, 0xA7C2, .paired), (0xA7C4, 0xA7C7, .letters "ꞔʂᶎꟈ"),
  (0xA7C9, 0xA7C9, .letters "ꟊ"), (0xA7CB, 0xA7CC, .letters "ɤꟍ"), (0xA7CE, 0xA7DA, .paired),
  (0xA7DC, 0xA7DC, .letters "ƛ"), (0xA7DD, 0xA7F0, .refused), (0xA7F1, 0xA7F5, .letters "scfqꟶ"),
  (0xA7F8, 0xA7F9, .letters "ħœ"), (0xA82D, 0xA82F, .refused), (0xA83A, 0xA83F, .refused),
  (0xA878, 0xA87F, .refused), (0xA8C6, 0xA8CD, .refused), (0xA8DA, 0xA8DF, .refused),
  (0xA954, 0xA95E, .refused), (0xA97D, 0xA97F, .refused), (0xA9CE, 0xA9CE, .refused),
  (0xA9DA, 0xA9DD, .refused), (0xA9FF, 0xA9FF, .refused), (0xAA37, 0xAA3F, .refused),
  (0xAA4E, 0xAA4F, .refused), (0xAA5A, 0xAA5B, .refused), (0xAAC3, 0xAADA, .refused),
  (0xAAF7, 0xAB00, .refused), (0xAB07, 0xAB08, .refused), (0xAB0F, 0xAB10, .refused),
  (0xAB17, 0xAB1F, .refused), (0xAB27, 0xAB27, .refused), (0xAB2F, 0xAB2F, .refused),
  (0xAB5C, 0xAB5F, .letters "ꜧꬷɫꭒ"), (0xAB69, 0xAB69, .letters "ʍ"), (0xAB6C, 0xAB6F, .refused),
  (0xAB70, 0xABBF, .shifted (-38864)), (0xABEE, 0xABEF, .refused), (0xABFA, 0xABFF, .refused),
  (0xD7A4, 0xD7AF, .refused), (0xD7C7, 0xD7CA, .refused), (0xD7FC, 0xF8FF, .refused),
  (0xF900, 0xFA0D, .letters (
    "豈更車賈滑串句龜龜契金喇奈懶癩羅蘿螺裸邏樂洛烙珞落酪駱亂卵欄爛蘭鸞嵐濫藍襤拉臘蠟廊朗" ++
    "浪狼郎來冷勞擄櫓爐盧老蘆虜路露魯鷺碌祿綠菉錄鹿論壟弄籠聾牢磊賂雷壘屢樓淚漏累縷陋勒肋" ++
    "凜凌稜綾菱陵讀拏樂諾丹寧怒率異北磻便復不泌數索參塞省葉說殺辰沈拾若掠略亮兩凉梁糧良諒" ++
    "量勵呂女廬旅濾礪閭驪麗黎力曆歷轢年憐戀撚漣煉璉秊練聯輦蓮連鍊列劣咽烈裂說廉念捻殮簾獵" ++
    "令囹寧嶺怜玲瑩羚聆鈴零靈領例禮醴隸惡了僚寮尿料樂燎療蓼遼龍暈阮劉杻柳流溜琉留硫紐類六" ++
    "戮陸倫崙淪輪律慄栗率隆利吏履易李梨泥理痢罹裏裡里離匿溺吝燐璘藺隣鱗麟林淋臨立笠粒狀炙" ++
    "識什茶刺切度拓糖宅洞暴輻行降見廓兀嗀")),
  (0xFA10, 0xFA10, .letters "塚"), (0xFA12, 0xFA12, .letters "晴"),
  (0xFA15, 0xFA1E, .letters "凞猪益礼神祥福靖精羽"), (0xFA20, 0xFA20, .letters "蘒"),
  (0xFA22, 0xFA22, .letters "諸"), (0xFA25, 0xFA26, .letters "逸都"),
  (0xFA2A, 0xFA6D, .letters (
    "飯飼館鶴郞隷侮僧免勉勤卑喝嘆器塀墨層屮悔慨憎懲敏既暑梅海渚漢煮爫琢碑社祉祈祐祖祝禍禎" ++
    "穀突節練縉繁署者臭艹艹著褐視謁謹賓贈辶逸難響頻恵𤋮舘")),
  (0xFA6E, 0xFA6F, .refused),
  (0xFA70, 0xFAD9, .letters (
    "並况全侀充冀勇勺喝啕喙嗢塚墳奄奔婢嬨廒廙彩徭惘慎愈憎慠懲戴揄搜摒敖晴朗望杖歹殺流滛滋" ++
    "漢瀞煮瞧爵犯猪瑱甆画瘝瘟益盛直睊着磌窱節类絛練缾者荒華蝹襁覆視調諸請謁諾諭謹變贈輸遲" ++
    "醙鉶陼難靖韛響頋頻鬒龜𢡊𢡄𣏕㮝䀘䀹𥉉𥳐𧻓齃龎")),
  (0xFADA, 0xFAFF, .refused), (0xFB00, 0xFB06, .words ["ff", "fi", "fl", "ffi", "ffl", "st", "st"]),
  (0xFB07, 0xFB12, .refused), (0xFB13, 0xFB17, .words ["մն", "մե", "մի", "վն", "մխ"]),
  (0xFB18, 0xFB1C, .refused), (0xFB1D, 0xFB1D, .words ["\u05D9\u05B4"]),
  (0xFB1F, 0xFB1F, .words ["\u05F2\u05B7"]),
  (0xFB20, 0xFB29, .letters "\u05E2\u05D0\u05D3\u05D4\u05DB\u05DC\u05DD\u05E8\u05EA+"),
  (0xFB2A, 0xFB36, .words [
    "\u05E9\u05C1", "\u05E9\u05C2", "\u05E9\u05BC\u05C1", "\u05E9\u05BC\u05C2", "\u05D0\u05B7",
    "\u05D0\u05B8", "\u05D0\u05BC", "\u05D1\u05BC", "\u05D2\u05BC", "\u05D3\u05BC",
    "\u05D4\u05BC", "\u05D5\u05BC", "\u05D6\u05BC"]),
  (0xFB37, 0xFB37, .refused),
  (0xFB38, 0xFB3C, .words [
    "\u05D8\u05BC", "\u05D9\u05BC", "\u05DA\u05BC", "\u05DB\u05BC", "\u05DC\u05BC"]),
  (0xFB3D, 0xFB3D, .refused), (0xFB3E, 0xFB3E, .words ["\u05DE\u05BC"]), (0xFB3F, 0xFB3F, .refused),
  (0xFB40, 0xFB41, .words ["\u05E0\u05BC", "\u05E1\u05BC"]), (0xFB42, 0xFB42, .refused),
  (0xFB43, 0xFB44, .words ["\u05E3\u05BC", "\u05E4\u05BC"]), (0xFB45, 0xFB45, .refused),
  (0xFB46, 0xFB4F, .words [
    "\u05E6\u05BC", "\u05E7\u05BC", "\u05E8\u05BC", "\u05E9\u05BC", "\u05EA\u05BC",
    "\u05D5\u05B9", "\u05D1\u05BF", "\u05DB\u05BF", "\u05E4\u05BF", "\u05D0\u05DC"]),
  (0xFB50, 0xFBB1, .letters (
    "\u0671\u0671\u067B\u067B\u067B\u067B\u067E\u067E\u067E\u067E\u0680\u0680\u0680\u0680" ++
    "\u067A\u067A\u067A\u067A\u067F\u067F\u067F\u067F\u0679\u0679\u0679\u0679\u06A4\u06A4" ++
    "\u06A4\u06A4\u06A6\u06A6\u06A6\u06A6\u0684\u0684\u0684\u0684\u0683\u0683\u0683\u0683" ++
    "\u0686\u0686\u0686\u0686\u0687\u0687\u0687\u0687\u068D\u068D\u068C\u068C\u068E\u068E" ++
    "\u0688\u0688\u0698\u0698\u0691\u0691\u06A9\u06A9\u06A9\u06A9\u06AF\u06AF\u06AF\u06AF" ++
    "\u06B3\u06B3\u06B3\u06B3\u06B1\u06B1\u06B1\u06B1\u06BA\u06BA\u06BB\u06BB\u06BB\u06BB" ++
    "\u06C0\u06C0\u06C1\u06C1\u06C1\u06C1\u06BE\u06BE\u06BE\u06BE\u06D2\u06D2\u06D3\u06D3")),
  (0xFBD3, 0xFBDC, .letters "\u06AD\u06AD\u06AD\u06AD\u06C7\u06C7\u06C6\u06C6\u06C8\u06C8"),
  (0xFBDD, 0xFBDD, .words ["\u06C7\u0674"]),
  (0xFBDE, 0xFBE9, .letters (
    "\u06CB\u06CB\u06C5\u06C5\u06C9\u06C9\u06D0\u06D0\u06D0\u06D0\u0649\u0649")),
  (0xFBEA, 0xFBFB, .words [
    "\u0626\u0627", "\u0626\u0627", "\u0626\u06D5", "\u0626\u06D5", "\u0626\u0648",
    "\u0626\u0648", "\u0626\u06C7", "\u0626\u06C7", "\u0626\u06C6", "\u0626\u06C6",
    "\u0626\u06C8", "\u0626\u06C8", "\u0626\u06D0", "\u0626\u06D0", "\u0626\u06D0",
    "\u0626\u0649", "\u0626\u0649", "\u0626\u0649"]),
  (0xFBFC, 0xFBFF, .letters "\u06CC\u06CC\u06CC\u06CC"),
  (0xFC00, 0xFD3D, .words [
    "\u0626\u062C", "\u0626\u062D", "\u0626\u0645", "\u0626\u0649", "\u0626\u064A",
    "\u0628\u062C", "\u0628\u062D", "\u0628\u062E", "\u0628\u0645", "\u0628\u0649",
    "\u0628\u064A", "\u062A\u062C", "\u062A\u062D", "\u062A\u062E", "\u062A\u0645",
    "\u062A\u0649", "\u062A\u064A", "\u062B\u062C", "\u062B\u0645", "\u062B\u0649",
    "\u062B\u064A", "\u062C\u062D", "\u062C\u0645", "\u062D\u062C", "\u062D\u0645",
    "\u062E\u062C", "\u062E\u062D", "\u062E\u0645", "\u0633\u062C", "\u0633\u062D",
    "\u0633\u062E", "\u0633\u0645", "\u0635\u062D", "\u0635\u0645", "\u0636\u062C",
    "\u0636\u062D", "\u0636\u062E", "\u0636\u0645", "\u0637\u062D", "\u0637\u0645",
    "\u0638\u0645", "\u0639\u062C", "\u0639\u0645", "\u063A\u062C", "\u063A\u0645",
    "\u0641\u062C", "\u0641\u062D", "\u0641\u062E", "\u0641\u0645", "\u0641\u0649",
    "\u0641\u064A", "\u0642\u062D", "\u0642\u0645", "\u0642\u0649", "\u0642\u064A",
    "\u0643\u0627", "\u0643\u062C", "\u0643\u062D", "\u0643\u062E", "\u0643\u0644",
    "\u0643\u0645", "\u0643\u0649", "\u0643\u064A", "\u0644\u062C", "\u0644\u062D",
    "\u0644\u062E", "\u0644\u0645", "\u0644\u0649", "\u0644\u064A", "\u0645\u062C",
    "\u0645\u062D", "\u0645\u062E", "\u0645\u0645", "\u0645\u0649", "\u0645\u064A",
    "\u0646\u062C", "\u0646\u062D", "\u0646\u062E", "\u0646\u0645", "\u0646\u0649",
    "\u0646\u064A", "\u0647\u062C", "\u0647\u0645", "\u0647\u0649", "\u0647\u064A",
    "\u064A\u062C", "\u064A\u062D", "\u064A\u062E", "\u064A\u0645", "\u064A\u0649",
    "\u064A\u064A", "\u0630\u0670", "\u0631\u0670", "\u0649\u0670", " \u064C\u0651",
    " \u064D\u0651", " \u064E\u0651", " \u064F\u0651", " \u0650\u0651", " \u0651\u0670",
    "\u0626\u0631", "\u0626\u0632", "\u0626\u0645", "\u0626\u0646", "\u0626\u0649",
    "\u0626\u064A", "\u0628\u0631", "\u0628\u0632", "\u0628\u0645", "\u0628\u0646",
    "\u0628\u0649", "\u0628\u064A", "\u062A\u0631", "\u062A\u0632", "\u062A\u0645",
    "\u062A\u0646", "\u062A\u0649", "\u062A\u064A", "\u062B\u0631", "\u062B\u0632",
    "\u062B\u0645", "\u062B\u0646", "\u062B\u0649", "\u062B\u064A", "\u0641\u0649",
    "\u0641\u064A", "\u0642\u0649", "\u0642\u064A", "\u0643\u0627", "\u0643\u0644",
    "\u0643\u0645", "\u0643\u0649", "\u0643\u064A", "\u0644\u0645", "\u0644\u0649",
    "\u0644\u064A", "\u0645\u0627", "\u0645\u0645", "\u0646\u0631", "\u0646\u0632",
    "\u0646\u0645", "\u0646\u0646", "\u0646\u0649", "\u0646\u064A", "\u0649\u0670",
    "\u064A\u0631", "\u064A\u0632", "\u064A\u0645", "\u064A\u0646", "\u064A\u0649",
    "\u064A\u064A", "\u0626\u062C", "\u0626\u062D", "\u0626\u062E", "\u0626\u0645",
    "\u0626\u0647", "\u0628\u062C", "\u0628\u062D", "\u0628\u062E", "\u0628\u0645",
    "\u0628\u0647", "\u062A\u062C", "\u062A\u062D", "\u062A\u062E", "\u062A\u0645",
    "\u062A\u0647", "\u062B\u0645", "\u062C\u062D", "\u062C\u0645", "\u062D\u062C",
    "\u062D\u0645", "\u062E\u062C", "\u062E\u0645", "\u0633\u062C", "\u0633\u062D",
    "\u0633\u062E", "\u0633\u0645", "\u0635\u062D", "\u0635\u062E", "\u0635\u0645",
    "\u0636\u062C", "\u0636\u062D", "\u0636\u062E", "\u0636\u0645", "\u0637\u062D",
    "\u0638\u0645", "\u0639\u062C", "\u0639\u0645", "\u063A\u062C", "\u063A\u0645",
    "\u0641\u062C", "\u0641\u062D", "\u0641\u062E", "\u0641\u0645", "\u0642\u062D",
    "\u0642\u0645", "\u0643\u062C", "\u0643\u062D", "\u0643\u062E", "\u0643\u0644",
    "\u0643\u0645", "\u0644\u062C", "\u0644\u062D", "\u0644\u062E", "\u0644\u0645",
    "\u0644\u0647", "\u0645\u062C", "\u0645\u062D", "\u0645\u062E", "\u0645\u0645",
    "\u0646\u062C", "\u0646\u062D", "\u0646\u062E", "\u0646\u0645", "\u0646\u0647",
    "\u0647\u062C", "\u0647\u0645", "\u0647\u0670", "\u064A\u062C", "\u064A\u062D",
    "\u064A\u062E", "\u064A\u0645", "\u064A\u0647", "\u0626\u0645", "\u0626\u0647",
    "\u0628\u0645", "\u0628\u0647", "\u062A\u0645", "\u062A\u0647", "\u062B\u0645",
    "\u062B\u0647", "\u0633\u0645", "\u0633\u0647", "\u0634\u0645", "\u0634\u0647",
    "\u0643\u0644", "\u0643\u0645", "\u0644\u0645", "\u0646\u0645", "\u0646\u0647",
    "\u064A\u0645", "\u064A\u0647", "\u0640\u064E\u0651", "\u0640\u064F\u0651",
    "\u0640\u0650\u0651", "\u0637\u0649", "\u0637\u064A", "\u0639\u0649", "\u0639\u064A",
    "\u063A\u0649", "\u063A\u064A", "\u0633\u0649", "\u0633\u064A", "\u0634\u0649",
    "\u0634\u064A", "\u062D\u0649", "\u062D\u064A", "\u062C\u0649", "\u062C\u064A",
    "\u062E\u0649", "\u062E\u064A", "\u0635\u0649", "\u0635\u064A", "\u0636\u0649",
    "\u0636\u064A", "\u0634\u062C", "\u0634\u062D", "\u0634\u062E", "\u0634\u0645",
    "\u0634\u0631", "\u0633\u0631", "\u0635\u0631", "\u0636\u0631", "\u0637\u0649",
    "\u0637\u064A", "\u0639\u0649", "\u0639\u064A", "\u063A\u0649", "\u063A\u064A",
    "\u0633\u0649", "\u0633\u064A", "\u0634\u0649", "\u0634\u064A", "\u062D\u0649",
    "\u062D\u064A", "\u062C\u0649", "\u062C\u064A", "\u062E\u0649", "\u062E\u064A",
    "\u0635\u0649", "\u0635\u064A", "\u0636\u0649", "\u0636\u064A", "\u0634\u062C",
    "\u0634\u062D", "\u0634\u062E", "\u0634\u0645", "\u0634\u0631", "\u0633\u0631",
    "\u0635\u0631", "\u0636\u0631", "\u0634\u062C", "\u0634\u062D", "\u0634\u062E",
    "\u0634\u0645", "\u0633\u0647", "\u0634\u0647", "\u0637\u0645", "\u0633\u062C",
    "\u0633\u062D", "\u0633\u062E", "\u0634\u062C", "\u0634\u062D", "\u0634\u062E",
    "\u0637\u0645", "\u0638\u0645", "\u0627\u064B", "\u0627\u064B"]),
  (0xFD50, 0xFD8F, .words [
    "\u062A\u062C\u0645", "\u062A\u062D\u062C", "\u062A\u062D\u062C", "\u062A\u062D\u0645",
    "\u062A\u062E\u0645", "\u062A\u0645\u062C", "\u062A\u0645\u062D", "\u062A\u0645\u062E",
    "\u062C\u0645\u062D", "\u062C\u0645\u062D", "\u062D\u0645\u064A", "\u062D\u0645\u0649",
    "\u0633\u062D\u062C", "\u0633\u062C\u062D", "\u0633\u062C\u0649", "\u0633\u0645\u062D",
    "\u0633\u0645\u062D", "\u0633\u0645\u062C", "\u0633\u0645\u0645", "\u0633\u0645\u0645",
    "\u0635\u062D\u062D", "\u0635\u062D\u062D", "\u0635\u0645\u0645", "\u0634\u062D\u0645",
    "\u0634\u062D\u0645", "\u0634\u062C\u064A", "\u0634\u0645\u062E", "\u0634\u0645\u062E",
    "\u0634\u0645\u0645", "\u0634\u0645\u0645", "\u0636\u062D\u0649", "\u0636\u062E\u0645",
    "\u0636\u062E\u0645", "\u0637\u0645\u062D", "\u0637\u0645\u062D", "\u0637\u0645\u0645",
    "\u0637\u0645\u064A", "\u0639\u062C\u0645", "\u0639\u0645\u0645", "\u0639\u0645\u0645",
    "\u0639\u0645\u0649", "\u063A\u0645\u0645", "\u063A\u0645\u064A", "\u063A\u0645\u0649",
    "\u0641\u062E\u0645", "\u0641\u062E\u0645", "\u0642\u0645\u062D", "\u0642\u0645\u0645",
    "\u0644\u062D\u0645", "\u0644\u062D\u064A", "\u0644\u062D\u0649", "\u0644\u062C\u062C",
    "\u0644\u062C\u062C", "\u0644\u062E\u0645", "\u0644\u062E\u0645", "\u0644\u0645\u062D",
    "\u0644\u0645\u062D", "\u0645\u062D\u062C", "\u0645\u062D\u0645", "\u0645\u062D\u064A",
    "\u0645\u062C\u062D", "\u0645\u062C\u0645", "\u0645\u062E\u062C", "\u0645\u062E\u0645"]),
  (0xFD92, 0xFDC7, .words [
    "\u0645\u062C\u062E", "\u0647\u0645\u062C", "\u0647\u0645\u0645", "\u0646\u062D\u0645",
    "\u0646\u062D\u0649", "\u0646\u062C\u0645", "\u0646\u062C\u0645", "\u0646\u062C\u0649",
    "\u0646\u0645\u064A", "\u0646\u0645\u0649", "\u064A\u0645\u0645", "\u064A\u0645\u0645",
    "\u0628\u062E\u064A", "\u062A\u062C\u064A", "\u062A\u062C\u0649", "\u062A\u062E\u064A",
    "\u062A\u062E\u0649", "\u062A\u0645\u064A", "\u062A\u0645\u0649", "\u062C\u0645\u064A",
    "\u062C\u062D\u0649", "\u062C\u0645\u0649", "\u0633\u062E\u0649", "\u0635\u062D\u064A",
    "\u0634\u062D\u064A", "\u0636\u062D\u064A", "\u0644\u062C\u064A", "\u0644\u0645\u064A",
    "\u064A\u062D\u064A", "\u064A\u062C\u064A", "\u064A\u0645\u064A", "\u0645\u0645\u064A",
    "\u0642\u0645\u064A", "\u0646\u062D\u064A", "\u0642\u0645\u062D", "\u0644\u062D\u0645",
    "\u0639\u0645\u064A", "\u0643\u0645\u064A", "\u0646\u062C\u062D", "\u0645\u062E\u064A",
    "\u0644\u062C\u0645", "\u0643\u0645\u0645", "\u0644\u062C\u0645", "\u0646\u062C\u062D",
    "\u062C\u062D\u064A", "\u062D\u062C\u064A", "\u0645\u062C\u064A", "\u0641\u0645\u064A",
    "\u0628\u062D\u064A", "\u0643\u0645\u0645", "\u0639\u062C\u0645", "\u0635\u0645\u0645",
    "\u0633\u062E\u064A", "\u0646\u062C\u064A"]),
  (0xFDD0, 0xFDEF, .refused),
  (0xFDF0, 0xFDFC, .words [
    "\u0635\u0644\u06D2", "\u0642\u0644\u06D2", "\u0627\u0644\u0644\u0647",
    "\u0627\u0643\u0628\u0631", "\u0645\u062D\u0645\u062F", "\u0635\u0644\u0639\u0645",
    "\u0631\u0633\u0648\u0644", "\u0639\u0644\u064A\u0647", "\u0648\u0633\u0644\u0645",
    "\u0635\u0644\u0649",
    "\u0635\u0644\u0649 \u0627\u0644\u0644\u0647 \u0639\u0644\u064A\u0647 \u0648\u0633\u0644\u0645",
    "\u062C\u0644 \u062C\u0644\u0627\u0644\u0647", "\u0631\u06CC\u0627\u0644"]),
  (0xFE00, 0xFE0F, .dropped), (0xFE10, 0xFE11, .letters ",、"), (0xFE12, 0xFE12, .refused),
  (0xFE13, 0xFE18, .letters ":;!?〖〗"), (0xFE19, 0xFE1F, .refused), (0xFE30, 0xFE30, .refused),
  (0xFE31, 0xFE44, .letters "—–__()\x7b\x7d〔〕【】《》〈〉「」『』"), (0xFE47, 0xFE48, .letters "[]"),
  (0xFE49, 0xFE4C, .words [" \u0305", " \u0305", " \u0305", " \u0305"]),
  (0xFE4D, 0xFE51, .letters "___,、"), (0xFE52, 0xFE53, .refused),
  (0xFE54, 0xFE66, .letters ";:?!—()\x7b\x7d〔〕#&*+-<>="), (0xFE67, 0xFE67, .refused),
  (0xFE68, 0xFE6B, .letters "\\$%@"), (0xFE6C, 0xFE6F, .refused),
  (0xFE70, 0xFE72, .words [" \u064B", "\u0640\u064B", " \u064C"]),
  (0xFE74, 0xFE74, .words [" \u064D"]), (0xFE75, 0xFE75, .refused),
  (0xFE76, 0xFE7F, .words [
    " \u064E", "\u0640\u064E", " \u064F", "\u0640\u064F", " \u0650", "\u0640\u0650", " \u0651",
    "\u0640\u0651", " \u0652", "\u0640\u0652"]),
  (0xFE80, 0xFEF4, .letters (
    "\u0621\u0622\u0622\u0623\u0623\u0624\u0624\u0625\u0625\u0626\u0626\u0626\u0626\u0627" ++
    "\u0627\u0628\u0628\u0628\u0628\u0629\u0629\u062A\u062A\u062A\u062A\u062B\u062B\u062B" ++
    "\u062B\u062C\u062C\u062C\u062C\u062D\u062D\u062D\u062D\u062E\u062E\u062E\u062E\u062F" ++
    "\u062F\u0630\u0630\u0631\u0631\u0632\u0632\u0633\u0633\u0633\u0633\u0634\u0634\u0634" ++
    "\u0634\u0635\u0635\u0635\u0635\u0636\u0636\u0636\u0636\u0637\u0637\u0637\u0637\u0638" ++
    "\u0638\u0638\u0638\u0639\u0639\u0639\u0639\u063A\u063A\u063A\u063A\u0641\u0641\u0641" ++
    "\u0641\u0642\u0642\u0642\u0642\u0643\u0643\u0643\u0643\u0644\u0644\u0644\u0644\u0645" ++
    "\u0645\u0645\u0645\u0646\u0646\u0646\u0646\u0647\u0647\u0647\u0647\u0648\u0648\u0649" ++
    "\u0649\u064A\u064A\u064A\u064A")),
  (0xFEF5, 0xFEFC, .words [
    "\u0644\u0622", "\u0644\u0622", "\u0644\u0623", "\u0644\u0623", "\u0644\u0625",
    "\u0644\u0625", "\u0644\u0627", "\u0644\u0627"]),
  (0xFEFD, 0xFEFE, .refused), (0xFEFF, 0xFEFF, .dropped), (0xFF00, 0xFF00, .refused),
  (0xFF01, 0xFF20, .shifted (-65248)), (0xFF21, 0xFF3A, .shifted (-65216)),
  (0xFF3B, 0xFF5E, .shifted (-65248)),
  (0xFF5F, 0xFF84, .letters "⦅⦆.「」、・ヲァィゥェォャュョッ\u30FCアイウエオカキクケコサシスセソタチツテト"),
  (0xFF85, 0xFF8A, .shifted (-52923)), (0xFF8B, 0xFF8E, .letters "ヒフヘホ"),
  (0xFF8F, 0xFF93, .shifted (-52913)), (0xFF94, 0xFF95, .letters "ヤユ"),
  (0xFF96, 0xFF9B, .shifted (-52910)), (0xFF9C, 0xFF9F, .letters "ワン\u3099\u309A"),
  (0xFFA0, 0xFFA0, .dropped), (0xFFA1, 0xFFA9, .letters "ᄀᄁᆪᄂᆬᆭᄃᄄᄅ"),
  (0xFFAA, 0xFFAF, .shifted (-60922)), (0xFFB0, 0xFFB4, .letters "ᄚᄆᄇᄈᄡ"),
  (0xFFB5, 0xFFBE, .shifted (-61100)), (0xFFBF, 0xFFC1, .refused),
  (0xFFC2, 0xFFC7, .shifted (-61025)), (0xFFC8, 0xFFC9, .refused),
  (0xFFCA, 0xFFCF, .shifted (-61027)), (0xFFD0, 0xFFD1, .refused),
  (0xFFD2, 0xFFD7, .shifted (-61029)), (0xFFD8, 0xFFD9, .refused),
  (0xFFDA, 0xFFDC, .shifted (-61031)), (0xFFDD, 0xFFDF, .refused), (0xFFE0, 0xFFE2, .letters "¢£¬"),
  (0xFFE3, 0xFFE3, .words [" \u0304"]), (0xFFE4, 0xFFE6, .letters "¦¥₩"),
  (0xFFE7, 0xFFE7, .refused), (0xFFE8, 0xFFEE, .letters "│←↑→↓■○"), (0xFFEF, 0xFFFF, .refused)]

/-- Everything from U+10000 on. -/
def furtherImages : Text.ClassTable Image := [
  (0x1000C, 0x1000C, .refused), (0x10027, 0x10027, .refused), (0x1003B, 0x1003B, .refused),
  (0x1003E, 0x1003E, .refused), (0x1004E, 0x1004F, .refused), (0x1005E, 0x1007F, .refused),
  (0x100FB, 0x100FF, .refused), (0x10103, 0x10106, .refused), (0x10134, 0x10136, .refused),
  (0x1018F, 0x1018F, .refused), (0x1019D, 0x1019F, .refused), (0x101A1, 0x101CF, .refused),
  (0x101FE, 0x1027F, .refused), (0x1029D, 0x1029F, .refused), (0x102D1, 0x102DF, .refused),
  (0x102FC, 0x102FF, .refused), (0x10324, 0x1032C, .refused), (0x1034B, 0x1034F, .refused),
  (0x1037B, 0x1037F, .refused), (0x1039E, 0x1039E, .refused), (0x103C4, 0x103C7, .refused),
  (0x103D6, 0x103FF, .refused), (0x10400, 0x10427, .shifted 40), (0x1049E, 0x1049F, .refused),
  (0x104AA, 0x104AF, .refused), (0x104B0, 0x104D3, .shifted 40), (0x104D4, 0x104D7, .refused),
  (0x104FC, 0x104FF, .refused), (0x10528, 0x1052F, .refused), (0x10564, 0x1056E, .refused),
  (0x10570, 0x1057A, .shifted 39), (0x1057B, 0x1057B, .refused), (0x1057C, 0x1058A, .shifted 39),
  (0x1058B, 0x1058B, .refused), (0x1058C, 0x10592, .shifted 39), (0x10593, 0x10593, .refused),
  (0x10594, 0x10595, .letters "𐖻𐖼"), (0x10596, 0x10596, .refused), (0x105A2, 0x105A2, .refused),
  (0x105B2, 0x105B2, .refused), (0x105BA, 0x105BA, .refused), (0x105BD, 0x105BF, .refused),
  (0x105F4, 0x105FF, .refused), (0x10737, 0x1073F, .refused), (0x10756, 0x1075F, .refused),
  (0x10768, 0x1077F, .refused), (0x10781, 0x10785, .letters "\u02D0\u02D1æʙɓ"),
  (0x10786, 0x10786, .refused),
  (0x10787, 0x107B0, .letters "ʣꭦʥʤɖɗᶑɘɞʩɤɢɠʛħʜɧʄʪʫɬ𝼄ꞎɮ𝼅ʎ𝼆øɶɷqɺ𝼈ɽɾʀʨʦꭧʧʈⱱ"),
  (0x107B1, 0x107B1, .refused), (0x107B2, 0x107BA, .letters "ʏʡʢʘǀǁǂ𝼊𝼞"),
  (0x107BB, 0x107FF, .refused), (0x10806, 0x10807, .refused), (0x10809, 0x10809, .refused),
  (0x10836, 0x10836, .refused), (0x10839, 0x1083B, .refused), (0x1083D, 0x1083E, .refused),
  (0x10856, 0x10856, .refused), (0x1089F, 0x108A6, .refused), (0x108B0, 0x108DF, .refused),
  (0x108F3, 0x108F3, .refused), (0x108F6, 0x108FA, .refused), (0x1091C, 0x1091E, .refused),
  (0x1093A, 0x1093E, .refused), (0x1095A, 0x1097F, .refused), (0x109B8, 0x109BB, .refused),
  (0x109D0, 0x109D1, .refused), (0x10A04, 0x10A04, .refused), (0x10A07, 0x10A0B, .refused),
  (0x10A14, 0x10A14, .refused), (0x10A18, 0x10A18, .refused), (0x10A36, 0x10A37, .refused),
  (0x10A3B, 0x10A3E, .refused), (0x10A49, 0x10A4F, .refused), (0x10A59, 0x10A5F, .refused),
  (0x10AA0, 0x10ABF, .refused), (0x10AE7, 0x10AEA, .refused), (0x10AF7, 0x10AFF, .refused),
  (0x10B36, 0x10B38, .refused), (0x10B56, 0x10B57, .refused), (0x10B73, 0x10B77, .refused),
  (0x10B92, 0x10B98, .refused), (0x10B9D, 0x10BA8, .refused), (0x10BB0, 0x10BFF, .refused),
  (0x10C49, 0x10C7F, .refused), (0x10C80, 0x10CB2, .shifted 64), (0x10CB3, 0x10CBF, .refused),
  (0x10CF3, 0x10CF9, .refused), (0x10D28, 0x10D2F, .refused), (0x10D3A, 0x10D3F, .refused),
  (0x10D50, 0x10D65, .shifted 32), (0x10D66, 0x10D68, .refused), (0x10D86, 0x10D8D, .refused),
  (0x10D90, 0x10E5F, .refused), (0x10E7F, 0x10E7F, .refused), (0x10EAA, 0x10EAA, .refused),
  (0x10EAE, 0x10EAF, .refused), (0x10EB2, 0x10EC1, .refused), (0x10EC8, 0x10ECF, .refused),
  (0x10ED9, 0x10EF9, .refused), (0x10F28, 0x10F2F, .refused), (0x10F5A, 0x10F6F, .refused),
  (0x10F8A, 0x10FAF, .refused), (0x10FCC, 0x10FDF, .refused), (0x10FF7, 0x10FFF, .refused),
  (0x1104E, 0x11051, .refused), (0x11076, 0x1107E, .refused), (0x110BD, 0x110BD, .refused),
  (0x110C3, 0x110CF, .refused), (0x110E9, 0x110EF, .refused), (0x110FA, 0x110FF, .refused),
  (0x11135, 0x11135, .refused), (0x11148, 0x1114F, .refused), (0x11177, 0x1117F, .refused),
  (0x111E0, 0x111E0, .refused), (0x111F5, 0x111FF, .refused), (0x11212, 0x11212, .refused),
  (0x11242, 0x1127F, .refused), (0x11287, 0x11287, .refused), (0x11289, 0x11289, .refused),
  (0x1128E, 0x1128E, .refused), (0x1129E, 0x1129E, .refused), (0x112AA, 0x112AF, .refused),
  (0x112EB, 0x112EF, .refused), (0x112FA, 0x112FF, .refused), (0x11304, 0x11304, .refused),
  (0x1130D, 0x1130E, .refused), (0x11311, 0x11312, .refused), (0x11329, 0x11329, .refused),
  (0x11331, 0x11331, .refused), (0x11334, 0x11334, .refused), (0x1133A, 0x1133A, .refused),
  (0x11345, 0x11346, .refused), (0x11349, 0x1134A, .refused), (0x1134E, 0x1134F, .refused),
  (0x11351, 0x11356, .refused), (0x11358, 0x1135C, .refused), (0x11364, 0x11365, .refused),
  (0x1136D, 0x1136F, .refused), (0x11375, 0x1137F, .refused), (0x1138A, 0x1138A, .refused),
  (0x1138C, 0x1138D, .refused), (0x1138F, 0x1138F, .refused), (0x113B6, 0x113B6, .refused),
  (0x113C1, 0x113C1, .refused), (0x113C3, 0x113C4, .refused), (0x113C6, 0x113C6, .refused),
  (0x113CB, 0x113CB, .refused), (0x113D6, 0x113D6, .refused), (0x113D9, 0x113E0, .refused),
  (0x113E3, 0x113FF, .refused), (0x1145C, 0x1145C, .refused), (0x11462, 0x1147F, .refused),
  (0x114C8, 0x114CF, .refused), (0x114DA, 0x1157F, .refused), (0x115B6, 0x115B7, .refused),
  (0x115DE, 0x115FF, .refused), (0x11645, 0x1164F, .refused), (0x1165A, 0x1165F, .refused),
  (0x1166D, 0x1167F, .refused), (0x116BA, 0x116BF, .refused), (0x116CA, 0x116CF, .refused),
  (0x116E4, 0x116FF, .refused), (0x1171B, 0x1171C, .refused), (0x1172C, 0x1172F, .refused),
  (0x11747, 0x117FF, .refused), (0x1183C, 0x1189F, .refused), (0x118A0, 0x118BF, .shifted 32),
  (0x118F3, 0x118FE, .refused), (0x11907, 0x11908, .refused), (0x1190A, 0x1190B, .refused),
  (0x11914, 0x11914, .refused), (0x11917, 0x11917, .refused), (0x11936, 0x11936, .refused),
  (0x11939, 0x1193A, .refused), (0x11947, 0x1194F, .refused), (0x1195A, 0x1199F, .refused),
  (0x119A8, 0x119A9, .refused), (0x119D8, 0x119D9, .refused), (0x119E5, 0x119FF, .refused),
  (0x11A48, 0x11A4F, .refused), (0x11AA3, 0x11AAF, .refused), (0x11AF9, 0x11AFF, .refused),
  (0x11B0A, 0x11B5F, .refused), (0x11B68, 0x11BBF, .refused), (0x11BE2, 0x11BEF, .refused),
  (0x11BFA, 0x11BFF, .refused), (0x11C09, 0x11C09, .refused), (0x11C37, 0x11C37, .refused),
  (0x11C46, 0x11C4F, .refused), (0x11C6D, 0x11C6F, .refused), (0x11C90, 0x11C91, .refused),
  (0x11CA8, 0x11CA8, .refused), (0x11CB7, 0x11CFF, .refused), (0x11D07, 0x11D07, .refused),
  (0x11D0A, 0x11D0A, .refused), (0x11D37, 0x11D39, .refused), (0x11D3B, 0x11D3B, .refused),
  (0x11D3E, 0x11D3E, .refused), (0x11D48, 0x11D4F, .refused), (0x11D5A, 0x11D5F, .refused),
  (0x11D66, 0x11D66, .refused), (0x11D69, 0x11D69, .refused), (0x11D8F, 0x11D8F, .refused),
  (0x11D92, 0x11D92, .refused), (0x11D99, 0x11D9F, .refused), (0x11DAA, 0x11DAF, .refused),
  (0x11DDC, 0x11DDF, .refused), (0x11DEA, 0x11EDF, .refused), (0x11EF9, 0x11EFF, .refused),
  (0x11F11, 0x11F11, .refused), (0x11F3B, 0x11F3D, .refused), (0x11F5B, 0x11FAF, .refused),
  (0x11FB1, 0x11FBF, .refused), (0x11FF2, 0x11FFE, .refused), (0x1239A, 0x123FF, .refused),
  (0x1246F, 0x1246F, .refused), (0x12475, 0x1247F, .refused), (0x12544, 0x12F8F, .refused),
  (0x12FF3, 0x12FFF, .refused), (0x13430, 0x1343F, .refused), (0x13456, 0x1345F, .refused),
  (0x143FB, 0x143FF, .refused), (0x14647, 0x160FF, .refused), (0x1613A, 0x167FF, .refused),
  (0x16A39, 0x16A3F, .refused), (0x16A5F, 0x16A5F, .refused), (0x16A6A, 0x16A6D, .refused),
  (0x16ABF, 0x16ABF, .refused), (0x16ACA, 0x16ACF, .refused), (0x16AEE, 0x16AEF, .refused),
  (0x16AF6, 0x16AFF, .refused), (0x16B46, 0x16B4F, .refused), (0x16B5A, 0x16B5A, .refused),
  (0x16B62, 0x16B62, .refused), (0x16B78, 0x16B7C, .refused), (0x16B90, 0x16D3F, .refused),
  (0x16D7A, 0x16E3F, .refused), (0x16E40, 0x16E5F, .shifted 32), (0x16E9B, 0x16E9F, .refused),
  (0x16EA0, 0x16EB8, .shifted 27), (0x16EB9, 0x16EBA, .refused), (0x16ED4, 0x16EFF, .refused),
  (0x16F4B, 0x16F4E, .refused), (0x16F88, 0x16F8E, .refused), (0x16FA0, 0x16FDF, .refused),
  (0x16FE5, 0x16FEF, .refused), (0x16FF7, 0x16FFF, .refused), (0x18CD6, 0x18CFE, .refused),
  (0x18D1F, 0x18D7F, .refused), (0x18DF3, 0x1AFEF, .refused), (0x1AFF4, 0x1AFF4, .refused),
  (0x1AFFC, 0x1AFFC, .refused), (0x1AFFF, 0x1AFFF, .refused), (0x1B123, 0x1B131, .refused),
  (0x1B133, 0x1B14F, .refused), (0x1B153, 0x1B154, .refused), (0x1B156, 0x1B163, .refused),
  (0x1B168, 0x1B16F, .refused), (0x1B2FC, 0x1BBFF, .refused), (0x1BC6B, 0x1BC6F, .refused),
  (0x1BC7D, 0x1BC7F, .refused), (0x1BC89, 0x1BC8F, .refused), (0x1BC9A, 0x1BC9B, .refused),
  (0x1BCA0, 0x1BCA3, .dropped), (0x1BCA4, 0x1CBFF, .refused),
  (0x1CCD6, 0x1CCEF, .shifted (-117877)), (0x1CCF0, 0x1CCF9, .shifted (-117952)),
  (0x1CCFD, 0x1CCFF, .refused), (0x1CEB4, 0x1CEB9, .refused), (0x1CED1, 0x1CEDF, .refused),
  (0x1CEF1, 0x1CEFF, .refused), (0x1CF2E, 0x1CF2F, .refused), (0x1CF47, 0x1CF4F, .refused),
  (0x1CFC4, 0x1CFFF, .refused), (0x1D0F6, 0x1D0FF, .refused), (0x1D127, 0x1D128, .refused),
  (0x1D15E, 0x1D164, .words ["𝅗𝅥", "𝅘𝅥", "𝅘𝅥𝅮", "𝅘𝅥𝅯", "𝅘𝅥𝅰", "𝅘𝅥𝅱", "𝅘𝅥𝅲"]),
  (0x1D173, 0x1D17A, .dropped), (0x1D1BB, 0x1D1C0, .words ["𝆹𝅥", "𝆺𝅥", "𝆹𝅥𝅮", "𝆺𝅥𝅮", "𝆹𝅥𝅯", "𝆺𝅥𝅯"]),
  (0x1D1EB, 0x1D1FF, .refused), (0x1D246, 0x1D2BF, .refused), (0x1D2D4, 0x1D2DF, .refused),
  (0x1D2F4, 0x1D2FF, .refused), (0x1D357, 0x1D35F, .refused), (0x1D379, 0x1D3FF, .refused),
  (0x1D400, 0x1D419, .shifted (-119711)), (0x1D41A, 0x1D433, .shifted (-119737)),
  (0x1D434, 0x1D44D, .shifted (-119763)), (0x1D44E, 0x1D454, .shifted (-119789)),
  (0x1D455, 0x1D455, .refused), (0x1D456, 0x1D467, .shifted (-119789)),
  (0x1D468, 0x1D481, .shifted (-119815)), (0x1D482, 0x1D49B, .shifted (-119841)),
  (0x1D49C, 0x1D49C, .letters "a"), (0x1D49D, 0x1D49D, .refused), (0x1D49E, 0x1D49F, .letters "cd"),
  (0x1D4A0, 0x1D4A1, .refused), (0x1D4A2, 0x1D4A2, .letters "g"), (0x1D4A3, 0x1D4A4, .refused),
  (0x1D4A5, 0x1D4A6, .letters "jk"), (0x1D4A7, 0x1D4A8, .refused),
  (0x1D4A9, 0x1D4AC, .shifted (-119867)), (0x1D4AD, 0x1D4AD, .refused),
  (0x1D4AE, 0x1D4B5, .shifted (-119867)), (0x1D4B6, 0x1D4B9, .shifted (-119893)),
  (0x1D4BA, 0x1D4BA, .refused), (0x1D4BB, 0x1D4BB, .letters "f"), (0x1D4BC, 0x1D4BC, .refused),
  (0x1D4BD, 0x1D4C3, .shifted (-119893)), (0x1D4C4, 0x1D4C4, .refused),
  (0x1D4C5, 0x1D4CF, .shifted (-119893)), (0x1D4D0, 0x1D4E9, .shifted (-119919)),
  (0x1D4EA, 0x1D503, .shifted (-119945)), (0x1D504, 0x1D505, .letters "ab"),
  (0x1D506, 0x1D506, .refused), (0x1D507, 0x1D50A, .shifted (-119971)),
  (0x1D50B, 0x1D50C, .refused), (0x1D50D, 0x1D514, .shifted (-119971)),
  (0x1D515, 0x1D515, .refused), (0x1D516, 0x1D51C, .shifted (-119971)),
  (0x1D51D, 0x1D51D, .refused), (0x1D51E, 0x1D537, .shifted (-119997)),
  (0x1D538, 0x1D539, .letters "ab"), (0x1D53A, 0x1D53A, .refused),
  (0x1D53B, 0x1D53E, .shifted (-120023)), (0x1D53F, 0x1D53F, .refused),
  (0x1D540, 0x1D544, .shifted (-120023)), (0x1D545, 0x1D545, .refused),
  (0x1D546, 0x1D546, .letters "o"), (0x1D547, 0x1D549, .refused),
  (0x1D54A, 0x1D550, .shifted (-120023)), (0x1D551, 0x1D551, .refused),
  (0x1D552, 0x1D56B, .shifted (-120049)), (0x1D56C, 0x1D585, .shifted (-120075)),
  (0x1D586, 0x1D59F, .shifted (-120101)), (0x1D5A0, 0x1D5B9, .shifted (-120127)),
  (0x1D5BA, 0x1D5D3, .shifted (-120153)), (0x1D5D4, 0x1D5ED, .shifted (-120179)),
  (0x1D5EE, 0x1D607, .shifted (-120205)), (0x1D608, 0x1D621, .shifted (-120231)),
  (0x1D622, 0x1D63B, .shifted (-120257)), (0x1D63C, 0x1D655, .shifted (-120283)),
  (0x1D656, 0x1D66F, .shifted (-120309)), (0x1D670, 0x1D689, .shifted (-120335)),
  (0x1D68A, 0x1D6A3, .shifted (-120361)), (0x1D6A4, 0x1D6A5, .letters "ıȷ"),
  (0x1D6A6, 0x1D6A7, .refused), (0x1D6A8, 0x1D6B8, .shifted (-119543)),
  (0x1D6B9, 0x1D6B9, .letters "θ"), (0x1D6BA, 0x1D6C0, .shifted (-119543)),
  (0x1D6C1, 0x1D6C1, .letters "∇"), (0x1D6C2, 0x1D6D2, .shifted (-119569)),
  (0x1D6D3, 0x1D6D3, .letters "σ"), (0x1D6D4, 0x1D6DA, .shifted (-119569)),
  (0x1D6DB, 0x1D6E1, .letters "∂εθκφρπ"), (0x1D6E2, 0x1D6F2, .shifted (-119601)),
  (0x1D6F3, 0x1D6F3, .letters "θ"), (0x1D6F4, 0x1D6FA, .shifted (-119601)),
  (0x1D6FB, 0x1D6FB, .letters "∇"), (0x1D6FC, 0x1D70C, .shifted (-119627)),
  (0x1D70D, 0x1D70D, .letters "σ"), (0x1D70E, 0x1D714, .shifted (-119627)),
  (0x1D715, 0x1D71B, .letters "∂εθκφρπ"), (0x1D71C, 0x1D72C, .shifted (-119659)),
  (0x1D72D, 0x1D72D, .letters "θ"), (0x1D72E, 0x1D734, .shifted (-119659)),
  (0x1D735, 0x1D735, .letters "∇"), (0x1D736, 0x1D746, .shifted (-119685)),
  (0x1D747, 0x1D747, .letters "σ"), (0x1D748, 0x1D74E, .shifted (-119685)),
  (0x1D74F, 0x1D755, .letters "∂εθκφρπ"), (0x1D756, 0x1D766, .shifted (-119717)),
  (0x1D767, 0x1D767, .letters "θ"), (0x1D768, 0x1D76E, .shifted (-119717)),
  (0x1D76F, 0x1D76F, .letters "∇"), (0x1D770, 0x1D780, .shifted (-119743)),
  (0x1D781, 0x1D781, .letters "σ"), (0x1D782, 0x1D788, .shifted (-119743)),
  (0x1D789, 0x1D78F, .letters "∂εθκφρπ"), (0x1D790, 0x1D7A0, .shifted (-119775)),
  (0x1D7A1, 0x1D7A1, .letters "θ"), (0x1D7A2, 0x1D7A8, .shifted (-119775)),
  (0x1D7A9, 0x1D7A9, .letters "∇"), (0x1D7AA, 0x1D7BA, .shifted (-119801)),
  (0x1D7BB, 0x1D7BB, .letters "σ"), (0x1D7BC, 0x1D7C2, .shifted (-119801)),
  (0x1D7C3, 0x1D7CB, .letters "∂εθκφρπϝϝ"), (0x1D7CC, 0x1D7CD, .refused),
  (0x1D7CE, 0x1D7D7, .shifted (-120734)), (0x1D7D8, 0x1D7E1, .shifted (-120744)),
  (0x1D7E2, 0x1D7EB, .shifted (-120754)), (0x1D7EC, 0x1D7F5, .shifted (-120764)),
  (0x1D7F6, 0x1D7FF, .shifted (-120774)), (0x1DA8C, 0x1DA9A, .refused),
  (0x1DAA0, 0x1DAA0, .refused), (0x1DAB0, 0x1DEFF, .refused), (0x1DF1F, 0x1DF24, .refused),
  (0x1DF2B, 0x1DFFF, .refused), (0x1E007, 0x1E007, .refused), (0x1E019, 0x1E01A, .refused),
  (0x1E022, 0x1E022, .refused), (0x1E025, 0x1E025, .refused), (0x1E02B, 0x1E02F, .refused),
  (0x1E030, 0x1E038, .shifted (-121856)), (0x1E039, 0x1E03B, .shifted (-121855)),
  (0x1E03C, 0x1E046, .shifted (-121854)), (0x1E047, 0x1E050, .letters "ыэюꚉәіјөүӏ"),
  (0x1E051, 0x1E059, .shifted (-121889)), (0x1E05A, 0x1E05E, .letters "клопс"),
  (0x1E05F, 0x1E064, .shifted (-121884)), (0x1E065, 0x1E06D, .letters "ъыґіѕџҫꙑұ"),
  (0x1E06E, 0x1E08E, .refused), (0x1E090, 0x1E0FF, .refused), (0x1E12D, 0x1E12F, .refused),
  (0x1E13E, 0x1E13F, .refused), (0x1E14A, 0x1E14D, .refused), (0x1E150, 0x1E28F, .refused),
  (0x1E2AF, 0x1E2BF, .refused), (0x1E2FA, 0x1E2FE, .refused), (0x1E300, 0x1E4CF, .refused),
  (0x1E4FA, 0x1E5CF, .refused), (0x1E5FB, 0x1E5FE, .refused), (0x1E600, 0x1E6BF, .refused),
  (0x1E6DF, 0x1E6DF, .refused), (0x1E6F6, 0x1E6FD, .refused), (0x1E700, 0x1E7DF, .refused),
  (0x1E7E7, 0x1E7E7, .refused), (0x1E7EC, 0x1E7EC, .refused), (0x1E7EF, 0x1E7EF, .refused),
  (0x1E7FF, 0x1E7FF, .refused), (0x1E8C5, 0x1E8C6, .refused), (0x1E8D7, 0x1E8FF, .refused),
  (0x1E900, 0x1E921, .shifted 34), (0x1E94C, 0x1E94F, .refused), (0x1E95A, 0x1E95D, .refused),
  (0x1E960, 0x1EC70, .refused), (0x1ECB5, 0x1ED00, .refused), (0x1ED3E, 0x1EDFF, .refused),
  (0x1EE00, 0x1EE03, .letters "\u0627\u0628\u062C\u062F"), (0x1EE04, 0x1EE04, .refused),
  (0x1EE05, 0x1EE1F, .letters (
    "\u0648\u0632\u062D\u0637\u064A\u0643\u0644\u0645\u0646\u0633\u0639\u0641\u0635\u0642" ++
    "\u0631\u0634\u062A\u062B\u062E\u0630\u0636\u0638\u063A\u066E\u06BA\u06A1\u066F")),
  (0x1EE20, 0x1EE20, .refused), (0x1EE21, 0x1EE22, .letters "\u0628\u062C"),
  (0x1EE23, 0x1EE23, .refused), (0x1EE24, 0x1EE24, .letters "\u0647"), (0x1EE25, 0x1EE26, .refused),
  (0x1EE27, 0x1EE27, .letters "\u062D"), (0x1EE28, 0x1EE28, .refused),
  (0x1EE29, 0x1EE32, .letters "\u064A\u0643\u0644\u0645\u0646\u0633\u0639\u0641\u0635\u0642"),
  (0x1EE33, 0x1EE33, .refused), (0x1EE34, 0x1EE37, .letters "\u0634\u062A\u062B\u062E"),
  (0x1EE38, 0x1EE38, .refused), (0x1EE39, 0x1EE39, .letters "\u0636"), (0x1EE3A, 0x1EE3A, .refused),
  (0x1EE3B, 0x1EE3B, .letters "\u063A"), (0x1EE3C, 0x1EE41, .refused),
  (0x1EE42, 0x1EE42, .letters "\u062C"), (0x1EE43, 0x1EE46, .refused),
  (0x1EE47, 0x1EE47, .letters "\u062D"), (0x1EE48, 0x1EE48, .refused),
  (0x1EE49, 0x1EE49, .letters "\u064A"), (0x1EE4A, 0x1EE4A, .refused),
  (0x1EE4B, 0x1EE4B, .letters "\u0644"), (0x1EE4C, 0x1EE4C, .refused),
  (0x1EE4D, 0x1EE4F, .letters "\u0646\u0633\u0639"), (0x1EE50, 0x1EE50, .refused),
  (0x1EE51, 0x1EE52, .letters "\u0635\u0642"), (0x1EE53, 0x1EE53, .refused),
  (0x1EE54, 0x1EE54, .letters "\u0634"), (0x1EE55, 0x1EE56, .refused),
  (0x1EE57, 0x1EE57, .letters "\u062E"), (0x1EE58, 0x1EE58, .refused),
  (0x1EE59, 0x1EE59, .letters "\u0636"), (0x1EE5A, 0x1EE5A, .refused),
  (0x1EE5B, 0x1EE5B, .letters "\u063A"), (0x1EE5C, 0x1EE5C, .refused),
  (0x1EE5D, 0x1EE5D, .letters "\u06BA"), (0x1EE5E, 0x1EE5E, .refused),
  (0x1EE5F, 0x1EE5F, .letters "\u066F"), (0x1EE60, 0x1EE60, .refused),
  (0x1EE61, 0x1EE62, .letters "\u0628\u062C"), (0x1EE63, 0x1EE63, .refused),
  (0x1EE64, 0x1EE64, .letters "\u0647"), (0x1EE65, 0x1EE66, .refused),
  (0x1EE67, 0x1EE6A, .letters "\u062D\u0637\u064A\u0643"), (0x1EE6B, 0x1EE6B, .refused),
  (0x1EE6C, 0x1EE72, .letters "\u0645\u0646\u0633\u0639\u0641\u0635\u0642"),
  (0x1EE73, 0x1EE73, .refused), (0x1EE74, 0x1EE77, .letters "\u0634\u062A\u062B\u062E"),
  (0x1EE78, 0x1EE78, .refused), (0x1EE79, 0x1EE7C, .letters "\u0636\u0638\u063A\u066E"),
  (0x1EE7D, 0x1EE7D, .refused), (0x1EE7E, 0x1EE7E, .letters "\u06A1"), (0x1EE7F, 0x1EE7F, .refused),
  (0x1EE80, 0x1EE89, .letters "\u0627\u0628\u062C\u062F\u0647\u0648\u0632\u062D\u0637\u064A"),
  (0x1EE8A, 0x1EE8A, .refused), (0x1EE8B, 0x1EE8D, .shifted (-124999)),
  (0x1EE8E, 0x1EE9B, .letters (
    "\u0633\u0639\u0641\u0635\u0642\u0631\u0634\u062A\u062B\u062E\u0630\u0636\u0638\u063A")),
  (0x1EE9C, 0x1EEA0, .refused), (0x1EEA1, 0x1EEA3, .letters "\u0628\u062C\u062F"),
  (0x1EEA4, 0x1EEA4, .refused), (0x1EEA5, 0x1EEA9, .letters "\u0648\u0632\u062D\u0637\u064A"),
  (0x1EEAA, 0x1EEAA, .refused), (0x1EEAB, 0x1EEAD, .shifted (-125031)),
  (0x1EEAE, 0x1EEBB, .letters (
    "\u0633\u0639\u0641\u0635\u0642\u0631\u0634\u062A\u062B\u062E\u0630\u0636\u0638\u063A")),
  (0x1EEBC, 0x1EEEF, .refused), (0x1EEF2, 0x1EFFF, .refused), (0x1F02C, 0x1F02F, .refused),
  (0x1F094, 0x1F09F, .refused), (0x1F0AF, 0x1F0B0, .refused), (0x1F0C0, 0x1F0C0, .refused),
  (0x1F0D0, 0x1F0D0, .refused), (0x1F0F6, 0x1F100, .refused),
  (0x1F101, 0x1F10A, .words ["0,", "1,", "2,", "3,", "4,", "5,", "6,", "7,", "8,", "9,"]),
  (0x1F110, 0x1F12A, .words [
    "(a)", "(b)", "(c)", "(d)", "(e)", "(f)", "(g)", "(h)", "(i)", "(j)", "(k)", "(l)", "(m)",
    "(n)", "(o)", "(p)", "(q)", "(r)", "(s)", "(t)", "(u)", "(v)", "(w)", "(x)", "(y)", "(z)",
    "〔s〕"]),
  (0x1F12B, 0x1F12C, .letters "cr"), (0x1F12D, 0x1F12E, .words ["cd", "wz"]),
  (0x1F130, 0x1F149, .shifted (-127183)),
  (0x1F14A, 0x1F14F, .words ["hv", "mv", "sd", "ss", "ppv", "wc"]),
  (0x1F16A, 0x1F16C, .words ["mc", "md", "mr"]), (0x1F190, 0x1F190, .words ["dj"]),
  (0x1F1AE, 0x1F1E5, .refused), (0x1F200, 0x1F201, .words ["ほか", "ココ"]),
  (0x1F202, 0x1F202, .letters "サ"), (0x1F203, 0x1F20F, .refused),
  (0x1F210, 0x1F23B, .letters "手字双デ二多解天交映無料前後再新初終生販声吹演投捕一三遊左中右指走打禁空合満有月申割営配"),
  (0x1F23C, 0x1F23F, .refused),
  (0x1F240, 0x1F248, .words ["〔本〕", "〔三〕", "〔二〕", "〔安〕", "〔点〕", "〔打〕", "〔盗〕", "〔勝〕", "〔敗〕"]),
  (0x1F249, 0x1F24F, .refused), (0x1F250, 0x1F251, .letters "得可"), (0x1F252, 0x1F25F, .refused),
  (0x1F266, 0x1F2FF, .refused), (0x1F6D9, 0x1F6DB, .refused), (0x1F6ED, 0x1F6EF, .refused),
  (0x1F6FD, 0x1F6FF, .refused), (0x1F7DA, 0x1F7DF, .refused), (0x1F7EC, 0x1F7EF, .refused),
  (0x1F7F1, 0x1F7FF, .refused), (0x1F80C, 0x1F80F, .refused), (0x1F848, 0x1F84F, .refused),
  (0x1F85A, 0x1F85F, .refused), (0x1F888, 0x1F88F, .refused), (0x1F8AE, 0x1F8AF, .refused),
  (0x1F8BC, 0x1F8BF, .refused), (0x1F8C2, 0x1F8CF, .refused), (0x1F8D9, 0x1F8FF, .refused),
  (0x1FA58, 0x1FA5F, .refused), (0x1FA6E, 0x1FA6F, .refused), (0x1FA7D, 0x1FA7F, .refused),
  (0x1FA8B, 0x1FA8D, .refused), (0x1FAC7, 0x1FAC7, .refused), (0x1FAC9, 0x1FACC, .refused),
  (0x1FADD, 0x1FADE, .refused), (0x1FAEB, 0x1FAEE, .refused), (0x1FAF9, 0x1FAFF, .refused),
  (0x1FB93, 0x1FB93, .refused), (0x1FBF0, 0x1FBF9, .shifted (-129984)),
  (0x1FBFB, 0x1FFFF, .refused), (0x2A6E0, 0x2A6FF, .refused), (0x2B81E, 0x2B81F, .refused),
  (0x2CEAE, 0x2CEAF, .refused), (0x2EBE1, 0x2EBEF, .refused), (0x2EE5E, 0x2F7FF, .refused),
  (0x2F800, 0x2FA1D, .letters (
    "丽丸乁𠄢你侮侻倂偺備僧像㒞𠘺免兔兤具𠔜㒹內再𠕋冗冤仌冬况𩇟凵刃㓟刻剆割剷㔕勇勉勤勺包" ++
    "匆北卉卑博即卽卿卿卿𠨬灰及叟𠭣叫叱吆咞吸呈周咢哶唐啓啣善善喙喫喳嗂圖嘆圗噑噴切壮城埴" ++
    "堍型堲報墬𡓤売壷夆多夢奢𡚨𡛪姬娛娧姘婦㛮㛼嬈嬾嬾𡧈寃寘寧寳𡬘寿将当尢㞁屠屮峀岍𡷤嵃𡷦" ++
    "嵮嵫嵼巡巢㠯巽帨帽幩㡢𢆃㡼庰庳庶廊𪎒廾𢌱𢌱舁弢弢㣇𣊸𦇚形彫㣣徚忍志忹悁㤺㤜悔𢛔惇慈慌" ++
    "慎慌慺憎憲憤憯懞懲懶成戛扝抱拔捐𢬌挽拼捨掃揤𢯱搢揅掩㨮摩摾撝摷㩬敏敬𣀊旣書晉㬙暑㬈㫤" ++
    "冒冕最暜肭䏙朗望朡杞杓𣏃㭉柺枅桒梅𣑭梎栟椔㮝楂榣槪檨𣚣櫛㰘次𣢧歔㱎歲殟殺殻𣪍𡴋𣫺汎𣲼" ++
    "沿泍汧洖派海流浩浸涅𣴞洴港湮㴳滋滇𣻑淹潮𣽞𣾎濆瀹瀞瀛㶖灊災灷炭𠔥煅𤉣熜𤎫爨爵牐𤘈犀犕" ++
    "𤜵𤠔獺王㺬玥㺸㺸瑇瑜瑱璅瓊㼛甤𤰶甾𤲒異𢆟瘐𤾡𤾸𥁄㿼䀈直𥃳𥃲𥄙𥄳眞真真睊䀹瞋䁆䂖𥐝硎碌" ++
    "磌䃣𥘦祖𥚚𥛅福秫䄯穀穊穏𥥼𥪧𥪧竮䈂𥮫篆築䈧𥲀糒䊠糨糣紀𥾆絣䌁緇縂繅䌴𦈨𦉇䍙𦋙罺𦌾羕翺" ++
    "者𦓚𦔣聠𦖨聰𣍟䏕育脃䐋脾媵𦞧𦞵𣎓𣎜舁舄辞䑫芑芋芝劳花芳芽苦𦬼若茝荣莭茣莽菧著荓菊菌菜" ++
    "𦰶𦵫𦳕䔫蓱蓳蔖𧏊蕤𦼬䕝䕡𦾱𧃒䕫虐虜虧虩蚩蚈蜎蛢蝹蜨蝫螆䗗蟡蠁䗹衠衣𧙧裗裞䘵裺㒻𧢮𧥦䚾" ++
    "䛇誠諭變豕𧲨貫賁贛起𧼯𠠄跋趼跰𠣞軔輸𨗒𨗭邔郱鄑𨜮鄛鈸鋗鋘鉼鏹鐕𨯺開䦕閷𨵷䧦雃嶲霣𩅅𩈚" ++
    "䩮䩶韠𩐊䪲𩒖頋頋頩𩖶飢䬳餩馧駂駾䯎𩬰鬒鱀鳽䳎䳭鵧𪃎䳸𪄅𪈎𪊑麻䵖黹黾鼅鼏鼖鼻𪘀")),
  (0x2FA1E, 0x2FFFF, .refused), (0x3134B, 0x3134F, .refused), (0x3347A, 0xE00FF, .refused),
  (0xE0100, 0xE01EF, .dropped), (0xE01F0, 0x10FFFF, .refused)]

/-- The characters that do not stand for themselves, as closed ranges in increasing
order. -/
def images : Text.ClassTable Image := alphabetImages ++ symbolImages ++ furtherImages

namespace Image

/-- What the character `c` at a position of its range stands for. -/
def at? (c : Char) (position : Nat) : Image → Option (List Char)
  | refused => none
  | dropped => some []
  | shifted distance => some [Char.ofNat (c.toNat + distance).toNat]
  | paired => some [if position % 2 = 0 then Char.ofNat (c.toNat + 1) else c]
  | letters text => text.toList[position]?.map fun letter => [letter]
  | words texts => texts[position]?.map String.toList

end Image

/-- What a character stands for; none when it may not be used. -/
def image? (c : Char) : Option (List Char) :=
  match images.row? c with
  | some (first, _, image) => image.at? c (c.toNat - first)
  | none => some [c]

end ManagedLdap.DomainName
