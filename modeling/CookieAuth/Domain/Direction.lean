import CookieAuth.Text.CodeSet

/-!
# Writing direction

The rules for domain names that have labels written from right to left.  Classes are given for the
characters that may stand in a label; those that no rule tells apart are one class here.

## Main definitions

* `Direction`: the classes of characters that the rules distinguish;
* `direction`: the class of a character;
* `isMark`: characters that attach to the one before them;
* `fitsDirection`: whether a label obeys the rules.
-/

namespace CookieAuth.Domain

open Text

/-- Classes of characters by writing direction. -/
inductive Direction where
  | left
  | right
  | arabicNumber
  | europeanNumber
  | mark
  | neutral
  | other
  deriving DecidableEq, Repr

/-- The points where the class changes. -/
def directionStarts : Array Nat := #[
  0x0, 0x9, 0xE, 0x1C, 0x21, 0x30, 0x3A, 0x61, 0x7B, 0xDF, 0xF7, 0xF8, 0x2B9, 0x2BB, 0x2C2, 0x2D0,
  0x2D2, 0x2EE, 0x2EF, 0x300, 0x371, 0x375, 0x377, 0x3F6, 0x3F8, 0x483, 0x48B, 0x58A, 0x591, 0x5BE,
  0x5BF, 0x5C0, 0x5C1, 0x5C3, 0x5C4, 0x5C6, 0x5C7, 0x5D0, 0x606, 0x608, 0x609, 0x60B, 0x60C, 0x60D,
  0x60E, 0x610, 0x61B, 0x64B, 0x660, 0x66A, 0x66B, 0x66D, 0x670, 0x671, 0x6D6, 0x6DE, 0x6DF, 0x6E5,
  0x6E7, 0x6E9, 0x6EA, 0x6EE, 0x6F0, 0x6FA, 0x711, 0x712, 0x730, 0x74D, 0x7A6, 0x7B1, 0x7EB, 0x7F4,
  0x7F6, 0x7FA, 0x7FD, 0x7FE, 0x816, 0x81A, 0x81B, 0x824, 0x825, 0x828, 0x829, 0x830, 0x859, 0x85E,
  0x898, 0x8A0, 0x8CA, 0x903, 0x93A, 0x93B, 0x93C, 0x93D, 0x941, 0x949, 0x94D, 0x94E, 0x951, 0x960,
  0x962, 0x964, 0x981, 0x982, 0x9BC, 0x9BD, 0x9C1, 0x9C7, 0x9CD, 0x9CE, 0x9E2, 0x9E6, 0x9F2, 0x9F4,
  0x9FB, 0x9FC, 0x9FE, 0xA03, 0xA3C, 0xA3E, 0xA41, 0xA5C, 0xA70, 0xA72, 0xA75, 0xA76, 0xA81, 0xA83,
  0xABC, 0xABD, 0xAC1, 0xAC9, 0xACD, 0xAD0, 0xAE2, 0xAE6, 0xAF1, 0xAF9, 0xAFA, 0xB02, 0xB3C, 0xB3D,
  0xB3F, 0xB40, 0xB41, 0xB47, 0xB4D, 0xB57, 0xB62, 0xB66, 0xB82, 0xB83, 0xBC0, 0xBC1, 0xBCD, 0xBD0,
  0xBF3, 0xC00, 0xC01, 0xC04, 0xC05, 0xC3C, 0xC3D, 0xC3E, 0xC41, 0xC46, 0xC58, 0xC62, 0xC66, 0xC78,
  0xC7F, 0xC81, 0xC82, 0xCBC, 0xCBD, 0xCCC, 0xCD5, 0xCE2, 0xCE6, 0xD00, 0xD02, 0xD3B, 0xD3D, 0xD41,
  0xD46, 0xD4D, 0xD4E, 0xD62, 0xD66, 0xD81, 0xD82, 0xDCA, 0xDCF, 0xDD2, 0xDD8, 0xE31, 0xE32, 0xE34,
  0xE3F, 0xE40, 0xE47, 0xE4F, 0xEB1, 0xEB2, 0xEB4, 0xEBD, 0xEC8, 0xED0, 0xF18, 0xF1A, 0xF35, 0xF36,
  0xF37, 0xF38, 0xF39, 0xF3A, 0xF3E, 0xF71, 0xF7F, 0xF80, 0xF85, 0xF86, 0xF88, 0xF8D, 0xFBE, 0xFC6,
  0xFC7, 0x102D, 0x1031, 0x1032, 0x1038, 0x1039, 0x103B, 0x103D, 0x103F, 0x1058, 0x105A, 0x105E,
  0x1061, 0x1071, 0x1075, 0x1082, 0x1083, 0x1085, 0x1087, 0x108D, 0x108E, 0x109D, 0x109E, 0x135D,
  0x1360, 0x1390, 0x13A0, 0x1400, 0x1401, 0x169B, 0x16A0, 0x1712, 0x1715, 0x1732, 0x1734, 0x1752,
  0x1760, 0x1772, 0x1780, 0x17B7, 0x17BE, 0x17C6, 0x17C7, 0x17C9, 0x17D4, 0x17DB, 0x17DC, 0x17DD,
  0x17E0, 0x17F0, 0x1810, 0x1885, 0x1887, 0x18A9, 0x18AA, 0x1920, 0x1923, 0x1927, 0x1929, 0x1932,
  0x1933, 0x1939, 0x1940, 0x1946, 0x19DE, 0x1A00, 0x1A17, 0x1A19, 0x1A1B, 0x1A1E, 0x1A56, 0x1A57,
  0x1A58, 0x1A61, 0x1A62, 0x1A63, 0x1A65, 0x1A6D, 0x1A73, 0x1A80, 0x1AB0, 0x1B04, 0x1B34, 0x1B35,
  0x1B36, 0x1B3B, 0x1B3C, 0x1B3D, 0x1B42, 0x1B43, 0x1B6B, 0x1B74, 0x1B80, 0x1B82, 0x1BA2, 0x1BA6,
  0x1BA8, 0x1BAA, 0x1BAB, 0x1BAE, 0x1BE6, 0x1BE7, 0x1BE8, 0x1BEA, 0x1BED, 0x1BEE, 0x1BEF, 0x1BF2,
  0x1C2C, 0x1C34, 0x1C36, 0x1C3B, 0x1CD0, 0x1CD3, 0x1CD4, 0x1CE1, 0x1CE2, 0x1CE9, 0x1CED, 0x1CEE,
  0x1CF4, 0x1CF5, 0x1CF8, 0x1CFA, 0x1DC0, 0x1E01, 0x200C, 0x20D0, 0x2104, 0x214E, 0x218A, 0x2336,
  0x237B, 0x2395, 0x2396, 0x26AC, 0x26AD, 0x2800, 0x2900, 0x2C30, 0x2CE5, 0x2CEC, 0x2CEF, 0x2CF3,
  0x2CF9, 0x2D00, 0x2D7F, 0x2D80, 0x2DE0, 0x2E00, 0x3005, 0x3008, 0x3021, 0x302A, 0x302E, 0x3030,
  0x3031, 0x3037, 0x303B, 0x303D, 0x3041, 0x3099, 0x309D, 0x30A0, 0x30A1, 0x30FB, 0x30FC, 0x31C0,
  0x31F0, 0x4DC0, 0x4E00, 0xA490, 0xA4D0, 0xA60D, 0xA610, 0xA66F, 0xA673, 0xA674, 0xA67E, 0xA681,
  0xA69E, 0xA6A0, 0xA6F0, 0xA6F2, 0xA700, 0xA723, 0xA788, 0xA789, 0xA802, 0xA803, 0xA806, 0xA807,
  0xA80B, 0xA80C, 0xA825, 0xA827, 0xA828, 0xA82C, 0xA830, 0xA838, 0xA840, 0xA874, 0xA880, 0xA8C4,
  0xA8CE, 0xA8E0, 0xA8F2, 0xA8FF, 0xA900, 0xA926, 0xA92E, 0xA947, 0xA952, 0xA980, 0xA983, 0xA9B3,
  0xA9B4, 0xA9B6, 0xA9BA, 0xA9BC, 0xA9BE, 0xA9E5, 0xA9E6, 0xAA29, 0xAA2F, 0xAA31, 0xAA33, 0xAA35,
  0xAA40, 0xAA43, 0xAA44, 0xAA4C, 0xAA4D, 0xAA7C, 0xAA7D, 0xAAB0, 0xAAB1, 0xAAB2, 0xAAB5, 0xAAB7,
  0xAAB9, 0xAABE, 0xAAC0, 0xAAC1, 0xAAC2, 0xAAEC, 0xAAEE, 0xAAF6, 0xAB01, 0xAB6A, 0xABC0, 0xABE5,
  0xABE6, 0xABE8, 0xABE9, 0xABED, 0xABF0, 0xFB1E, 0xFBB2, 0xFD3E, 0xFE20, 0xFE45, 0xFE73, 0x10000,
  0x10101, 0x10102, 0x10140, 0x1018D, 0x10190, 0x101D0, 0x101FD, 0x10280, 0x102E0, 0x102E1,
  0x10300, 0x10376, 0x10380, 0x10800, 0x1091F, 0x10920, 0x10A01, 0x10A10, 0x10A38, 0x10A40,
  0x10AE5, 0x10AEB, 0x10B39, 0x10B40, 0x10D24, 0x10D30, 0x10E80, 0x10EAB, 0x10EAD, 0x10EFD,
  0x10F00, 0x10F46, 0x10F51, 0x10F82, 0x10F86, 0x11000, 0x11001, 0x11002, 0x11038, 0x11047,
  0x11052, 0x11066, 0x11070, 0x11071, 0x11073, 0x11075, 0x1107F, 0x11082, 0x110B3, 0x110B7,
  0x110B9, 0x110BB, 0x110C2, 0x110D0, 0x11100, 0x11103, 0x11127, 0x1112C, 0x1112D, 0x11136,
  0x11173, 0x11174, 0x11180, 0x11182, 0x111B6, 0x111BF, 0x111C9, 0x111CD, 0x111CF, 0x111D0,
  0x1122F, 0x11232, 0x11234, 0x11235, 0x11236, 0x11238, 0x1123E, 0x1123F, 0x11241, 0x11280,
  0x112DF, 0x112E0, 0x112E3, 0x112F0, 0x11300, 0x11302, 0x1133B, 0x1133D, 0x11340, 0x11341,
  0x11366, 0x11400, 0x11438, 0x11440, 0x11442, 0x11445, 0x11446, 0x11447, 0x1145E, 0x1145F,
  0x114B3, 0x114B9, 0x114BA, 0x114BB, 0x114BF, 0x114C1, 0x114C2, 0x114C4, 0x115B2, 0x115B8,
  0x115BC, 0x115BE, 0x115BF, 0x115C1, 0x115DC, 0x11600, 0x11633, 0x1163B, 0x1163D, 0x1163E,
  0x1163F, 0x11641, 0x11660, 0x11680, 0x116AB, 0x116AC, 0x116AD, 0x116AE, 0x116B0, 0x116B6,
  0x116B7, 0x116B8, 0x1171D, 0x11720, 0x11722, 0x11726, 0x11727, 0x11730, 0x1182F, 0x11838,
  0x11839, 0x1183B, 0x1193B, 0x1193D, 0x1193E, 0x1193F, 0x11943, 0x11944, 0x119D4, 0x119DC,
  0x119E0, 0x119E1, 0x11A01, 0x11A07, 0x11A09, 0x11A0B, 0x11A33, 0x11A39, 0x11A3B, 0x11A3F,
  0x11A47, 0x11A50, 0x11A51, 0x11A57, 0x11A59, 0x11A5C, 0x11A8A, 0x11A97, 0x11A98, 0x11A9A,
  0x11C30, 0x11C3E, 0x11C92, 0x11CA9, 0x11CAA, 0x11CB1, 0x11CB2, 0x11CB4, 0x11CB5, 0x11D00,
  0x11D31, 0x11D46, 0x11D47, 0x11D50, 0x11D90, 0x11D93, 0x11D95, 0x11D96, 0x11D97, 0x11D98,
  0x11EF3, 0x11EF5, 0x11F00, 0x11F02, 0x11F36, 0x11F3E, 0x11F40, 0x11F41, 0x11F42, 0x11F43,
  0x11FD5, 0x11FFF, 0x13440, 0x13441, 0x13447, 0x14400, 0x16AF0, 0x16AF5, 0x16B30, 0x16B37,
  0x16F4F, 0x16F50, 0x16F8F, 0x16F93, 0x16FE2, 0x16FE3, 0x16FE4, 0x16FF0, 0x1BC9D, 0x1BC9F,
  0x1CF00, 0x1CF50, 0x1D167, 0x1D16A, 0x1D17B, 0x1D183, 0x1D185, 0x1D18C, 0x1D1AA, 0x1D1AE,
  0x1D1E9, 0x1D242, 0x1D245, 0x1D2C0, 0x1D300, 0x1D360, 0x1DA00, 0x1DA37, 0x1DA3B, 0x1DA6D,
  0x1DA75, 0x1DA76, 0x1DA84, 0x1DA85, 0x1DA9B, 0x1DF00, 0x1E000, 0x1E100, 0x1E130, 0x1E137,
  0x1E2AE, 0x1E2C0, 0x1E2EC, 0x1E2F0, 0x1E2FF, 0x1E4D0, 0x1E4EC, 0x1E4F0, 0x1E800, 0x1E8D0,
  0x1E922, 0x1E944, 0x1E94B, 0x1EEF0, 0x1F150, 0x1F16D, 0x1F170, 0x1F1AD, 0x1F1E6, 0x1F260, 0x20000]

/-- The class from each of these points on, by its position in `directionOrder`. -/
def directionCodes : Array Nat := #[
  5, 6, 5, 6, 5, 3, 5, 0, 5, 0, 5, 0, 5, 0, 5, 0, 5, 0, 5, 4, 0, 5, 0, 5, 0, 4, 0, 5, 4, 1, 4, 1,
  4, 1, 4, 1, 4, 1, 5, 1, 5, 1, 5, 1, 5, 4, 1, 4, 2, 5, 2, 1, 4, 1, 4, 5, 4, 1, 4, 5, 4, 1, 3, 1,
  4, 1, 4, 1, 4, 1, 4, 1, 5, 1, 4, 1, 4, 1, 4, 1, 4, 1, 4, 1, 4, 1, 4, 1, 4, 0, 4, 0, 4, 0, 4, 0,
  4, 0, 4, 0, 4, 0, 4, 0, 4, 0, 4, 0, 4, 0, 4, 0, 5, 0, 5, 0, 4, 0, 4, 0, 4, 0, 4, 0, 4, 0, 4, 0,
  4, 0, 4, 0, 4, 0, 4, 0, 5, 0, 4, 0, 4, 0, 4, 0, 4, 0, 4, 0, 4, 0, 4, 0, 4, 0, 4, 0, 5, 4, 0, 4,
  0, 4, 0, 4, 0, 4, 0, 4, 0, 5, 0, 4, 0, 4, 0, 4, 0, 4, 0, 4, 0, 4, 0, 4, 0, 4, 0, 4, 0, 4, 0, 4,
  0, 4, 0, 4, 0, 4, 5, 0, 4, 0, 4, 0, 4, 0, 4, 0, 4, 0, 4, 0, 4, 0, 4, 5, 0, 4, 0, 4, 0, 4, 0, 4,
  0, 4, 0, 4, 0, 4, 0, 4, 0, 4, 0, 4, 0, 4, 0, 4, 0, 4, 0, 4, 0, 4, 0, 4, 0, 4, 0, 5, 0, 5, 0, 5,
  0, 4, 0, 4, 0, 4, 0, 4, 0, 4, 0, 4, 0, 4, 0, 5, 0, 4, 0, 5, 0, 4, 0, 4, 0, 4, 0, 4, 0, 4, 0, 4,
  5, 0, 5, 0, 4, 0, 4, 0, 4, 0, 4, 0, 4, 0, 4, 0, 4, 0, 4, 0, 4, 0, 4, 0, 4, 0, 4, 0, 4, 0, 4, 0,
  4, 0, 4, 0, 4, 0, 4, 0, 4, 0, 4, 0, 4, 0, 4, 0, 4, 0, 4, 0, 4, 0, 4, 0, 4, 0, 4, 0, 4, 0, 4, 0,
  5, 4, 5, 0, 5, 0, 5, 0, 5, 0, 5, 0, 5, 0, 5, 0, 4, 0, 5, 0, 4, 0, 4, 5, 0, 5, 0, 4, 0, 5, 0, 5,
  0, 5, 0, 4, 0, 5, 0, 5, 0, 5, 0, 5, 0, 5, 0, 5, 0, 4, 5, 4, 5, 0, 4, 0, 4, 0, 5, 0, 5, 0, 4, 0,
  4, 0, 4, 0, 4, 0, 5, 4, 0, 5, 0, 5, 0, 4, 0, 4, 0, 4, 0, 4, 0, 4, 0, 4, 0, 4, 0, 4, 0, 4, 0, 4,
  0, 4, 0, 4, 0, 4, 0, 4, 0, 4, 0, 4, 0, 4, 0, 4, 0, 4, 0, 4, 0, 4, 0, 4, 0, 4, 0, 5, 0, 4, 0, 4,
  0, 4, 0, 4, 1, 5, 4, 5, 1, 0, 5, 0, 5, 0, 5, 0, 4, 0, 4, 3, 0, 4, 0, 1, 5, 1, 4, 1, 4, 1, 4, 1,
  5, 1, 4, 2, 1, 4, 1, 4, 1, 4, 1, 4, 1, 0, 4, 0, 4, 0, 5, 0, 4, 0, 4, 0, 4, 0, 4, 0, 4, 0, 4, 0,
  4, 0, 4, 0, 4, 0, 4, 0, 4, 0, 4, 0, 4, 0, 4, 0, 4, 0, 4, 0, 4, 0, 4, 0, 4, 0, 4, 0, 4, 0, 4, 0,
  4, 0, 4, 0, 4, 0, 4, 0, 4, 0, 4, 0, 4, 0, 4, 0, 4, 0, 4, 0, 4, 0, 4, 0, 4, 0, 4, 0, 4, 0, 4, 0,
  4, 0, 4, 0, 5, 0, 4, 0, 4, 0, 4, 0, 4, 0, 4, 0, 4, 0, 4, 0, 4, 0, 4, 0, 4, 0, 4, 0, 4, 0, 4, 0,
  4, 0, 4, 0, 4, 0, 4, 0, 4, 0, 4, 0, 4, 0, 4, 0, 4, 0, 4, 0, 4, 0, 4, 0, 4, 0, 4, 0, 4, 0, 4, 0,
  4, 0, 4, 0, 4, 0, 4, 0, 4, 0, 4, 0, 4, 0, 4, 0, 4, 0, 5, 0, 4, 0, 4, 0, 4, 0, 4, 0, 4, 0, 4, 0,
  5, 0, 4, 0, 4, 0, 4, 0, 4, 0, 4, 0, 4, 0, 4, 0, 5, 4, 5, 0, 5, 0, 4, 0, 4, 0, 4, 0, 4, 0, 4, 0,
  4, 0, 4, 0, 4, 0, 4, 0, 5, 0, 4, 0, 1, 4, 1, 4, 1, 5, 0, 5, 0, 5, 0, 5, 0]

/-- The classes in the order of their codes. -/
def directionOrder : Array Direction :=
  #[.left, .right, .arabicNumber, .europeanNumber, .mark, .neutral, .other]

/-- The class of a character. -/
def direction (c : Char) : Direction :=
  let k := rank directionStarts c.toNat
  if k = 0 then .left
  else directionOrder.getD (directionCodes.getD (k - 1) 0) .left

/-- The characters that attach to the one before them. -/
def marks : CodeSet := .mk #[
  0x300, 0x371, 0x483, 0x48B, 0x591, 0x5BE, 0x5BF, 0x5C0, 0x5C1, 0x5C3, 0x5C4, 0x5C6, 0x5C7, 0x5D0,
  0x610, 0x61B, 0x64B, 0x660, 0x670, 0x671, 0x6D6, 0x6DE, 0x6DF, 0x6E5, 0x6E7, 0x6E9, 0x6EA, 0x6EE,
  0x711, 0x712, 0x730, 0x74D, 0x7A6, 0x7B1, 0x7EB, 0x7F4, 0x7FD, 0x7FE, 0x816, 0x81A, 0x81B, 0x824,
  0x825, 0x828, 0x829, 0x830, 0x859, 0x85E, 0x898, 0x8A0, 0x8CA, 0x904, 0x93A, 0x93D, 0x93E, 0x950,
  0x951, 0x960, 0x962, 0x964, 0x981, 0x985, 0x9BC, 0x9BD, 0x9BE, 0x9CE, 0x9D7, 0x9E0, 0x9E2, 0x9E6,
  0x9FE, 0xA05, 0xA3C, 0xA5C, 0xA70, 0xA72, 0xA75, 0xA76, 0xA81, 0xA85, 0xABC, 0xABD, 0xABE, 0xAD0,
  0xAE2, 0xAE6, 0xAFA, 0xB05, 0xB3C, 0xB3D, 0xB3E, 0xB5F, 0xB62, 0xB66, 0xB82, 0xB83, 0xBBE, 0xBD0,
  0xBD7, 0xBE6, 0xC00, 0xC05, 0xC3C, 0xC3D, 0xC3E, 0xC58, 0xC62, 0xC66, 0xC81, 0xC84, 0xCBC, 0xCBD,
  0xCBE, 0xCDD, 0xCE2, 0xCE6, 0xCF3, 0xD04, 0xD3B, 0xD3D, 0xD3E, 0xD4E, 0xD57, 0xD58, 0xD62, 0xD66,
  0xD81, 0xD85, 0xDCA, 0xDE6, 0xDF2, 0xDF4, 0xE31, 0xE32, 0xE34, 0xE3F, 0xE47, 0xE4F, 0xEB1, 0xEB2,
  0xEB4, 0xEBD, 0xEC8, 0xED0, 0xF18, 0xF1A, 0xF35, 0xF36, 0xF37, 0xF38, 0xF39, 0xF3A, 0xF3E, 0xF40,
  0xF71, 0xF85, 0xF86, 0xF88, 0xF8D, 0xFBE, 0xFC6, 0xFC7, 0x102B, 0x103F, 0x1056, 0x105A, 0x105E,
  0x1061, 0x1062, 0x1065, 0x1067, 0x106E, 0x1071, 0x1075, 0x1082, 0x108E, 0x108F, 0x1090, 0x109A,
  0x109E, 0x135D, 0x1360, 0x1712, 0x171F, 0x1732, 0x1735, 0x1752, 0x1760, 0x1772, 0x1780, 0x17B6,
  0x17D4, 0x17DD, 0x17E0, 0x1885, 0x1887, 0x18A9, 0x18AA, 0x1920, 0x1940, 0x1A17, 0x1A1E, 0x1A55,
  0x1A80, 0x1AB0, 0x1B05, 0x1B34, 0x1B45, 0x1B6B, 0x1B74, 0x1B80, 0x1B83, 0x1BA1, 0x1BAE, 0x1BE6,
  0x1BFC, 0x1C24, 0x1C3B, 0x1CD0, 0x1CD3, 0x1CD4, 0x1CE9, 0x1CED, 0x1CEE, 0x1CF4, 0x1CF5, 0x1CF7,
  0x1CFA, 0x1DC0, 0x1E01, 0x20D0, 0x2104, 0x2CEF, 0x2CF3, 0x2D7F, 0x2D80, 0x2DE0, 0x2E00, 0x302A,
  0x3030, 0x3099, 0x309D, 0xA66F, 0xA673, 0xA674, 0xA67E, 0xA69E, 0xA6A0, 0xA6F0, 0xA6F2, 0xA802,
  0xA803, 0xA806, 0xA807, 0xA80B, 0xA80C, 0xA823, 0xA828, 0xA82C, 0xA830, 0xA880, 0xA882, 0xA8B4,
  0xA8CE, 0xA8E0, 0xA8F2, 0xA8FF, 0xA900, 0xA926, 0xA92E, 0xA947, 0xA95F, 0xA980, 0xA984, 0xA9B3,
  0xA9C1, 0xA9E5, 0xA9E6, 0xAA29, 0xAA40, 0xAA43, 0xAA44, 0xAA4C, 0xAA50, 0xAA7B, 0xAA7E, 0xAAB0,
  0xAAB1, 0xAAB2, 0xAAB5, 0xAAB7, 0xAAB9, 0xAABE, 0xAAC0, 0xAAC1, 0xAAC2, 0xAAEB, 0xAAF0, 0xAAF5,
  0xAB01, 0xABE3, 0xABEB, 0xABEC, 0xABF0, 0xFB1E, 0xFBB2, 0xFE20, 0xFE45, 0x101FD, 0x10280,
  0x102E0, 0x102E1, 0x10376, 0x10380, 0x10A01, 0x10A10, 0x10A38, 0x10A40, 0x10AE5, 0x10AEB,
  0x10D24, 0x10D30, 0x10EAB, 0x10EAD, 0x10EFD, 0x10F00, 0x10F46, 0x10F51, 0x10F82, 0x10F86,
  0x11000, 0x11003, 0x11038, 0x11047, 0x11070, 0x11071, 0x11073, 0x11075, 0x1107F, 0x11083,
  0x110B0, 0x110BB, 0x110C2, 0x110D0, 0x11100, 0x11103, 0x11127, 0x11136, 0x11145, 0x11147,
  0x11173, 0x11174, 0x11180, 0x11183, 0x111B3, 0x111C1, 0x111C9, 0x111CD, 0x111CE, 0x111D0,
  0x1122C, 0x11238, 0x1123E, 0x1123F, 0x11241, 0x11280, 0x112DF, 0x112F0, 0x11300, 0x11305,
  0x1133B, 0x1133D, 0x1133E, 0x11350, 0x11357, 0x1135D, 0x11362, 0x11400, 0x11435, 0x11447,
  0x1145E, 0x1145F, 0x114B0, 0x114C4, 0x115AF, 0x115C1, 0x115DC, 0x11600, 0x11630, 0x11641,
  0x116AB, 0x116B8, 0x1171D, 0x11730, 0x1182C, 0x1183B, 0x11930, 0x1193F, 0x11940, 0x11941,
  0x11942, 0x11944, 0x119D1, 0x119E1, 0x119E4, 0x11A00, 0x11A01, 0x11A0B, 0x11A33, 0x11A3A,
  0x11A3B, 0x11A3F, 0x11A47, 0x11A50, 0x11A51, 0x11A5C, 0x11A8A, 0x11A9A, 0x11C2F, 0x11C40,
  0x11C92, 0x11D00, 0x11D31, 0x11D46, 0x11D47, 0x11D50, 0x11D8A, 0x11D98, 0x11EF3, 0x11EF7,
  0x11F00, 0x11F02, 0x11F03, 0x11F04, 0x11F34, 0x11F43, 0x13440, 0x13441, 0x13447, 0x14400,
  0x16AF0, 0x16AF5, 0x16B30, 0x16B37, 0x16F4F, 0x16F50, 0x16F51, 0x16F93, 0x16FE4, 0x17000,
  0x1BC9D, 0x1BC9F, 0x1CF00, 0x1CF50, 0x1D165, 0x1D16A, 0x1D16D, 0x1D183, 0x1D185, 0x1D18C,
  0x1D1AA, 0x1D1AE, 0x1D242, 0x1D245, 0x1DA00, 0x1DA37, 0x1DA3B, 0x1DA6D, 0x1DA75, 0x1DA76,
  0x1DA84, 0x1DA85, 0x1DA9B, 0x1DF00, 0x1E000, 0x1E100, 0x1E130, 0x1E137, 0x1E2AE, 0x1E2C0,
  0x1E2EC, 0x1E2F0, 0x1E4EC, 0x1E4F0, 0x1E8D0, 0x1E922, 0x1E944, 0x1E94B]

/-- Whether a character attaches to the one before it. -/
def isMark (c : Char) : Bool :=
  marks.contains c

/-- Whether a character makes its label one that is written from right to left. -/
def isRightToLeft (c : Char) : Bool :=
  let d := direction c
  d = .right || d = .arabicNumber

/-- The class of the last character that is not a mark. -/
def lastDirection? (label : List Char) : Option Direction :=
  ((label.map direction).reverse.dropWhile (· = .mark)).head?

/-- Whether a label obeys the rules.  A label starts with a letter; one written from left to right
has no character of the other direction and ends with a letter or a European number, and one written
from right to left has no letter of the other direction, ends with a letter or a number and does not
mix the two kinds of numbers. -/
def fitsDirection (label : List Char) : Bool :=
  match label.map direction with
  | [] => true
  -- a label of one letter ends with that letter, and marks at the end do not count
  | .left :: rest =>
    rest.all (fun d => d = .left || d = .europeanNumber || d = .neutral || d = .mark)
      && (lastDirection? label).all (fun d => d = .left || d = .europeanNumber)
  | .right :: rest =>
    rest.all (fun d => d ≠ .left && d ≠ .other)
      && (lastDirection? label).any
        (fun d => d = .right || d = .europeanNumber || d = .arabicNumber)
      && !(rest.contains .europeanNumber && rest.contains .arabicNumber)
  | _ => false

end CookieAuth.Domain
