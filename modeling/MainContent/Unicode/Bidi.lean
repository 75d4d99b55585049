import MainContent.Text.RangeMap

/-!
# Bidirectional classes

The class that decides in which direction a character runs.
-/

namespace MainContent.Unicode

/-- The bidirectional classes that a domain may hold, and `other` for the rest. -/
inductive BidiClass where
  /-- Left to right. -/
  | l
  /-- Right to left. -/
  | r
  /-- An Arabic letter, which runs from right to left. -/
  | al
  /-- An Arabic number. -/
  | an
  /-- A European number. -/
  | en
  /-- A separator within European numbers. -/
  | es
  /-- A separator within numbers. -/
  | cs
  /-- A sign that belongs to a European number. -/
  | et
  /-- A neutral character. -/
  | on
  /-- A neutral character at a boundary. -/
  | bn
  /-- A mark that takes no space. -/
  | nsm
  /-- A separator or a control of the direction. -/
  | other
  deriving DecidableEq, Repr

/-- The classes of the characters that are not plainly left to right. -/
@[irreducible] def bidiClasses : Text.RangeMap BidiClass where
  entries := #[
    (0x0, 0x8, .bn), (0x9, 0x9, .other), (0xA, 0xA, .other), (0xB, 0xB, .other), (0xC, 0xC, .other),
    (0xD, 0xD, .other), (0xE, 0x1B, .bn), (0x1C, 0x1E, .other), (0x1F, 0x1F, .other),
    (0x20, 0x20, .other), (0x21, 0x22, .on), (0x23, 0x25, .et), (0x26, 0x2A, .on),
    (0x2B, 0x2B, .es), (0x2C, 0x2C, .cs), (0x2D, 0x2D, .es), (0x2E, 0x2F, .cs), (0x30, 0x39, .en),
    (0x3A, 0x3A, .cs), (0x3B, 0x40, .on), (0x5B, 0x60, .on), (0x7B, 0x7E, .on), (0x7F, 0x84, .bn),
    (0x85, 0x85, .other), (0x86, 0x9F, .bn), (0xA0, 0xA0, .cs), (0xA1, 0xA1, .on),
    (0xA2, 0xA5, .et), (0xA6, 0xA9, .on), (0xAB, 0xAC, .on), (0xAD, 0xAD, .bn), (0xAE, 0xAF, .on),
    (0xB0, 0xB1, .et), (0xB2, 0xB3, .en), (0xB4, 0xB4, .on), (0xB6, 0xB8, .on), (0xB9, 0xB9, .en),
    (0xBB, 0xBF, .on), (0xD7, 0xD7, .on), (0xF7, 0xF7, .on), (0x2B9, 0x2BA, .on),
    (0x2C2, 0x2CF, .on), (0x2D2, 0x2DF, .on), (0x2E5, 0x2ED, .on), (0x2EF, 0x2FF, .on),
    (0x300, 0x36F, .nsm), (0x374, 0x375, .on), (0x37E, 0x37E, .on), (0x384, 0x385, .on),
    (0x387, 0x387, .on), (0x3F6, 0x3F6, .on), (0x483, 0x489, .nsm), (0x58A, 0x58A, .on),
    (0x58D, 0x58E, .on), (0x58F, 0x58F, .et), (0x591, 0x5BD, .nsm), (0x5BE, 0x5BE, .r),
    (0x5BF, 0x5BF, .nsm), (0x5C0, 0x5C0, .r), (0x5C1, 0x5C2, .nsm), (0x5C3, 0x5C3, .r),
    (0x5C4, 0x5C5, .nsm), (0x5C6, 0x5C6, .r), (0x5C7, 0x5C7, .nsm), (0x5D0, 0x5EA, .r),
    (0x5EF, 0x5F4, .r), (0x600, 0x605, .an), (0x606, 0x607, .on), (0x608, 0x608, .al),
    (0x609, 0x60A, .et), (0x60B, 0x60B, .al), (0x60C, 0x60C, .cs), (0x60D, 0x60D, .al),
    (0x60E, 0x60F, .on), (0x610, 0x61A, .nsm), (0x61B, 0x64A, .al), (0x64B, 0x65F, .nsm),
    (0x660, 0x669, .an), (0x66A, 0x66A, .et), (0x66B, 0x66C, .an), (0x66D, 0x66F, .al),
    (0x670, 0x670, .nsm), (0x671, 0x6D5, .al), (0x6D6, 0x6DC, .nsm), (0x6DD, 0x6DD, .an),
    (0x6DE, 0x6DE, .on), (0x6DF, 0x6E4, .nsm), (0x6E5, 0x6E6, .al), (0x6E7, 0x6E8, .nsm),
    (0x6E9, 0x6E9, .on), (0x6EA, 0x6ED, .nsm), (0x6EE, 0x6EF, .al), (0x6F0, 0x6F9, .en),
    (0x6FA, 0x70D, .al), (0x70F, 0x710, .al), (0x711, 0x711, .nsm), (0x712, 0x72F, .al),
    (0x730, 0x74A, .nsm), (0x74D, 0x7A5, .al), (0x7A6, 0x7B0, .nsm), (0x7B1, 0x7B1, .al),
    (0x7C0, 0x7EA, .r), (0x7EB, 0x7F3, .nsm), (0x7F4, 0x7F5, .r), (0x7F6, 0x7F9, .on),
    (0x7FA, 0x7FA, .r), (0x7FD, 0x7FD, .nsm), (0x7FE, 0x815, .r), (0x816, 0x819, .nsm),
    (0x81A, 0x81A, .r), (0x81B, 0x823, .nsm), (0x824, 0x824, .r), (0x825, 0x827, .nsm),
    (0x828, 0x828, .r), (0x829, 0x82D, .nsm), (0x830, 0x83E, .r), (0x840, 0x858, .r),
    (0x859, 0x85B, .nsm), (0x85E, 0x85E, .r), (0x860, 0x86A, .al), (0x870, 0x88F, .al),
    (0x890, 0x891, .an), (0x897, 0x89F, .nsm), (0x8A0, 0x8C9, .al), (0x8CA, 0x8E1, .nsm),
    (0x8E2, 0x8E2, .an), (0x8E3, 0x902, .nsm), (0x93A, 0x93A, .nsm), (0x93C, 0x93C, .nsm),
    (0x941, 0x948, .nsm), (0x94D, 0x94D, .nsm), (0x951, 0x957, .nsm), (0x962, 0x963, .nsm),
    (0x981, 0x981, .nsm), (0x9BC, 0x9BC, .nsm), (0x9C1, 0x9C4, .nsm), (0x9CD, 0x9CD, .nsm),
    (0x9E2, 0x9E3, .nsm), (0x9F2, 0x9F3, .et), (0x9FB, 0x9FB, .et), (0x9FE, 0x9FE, .nsm),
    (0xA01, 0xA02, .nsm), (0xA3C, 0xA3C, .nsm), (0xA41, 0xA42, .nsm), (0xA47, 0xA48, .nsm),
    (0xA4B, 0xA4D, .nsm), (0xA51, 0xA51, .nsm), (0xA70, 0xA71, .nsm), (0xA75, 0xA75, .nsm),
    (0xA81, 0xA82, .nsm), (0xABC, 0xABC, .nsm), (0xAC1, 0xAC5, .nsm), (0xAC7, 0xAC8, .nsm),
    (0xACD, 0xACD, .nsm), (0xAE2, 0xAE3, .nsm), (0xAF1, 0xAF1, .et), (0xAFA, 0xAFF, .nsm),
    (0xB01, 0xB01, .nsm), (0xB3C, 0xB3C, .nsm), (0xB3F, 0xB3F, .nsm), (0xB41, 0xB44, .nsm),
    (0xB4D, 0xB4D, .nsm), (0xB55, 0xB56, .nsm), (0xB62, 0xB63, .nsm), (0xB82, 0xB82, .nsm),
    (0xBC0, 0xBC0, .nsm), (0xBCD, 0xBCD, .nsm), (0xBF3, 0xBF8, .on), (0xBF9, 0xBF9, .et),
    (0xBFA, 0xBFA, .on), (0xC00, 0xC00, .nsm), (0xC04, 0xC04, .nsm), (0xC3C, 0xC3C, .nsm),
    (0xC3E, 0xC40, .nsm), (0xC46, 0xC48, .nsm), (0xC4A, 0xC4D, .nsm), (0xC55, 0xC56, .nsm),
    (0xC62, 0xC63, .nsm), (0xC78, 0xC7E, .on), (0xC81, 0xC81, .nsm), (0xCBC, 0xCBC, .nsm),
    (0xCCC, 0xCCD, .nsm), (0xCE2, 0xCE3, .nsm), (0xD00, 0xD01, .nsm), (0xD3B, 0xD3C, .nsm),
    (0xD41, 0xD44, .nsm), (0xD4D, 0xD4D, .nsm), (0xD62, 0xD63, .nsm), (0xD81, 0xD81, .nsm),
    (0xDCA, 0xDCA, .nsm), (0xDD2, 0xDD4, .nsm), (0xDD6, 0xDD6, .nsm), (0xE31, 0xE31, .nsm),
    (0xE34, 0xE3A, .nsm), (0xE3F, 0xE3F, .et), (0xE47, 0xE4E, .nsm), (0xEB1, 0xEB1, .nsm),
    (0xEB4, 0xEBC, .nsm), (0xEC8, 0xECE, .nsm), (0xF18, 0xF19, .nsm), (0xF35, 0xF35, .nsm),
    (0xF37, 0xF37, .nsm), (0xF39, 0xF39, .nsm), (0xF3A, 0xF3D, .on), (0xF71, 0xF7E, .nsm),
    (0xF80, 0xF84, .nsm), (0xF86, 0xF87, .nsm), (0xF8D, 0xF97, .nsm), (0xF99, 0xFBC, .nsm),
    (0xFC6, 0xFC6, .nsm), (0x102D, 0x1030, .nsm), (0x1032, 0x1037, .nsm), (0x1039, 0x103A, .nsm),
    (0x103D, 0x103E, .nsm), (0x1058, 0x1059, .nsm), (0x105E, 0x1060, .nsm), (0x1071, 0x1074, .nsm),
    (0x1082, 0x1082, .nsm), (0x1085, 0x1086, .nsm), (0x108D, 0x108D, .nsm), (0x109D, 0x109D, .nsm),
    (0x135D, 0x135F, .nsm), (0x1390, 0x1399, .on), (0x1400, 0x1400, .on), (0x1680, 0x1680, .other),
    (0x169B, 0x169C, .on), (0x1712, 0x1714, .nsm), (0x1732, 0x1733, .nsm), (0x1752, 0x1753, .nsm),
    (0x1772, 0x1773, .nsm), (0x17B4, 0x17B5, .nsm), (0x17B7, 0x17BD, .nsm), (0x17C6, 0x17C6, .nsm),
    (0x17C9, 0x17D3, .nsm), (0x17DB, 0x17DB, .et), (0x17DD, 0x17DD, .nsm), (0x17F0, 0x17F9, .on),
    (0x1800, 0x180A, .on), (0x180B, 0x180D, .nsm), (0x180E, 0x180E, .bn), (0x180F, 0x180F, .nsm),
    (0x1885, 0x1886, .nsm), (0x18A9, 0x18A9, .nsm), (0x1920, 0x1922, .nsm), (0x1927, 0x1928, .nsm),
    (0x1932, 0x1932, .nsm), (0x1939, 0x193B, .nsm), (0x1940, 0x1940, .on), (0x1944, 0x1945, .on),
    (0x19DE, 0x19FF, .on), (0x1A17, 0x1A18, .nsm), (0x1A1B, 0x1A1B, .nsm), (0x1A56, 0x1A56, .nsm),
    (0x1A58, 0x1A5E, .nsm), (0x1A60, 0x1A60, .nsm), (0x1A62, 0x1A62, .nsm), (0x1A65, 0x1A6C, .nsm),
    (0x1A73, 0x1A7C, .nsm), (0x1A7F, 0x1A7F, .nsm), (0x1AB0, 0x1ADD, .nsm), (0x1AE0, 0x1AEB, .nsm),
    (0x1B00, 0x1B03, .nsm), (0x1B34, 0x1B34, .nsm), (0x1B36, 0x1B3A, .nsm), (0x1B3C, 0x1B3C, .nsm),
    (0x1B42, 0x1B42, .nsm), (0x1B4E, 0x1B4F, .on), (0x1B6B, 0x1B73, .nsm), (0x1B7F, 0x1B7F, .on),
    (0x1B80, 0x1B81, .nsm), (0x1BA2, 0x1BA5, .nsm), (0x1BA8, 0x1BA9, .nsm), (0x1BAB, 0x1BAD, .nsm),
    (0x1BE6, 0x1BE6, .nsm), (0x1BE8, 0x1BE9, .nsm), (0x1BED, 0x1BED, .nsm), (0x1BEF, 0x1BF1, .nsm),
    (0x1C2C, 0x1C33, .nsm), (0x1C36, 0x1C37, .nsm), (0x1CD0, 0x1CD2, .nsm), (0x1CD4, 0x1CE0, .nsm),
    (0x1CE2, 0x1CE8, .nsm), (0x1CED, 0x1CED, .nsm), (0x1CF4, 0x1CF4, .nsm), (0x1CF8, 0x1CF9, .nsm),
    (0x1DC0, 0x1DFF, .nsm), (0x1FBD, 0x1FBD, .on), (0x1FBF, 0x1FC1, .on), (0x1FCD, 0x1FCF, .on),
    (0x1FDD, 0x1FDF, .on), (0x1FED, 0x1FEF, .on), (0x1FFD, 0x1FFE, .on), (0x2000, 0x200A, .other),
    (0x200B, 0x200D, .bn), (0x200F, 0x200F, .r), (0x2010, 0x2027, .on), (0x2028, 0x2028, .other),
    (0x2029, 0x2029, .other), (0x202A, 0x202A, .other), (0x202B, 0x202B, .other),
    (0x202C, 0x202C, .other), (0x202D, 0x202D, .other), (0x202E, 0x202E, .other),
    (0x202F, 0x202F, .cs), (0x2030, 0x2034, .et), (0x2035, 0x2043, .on), (0x2044, 0x2044, .cs),
    (0x2045, 0x205E, .on), (0x205F, 0x205F, .other), (0x2060, 0x2064, .bn),
    (0x2066, 0x2066, .other), (0x2067, 0x2067, .other), (0x2068, 0x2068, .other),
    (0x2069, 0x2069, .other), (0x206A, 0x206F, .bn), (0x2070, 0x2070, .en), (0x2074, 0x2079, .en),
    (0x207A, 0x207B, .es), (0x207C, 0x207E, .on), (0x2080, 0x2089, .en), (0x208A, 0x208B, .es),
    (0x208C, 0x208E, .on), (0x20A0, 0x20C0, .et), (0x20C1, 0x20C1, .on), (0x20D0, 0x20F0, .nsm),
    (0x2100, 0x2101, .on), (0x2103, 0x2106, .on), (0x2108, 0x2109, .on), (0x2114, 0x2114, .on),
    (0x2116, 0x2118, .on), (0x211E, 0x2123, .on), (0x2125, 0x2125, .on), (0x2127, 0x2127, .on),
    (0x2129, 0x2129, .on), (0x212E, 0x212E, .et), (0x213A, 0x213B, .on), (0x2140, 0x2144, .on),
    (0x214A, 0x214D, .on), (0x2150, 0x215F, .on), (0x2189, 0x218B, .on), (0x2190, 0x2211, .on),
    (0x2212, 0x2212, .es), (0x2213, 0x2213, .et), (0x2214, 0x2335, .on), (0x237B, 0x2394, .on),
    (0x2396, 0x2429, .on), (0x2440, 0x244A, .on), (0x2460, 0x2487, .on), (0x2488, 0x249B, .en),
    (0x24EA, 0x26AB, .on), (0x26AD, 0x27FF, .on), (0x2900, 0x2B73, .on), (0x2B76, 0x2BFF, .on),
    (0x2CE5, 0x2CEA, .on), (0x2CEF, 0x2CF1, .nsm), (0x2CF9, 0x2CFF, .on), (0x2D7F, 0x2D7F, .nsm),
    (0x2DE0, 0x2DFF, .nsm), (0x2E00, 0x2E5D, .on), (0x2E80, 0x2E99, .on), (0x2E9B, 0x2EF3, .on),
    (0x2F00, 0x2FD5, .on), (0x2FF0, 0x2FFF, .on), (0x3000, 0x3000, .other), (0x3001, 0x3004, .on),
    (0x3008, 0x3020, .on), (0x302A, 0x302D, .nsm), (0x3030, 0x3030, .on), (0x3036, 0x3037, .on),
    (0x303D, 0x303F, .on), (0x3099, 0x309A, .nsm), (0x309B, 0x309C, .on), (0x30A0, 0x30A0, .on),
    (0x30FB, 0x30FB, .on), (0x31C0, 0x31E5, .on), (0x31EF, 0x31EF, .on), (0x321D, 0x321E, .on),
    (0x3250, 0x325F, .on), (0x327C, 0x327E, .on), (0x32B1, 0x32BF, .on), (0x32CC, 0x32CF, .on),
    (0x3377, 0x337A, .on), (0x33DE, 0x33DF, .on), (0x33FF, 0x33FF, .on), (0x4DC0, 0x4DFF, .on),
    (0xA490, 0xA4C6, .on), (0xA60D, 0xA60F, .on), (0xA66F, 0xA672, .nsm), (0xA673, 0xA673, .on),
    (0xA674, 0xA67D, .nsm), (0xA67E, 0xA67F, .on), (0xA69E, 0xA69F, .nsm), (0xA6F0, 0xA6F1, .nsm),
    (0xA700, 0xA721, .on), (0xA788, 0xA788, .on), (0xA802, 0xA802, .nsm), (0xA806, 0xA806, .nsm),
    (0xA80B, 0xA80B, .nsm), (0xA825, 0xA826, .nsm), (0xA828, 0xA82B, .on), (0xA82C, 0xA82C, .nsm),
    (0xA838, 0xA839, .et), (0xA874, 0xA877, .on), (0xA8C4, 0xA8C5, .nsm), (0xA8E0, 0xA8F1, .nsm),
    (0xA8FF, 0xA8FF, .nsm), (0xA926, 0xA92D, .nsm), (0xA947, 0xA951, .nsm), (0xA980, 0xA982, .nsm),
    (0xA9B3, 0xA9B3, .nsm), (0xA9B6, 0xA9B9, .nsm), (0xA9BC, 0xA9BD, .nsm), (0xA9E5, 0xA9E5, .nsm),
    (0xAA29, 0xAA2E, .nsm), (0xAA31, 0xAA32, .nsm), (0xAA35, 0xAA36, .nsm), (0xAA43, 0xAA43, .nsm),
    (0xAA4C, 0xAA4C, .nsm), (0xAA7C, 0xAA7C, .nsm), (0xAAB0, 0xAAB0, .nsm), (0xAAB2, 0xAAB4, .nsm),
    (0xAAB7, 0xAAB8, .nsm), (0xAABE, 0xAABF, .nsm), (0xAAC1, 0xAAC1, .nsm), (0xAAEC, 0xAAED, .nsm),
    (0xAAF6, 0xAAF6, .nsm), (0xAB6A, 0xAB6B, .on), (0xABE5, 0xABE5, .nsm), (0xABE8, 0xABE8, .nsm),
    (0xABED, 0xABED, .nsm), (0xFB1D, 0xFB1D, .r), (0xFB1E, 0xFB1E, .nsm), (0xFB1F, 0xFB28, .r),
    (0xFB29, 0xFB29, .es), (0xFB2A, 0xFB36, .r), (0xFB38, 0xFB3C, .r), (0xFB3E, 0xFB3E, .r),
    (0xFB40, 0xFB41, .r), (0xFB43, 0xFB44, .r), (0xFB46, 0xFB4F, .r), (0xFB50, 0xFD3D, .al),
    (0xFD3E, 0xFD4F, .on), (0xFD50, 0xFDCE, .al), (0xFDCF, 0xFDCF, .on), (0xFDF0, 0xFDFC, .al),
    (0xFDFD, 0xFDFF, .on), (0xFE00, 0xFE0F, .nsm), (0xFE10, 0xFE19, .on), (0xFE20, 0xFE2F, .nsm),
    (0xFE30, 0xFE4F, .on), (0xFE50, 0xFE50, .cs), (0xFE51, 0xFE51, .on), (0xFE52, 0xFE52, .cs),
    (0xFE54, 0xFE54, .on), (0xFE55, 0xFE55, .cs), (0xFE56, 0xFE5E, .on), (0xFE5F, 0xFE5F, .et),
    (0xFE60, 0xFE61, .on), (0xFE62, 0xFE63, .es), (0xFE64, 0xFE66, .on), (0xFE68, 0xFE68, .on),
    (0xFE69, 0xFE6A, .et), (0xFE6B, 0xFE6B, .on), (0xFE70, 0xFE74, .al), (0xFE76, 0xFEFC, .al),
    (0xFEFF, 0xFEFF, .bn), (0xFF01, 0xFF02, .on), (0xFF03, 0xFF05, .et), (0xFF06, 0xFF0A, .on),
    (0xFF0B, 0xFF0B, .es), (0xFF0C, 0xFF0C, .cs), (0xFF0D, 0xFF0D, .es), (0xFF0E, 0xFF0F, .cs),
    (0xFF10, 0xFF19, .en), (0xFF1A, 0xFF1A, .cs), (0xFF1B, 0xFF20, .on), (0xFF3B, 0xFF40, .on),
    (0xFF5B, 0xFF65, .on), (0xFFE0, 0xFFE1, .et), (0xFFE2, 0xFFE4, .on), (0xFFE5, 0xFFE6, .et),
    (0xFFE8, 0xFFEE, .on), (0xFFF9, 0xFFFD, .on), (0x10101, 0x10101, .on), (0x10140, 0x1018C, .on),
    (0x10190, 0x1019C, .on), (0x101A0, 0x101A0, .on), (0x101FD, 0x101FD, .nsm),
    (0x102E0, 0x102E0, .nsm), (0x102E1, 0x102FB, .en), (0x10376, 0x1037A, .nsm),
    (0x10800, 0x10805, .r), (0x10808, 0x10808, .r), (0x1080A, 0x10835, .r), (0x10837, 0x10838, .r),
    (0x1083C, 0x1083C, .r), (0x1083F, 0x10855, .r), (0x10857, 0x1089E, .r), (0x108A7, 0x108AF, .r),
    (0x108E0, 0x108F2, .r), (0x108F4, 0x108F5, .r), (0x108FB, 0x1091B, .r), (0x1091F, 0x1091F, .on),
    (0x10920, 0x10939, .r), (0x1093F, 0x10959, .r), (0x10980, 0x109B7, .r), (0x109BC, 0x109CF, .r),
    (0x109D2, 0x10A00, .r), (0x10A01, 0x10A03, .nsm), (0x10A05, 0x10A06, .nsm),
    (0x10A0C, 0x10A0F, .nsm), (0x10A10, 0x10A13, .r), (0x10A15, 0x10A17, .r),
    (0x10A19, 0x10A35, .r), (0x10A38, 0x10A3A, .nsm), (0x10A3F, 0x10A3F, .nsm),
    (0x10A40, 0x10A48, .r), (0x10A50, 0x10A58, .r), (0x10A60, 0x10A9F, .r), (0x10AC0, 0x10AE4, .r),
    (0x10AE5, 0x10AE6, .nsm), (0x10AEB, 0x10AF6, .r), (0x10B00, 0x10B35, .r),
    (0x10B39, 0x10B3F, .on), (0x10B40, 0x10B55, .r), (0x10B58, 0x10B72, .r), (0x10B78, 0x10B91, .r),
    (0x10B99, 0x10B9C, .r), (0x10BA9, 0x10BAF, .r), (0x10C00, 0x10C48, .r), (0x10C80, 0x10CB2, .r),
    (0x10CC0, 0x10CF2, .r), (0x10CFA, 0x10CFF, .r), (0x10D00, 0x10D23, .al),
    (0x10D24, 0x10D27, .nsm), (0x10D30, 0x10D39, .an), (0x10D40, 0x10D65, .r),
    (0x10D69, 0x10D6D, .nsm), (0x10D6E, 0x10D85, .r), (0x10D8E, 0x10D8F, .r),
    (0x10E60, 0x10E7E, .an), (0x10E80, 0x10EA9, .r), (0x10EAB, 0x10EAC, .nsm),
    (0x10EAD, 0x10EAD, .r), (0x10EB0, 0x10EB1, .r), (0x10EC2, 0x10EC7, .al),
    (0x10ED0, 0x10ED8, .al), (0x10EFA, 0x10EFF, .nsm), (0x10F00, 0x10F27, .r),
    (0x10F30, 0x10F45, .al), (0x10F46, 0x10F50, .nsm), (0x10F51, 0x10F59, .al),
    (0x10F70, 0x10F81, .r), (0x10F82, 0x10F85, .nsm), (0x10F86, 0x10F89, .r),
    (0x10FB0, 0x10FCB, .r), (0x10FE0, 0x10FF6, .r), (0x11001, 0x11001, .nsm),
    (0x11038, 0x11046, .nsm), (0x11052, 0x11065, .on), (0x11070, 0x11070, .nsm),
    (0x11073, 0x11074, .nsm), (0x1107F, 0x11081, .nsm), (0x110B3, 0x110B6, .nsm),
    (0x110B9, 0x110BA, .nsm), (0x110C2, 0x110C2, .nsm), (0x11100, 0x11102, .nsm),
    (0x11127, 0x1112B, .nsm), (0x1112D, 0x11134, .nsm), (0x11173, 0x11173, .nsm),
    (0x11180, 0x11181, .nsm), (0x111B6, 0x111BE, .nsm), (0x111C9, 0x111CC, .nsm),
    (0x111CF, 0x111CF, .nsm), (0x1122F, 0x11231, .nsm), (0x11234, 0x11234, .nsm),
    (0x11236, 0x11237, .nsm), (0x1123E, 0x1123E, .nsm), (0x11241, 0x11241, .nsm),
    (0x112DF, 0x112DF, .nsm), (0x112E3, 0x112EA, .nsm), (0x11300, 0x11301, .nsm),
    (0x1133B, 0x1133C, .nsm), (0x11340, 0x11340, .nsm), (0x11366, 0x1136C, .nsm),
    (0x11370, 0x11374, .nsm), (0x113BB, 0x113C0, .nsm), (0x113CE, 0x113CE, .nsm),
    (0x113D0, 0x113D0, .nsm), (0x113D2, 0x113D2, .nsm), (0x113D4, 0x113D5, .on),
    (0x113D7, 0x113D8, .on), (0x113E1, 0x113E2, .nsm), (0x11438, 0x1143F, .nsm),
    (0x11442, 0x11444, .nsm), (0x11446, 0x11446, .nsm), (0x1145E, 0x1145E, .nsm),
    (0x114B3, 0x114B8, .nsm), (0x114BA, 0x114BA, .nsm), (0x114BF, 0x114C0, .nsm),
    (0x114C2, 0x114C3, .nsm), (0x115B2, 0x115B5, .nsm), (0x115BC, 0x115BD, .nsm),
    (0x115BF, 0x115C0, .nsm), (0x115DC, 0x115DD, .nsm), (0x11633, 0x1163A, .nsm),
    (0x1163D, 0x1163D, .nsm), (0x1163F, 0x11640, .nsm), (0x11660, 0x1166C, .on),
    (0x116AB, 0x116AB, .nsm), (0x116AD, 0x116AD, .nsm), (0x116B0, 0x116B5, .nsm),
    (0x116B7, 0x116B7, .nsm), (0x1171D, 0x1171F, .nsm), (0x11722, 0x11725, .nsm),
    (0x11727, 0x1172B, .nsm), (0x1182F, 0x11837, .nsm), (0x11839, 0x1183A, .nsm),
    (0x1193B, 0x1193C, .nsm), (0x1193E, 0x1193E, .nsm), (0x11943, 0x11943, .nsm),
    (0x119D4, 0x119D7, .nsm), (0x119DA, 0x119DB, .nsm), (0x119E0, 0x119E0, .nsm),
    (0x11A01, 0x11A06, .nsm), (0x11A09, 0x11A0A, .nsm), (0x11A33, 0x11A38, .nsm),
    (0x11A3B, 0x11A3E, .nsm), (0x11A47, 0x11A47, .nsm), (0x11A51, 0x11A56, .nsm),
    (0x11A59, 0x11A5B, .nsm), (0x11A8A, 0x11A96, .nsm), (0x11A98, 0x11A99, .nsm),
    (0x11B00, 0x11B09, .on), (0x11B60, 0x11B60, .nsm), (0x11B62, 0x11B64, .nsm),
    (0x11B66, 0x11B66, .nsm), (0x11BE1, 0x11BE1, .on), (0x11C30, 0x11C36, .nsm),
    (0x11C38, 0x11C3D, .nsm), (0x11C92, 0x11CA7, .nsm), (0x11CAA, 0x11CB0, .nsm),
    (0x11CB2, 0x11CB3, .nsm), (0x11CB5, 0x11CB6, .nsm), (0x11D31, 0x11D36, .nsm),
    (0x11D3A, 0x11D3A, .nsm), (0x11D3C, 0x11D3D, .nsm), (0x11D3F, 0x11D45, .nsm),
    (0x11D47, 0x11D47, .nsm), (0x11D90, 0x11D91, .nsm), (0x11D95, 0x11D95, .nsm),
    (0x11D97, 0x11D97, .nsm), (0x11EF3, 0x11EF4, .nsm), (0x11F00, 0x11F01, .nsm),
    (0x11F36, 0x11F3A, .nsm), (0x11F40, 0x11F40, .nsm), (0x11F42, 0x11F42, .nsm),
    (0x11F43, 0x11F4F, .on), (0x11F5A, 0x11F5A, .nsm), (0x11FD5, 0x11FDC, .on),
    (0x11FDD, 0x11FE0, .et), (0x11FE1, 0x11FF1, .on), (0x13440, 0x13440, .nsm),
    (0x13447, 0x13455, .nsm), (0x1611E, 0x16129, .nsm), (0x1612D, 0x1612F, .nsm),
    (0x16AF0, 0x16AF4, .nsm), (0x16B30, 0x16B36, .nsm), (0x16D6D, 0x16D6F, .on),
    (0x16F4F, 0x16F4F, .nsm), (0x16F8F, 0x16F92, .nsm), (0x16FE2, 0x16FE2, .on),
    (0x16FE4, 0x16FE4, .nsm), (0x1BC9D, 0x1BC9E, .nsm), (0x1BCA0, 0x1BCA3, .bn),
    (0x1CC00, 0x1CCEF, .on), (0x1CCFA, 0x1CCFC, .on), (0x1CD00, 0x1CEB3, .on),
    (0x1CEBA, 0x1CED0, .on), (0x1CEE0, 0x1CEF0, .on), (0x1CF00, 0x1CF2D, .nsm),
    (0x1CF30, 0x1CF46, .nsm), (0x1D167, 0x1D169, .nsm), (0x1D173, 0x1D17A, .bn),
    (0x1D17B, 0x1D182, .nsm), (0x1D185, 0x1D18B, .nsm), (0x1D1AA, 0x1D1AD, .nsm),
    (0x1D1E9, 0x1D1EA, .on), (0x1D200, 0x1D241, .on), (0x1D242, 0x1D244, .nsm),
    (0x1D245, 0x1D245, .on), (0x1D300, 0x1D356, .on), (0x1D6DB, 0x1D6DB, .on),
    (0x1D715, 0x1D715, .on), (0x1D74F, 0x1D74F, .on), (0x1D789, 0x1D789, .on),
    (0x1D7C3, 0x1D7C3, .on), (0x1D7CE, 0x1D7FF, .en), (0x1DA00, 0x1DA36, .nsm),
    (0x1DA3B, 0x1DA6C, .nsm), (0x1DA75, 0x1DA75, .nsm), (0x1DA84, 0x1DA84, .nsm),
    (0x1DA9B, 0x1DA9F, .nsm), (0x1DAA1, 0x1DAAF, .nsm), (0x1E000, 0x1E006, .nsm),
    (0x1E008, 0x1E018, .nsm), (0x1E01B, 0x1E021, .nsm), (0x1E023, 0x1E024, .nsm),
    (0x1E026, 0x1E02A, .nsm), (0x1E08F, 0x1E08F, .nsm), (0x1E130, 0x1E136, .nsm),
    (0x1E2AE, 0x1E2AE, .nsm), (0x1E2EC, 0x1E2EF, .nsm), (0x1E2FF, 0x1E2FF, .et),
    (0x1E4EC, 0x1E4EF, .nsm), (0x1E5EE, 0x1E5EF, .nsm), (0x1E5FF, 0x1E5FF, .on),
    (0x1E6E3, 0x1E6E3, .nsm), (0x1E6E6, 0x1E6E6, .nsm), (0x1E6EE, 0x1E6EF, .nsm),
    (0x1E6F5, 0x1E6F5, .nsm), (0x1E800, 0x1E8C4, .r), (0x1E8C7, 0x1E8CF, .r),
    (0x1E8D0, 0x1E8D6, .nsm), (0x1E900, 0x1E943, .r), (0x1E944, 0x1E94A, .nsm),
    (0x1E94B, 0x1E94B, .r), (0x1E950, 0x1E959, .r), (0x1E95E, 0x1E95F, .r), (0x1EC71, 0x1ECB4, .al),
    (0x1ED01, 0x1ED3D, .al), (0x1EE00, 0x1EE03, .al), (0x1EE05, 0x1EE1F, .al),
    (0x1EE21, 0x1EE22, .al), (0x1EE24, 0x1EE24, .al), (0x1EE27, 0x1EE27, .al),
    (0x1EE29, 0x1EE32, .al), (0x1EE34, 0x1EE37, .al), (0x1EE39, 0x1EE39, .al),
    (0x1EE3B, 0x1EE3B, .al), (0x1EE42, 0x1EE42, .al), (0x1EE47, 0x1EE47, .al),
    (0x1EE49, 0x1EE49, .al), (0x1EE4B, 0x1EE4B, .al), (0x1EE4D, 0x1EE4F, .al),
    (0x1EE51, 0x1EE52, .al), (0x1EE54, 0x1EE54, .al), (0x1EE57, 0x1EE57, .al),
    (0x1EE59, 0x1EE59, .al), (0x1EE5B, 0x1EE5B, .al), (0x1EE5D, 0x1EE5D, .al),
    (0x1EE5F, 0x1EE5F, .al), (0x1EE61, 0x1EE62, .al), (0x1EE64, 0x1EE64, .al),
    (0x1EE67, 0x1EE6A, .al), (0x1EE6C, 0x1EE72, .al), (0x1EE74, 0x1EE77, .al),
    (0x1EE79, 0x1EE7C, .al), (0x1EE7E, 0x1EE7E, .al), (0x1EE80, 0x1EE89, .al),
    (0x1EE8B, 0x1EE9B, .al), (0x1EEA1, 0x1EEA3, .al), (0x1EEA5, 0x1EEA9, .al),
    (0x1EEAB, 0x1EEBB, .al), (0x1EEF0, 0x1EEF1, .on), (0x1F000, 0x1F02B, .on),
    (0x1F030, 0x1F093, .on), (0x1F0A0, 0x1F0AE, .on), (0x1F0B1, 0x1F0BF, .on),
    (0x1F0C1, 0x1F0CF, .on), (0x1F0D1, 0x1F0F5, .on), (0x1F100, 0x1F10A, .en),
    (0x1F10B, 0x1F10F, .on), (0x1F12F, 0x1F12F, .on), (0x1F16A, 0x1F16F, .on),
    (0x1F1AD, 0x1F1AD, .on), (0x1F260, 0x1F265, .on), (0x1F300, 0x1F6D8, .on),
    (0x1F6DC, 0x1F6EC, .on), (0x1F6F0, 0x1F6FC, .on), (0x1F700, 0x1F7D9, .on),
    (0x1F7E0, 0x1F7EB, .on), (0x1F7F0, 0x1F7F0, .on), (0x1F800, 0x1F80B, .on),
    (0x1F810, 0x1F847, .on), (0x1F850, 0x1F859, .on), (0x1F860, 0x1F887, .on),
    (0x1F890, 0x1F8AD, .on), (0x1F8B0, 0x1F8BB, .on), (0x1F8C0, 0x1F8C1, .on),
    (0x1F8D0, 0x1F8D8, .on), (0x1F900, 0x1FA57, .on), (0x1FA60, 0x1FA6D, .on),
    (0x1FA70, 0x1FA7C, .on), (0x1FA80, 0x1FA8A, .on), (0x1FA8E, 0x1FAC6, .on),
    (0x1FAC8, 0x1FAC8, .on), (0x1FACD, 0x1FADC, .on), (0x1FADF, 0x1FAEA, .on),
    (0x1FAEF, 0x1FAF8, .on), (0x1FB00, 0x1FB92, .on), (0x1FB94, 0x1FBEF, .on),
    (0x1FBF0, 0x1FBF9, .en), (0x1FBFA, 0x1FBFA, .on), (0xE0001, 0xE0001, .bn),
    (0xE0020, 0xE007F, .bn), (0xE0100, 0xE01EF, .nsm)]

/-- The bidirectional class of a character. -/
def bidiClass (c : Char) : BidiClass :=
  (bidiClasses.get? c).getD .l

end MainContent.Unicode
