/-
Module: Handoff.Text.Unicode.GraphemeBreak
Purpose: Grapheme_Cluster_Break classes and the Extended_Pictographic property of the
  Unicode character database (version 15.0), for splitting text into user-perceived
  characters.
Main exports: Unicode.graphemeBreakClasses, Unicode.extendedPictographic
-/
import Handoff.Text.Unicode.Table

namespace Handoff.Unicode

/-- Grapheme_Cluster_Break classes by range, Hangul syllables apart: 0 CR, 1 LF, 2 Control,
3 Extend, 4 ZWJ, 5 Regional_Indicator, 6 Prepend, 7 SpacingMark, 8 L, 9 V, 10 T. -/
def graphemeBreakClasses : ClassTable := ⟨#[
  (0x0, 0x9, 2),
  (0xA, 0xA, 1),
  (0xB, 0xC, 2),
  (0xD, 0xD, 0),
  (0xE, 0x1F, 2),
  (0x7F, 0x9F, 2),
  (0xAD, 0xAD, 2),
  (0x300, 0x36F, 3),
  (0x483, 0x489, 3),
  (0x591, 0x5BD, 3),
  (0x5BF, 0x5BF, 3),
  (0x5C1, 0x5C2, 3),
  (0x5C4, 0x5C5, 3),
  (0x5C7, 0x5C7, 3),
  (0x600, 0x605, 6),
  (0x610, 0x61A, 3),
  (0x61C, 0x61C, 2),
  (0x64B, 0x65F, 3),
  (0x670, 0x670, 3),
  (0x6D6, 0x6DC, 3),
  (0x6DD, 0x6DD, 6),
  (0x6DF, 0x6E4, 3),
  (0x6E7, 0x6E8, 3),
  (0x6EA, 0x6ED, 3),
  (0x70F, 0x70F, 6),
  (0x711, 0x711, 3),
  (0x730, 0x74A, 3),
  (0x7A6, 0x7B0, 3),
  (0x7EB, 0x7F3, 3),
  (0x7FD, 0x7FD, 3),
  (0x816, 0x819, 3),
  (0x81B, 0x823, 3),
  (0x825, 0x827, 3),
  (0x829, 0x82D, 3),
  (0x859, 0x85B, 3),
  (0x890, 0x891, 6),
  (0x898, 0x89F, 3),
  (0x8CA, 0x8E1, 3),
  (0x8E2, 0x8E2, 6),
  (0x8E3, 0x902, 3),
  (0x903, 0x903, 7),
  (0x93A, 0x93A, 3),
  (0x93B, 0x93B, 7),
  (0x93C, 0x93C, 3),
  (0x93E, 0x940, 7),
  (0x941, 0x948, 3),
  (0x949, 0x94C, 7),
  (0x94D, 0x94D, 3),
  (0x94E, 0x94F, 7),
  (0x951, 0x957, 3),
  (0x962, 0x963, 3),
  (0x981, 0x981, 3),
  (0x982, 0x983, 7),
  (0x9BC, 0x9BC, 3),
  (0x9BE, 0x9BE, 3),
  (0x9BF, 0x9C0, 7),
  (0x9C1, 0x9C4, 3),
  (0x9C7, 0x9C8, 7),
  (0x9CB, 0x9CC, 7),
  (0x9CD, 0x9CD, 3),
  (0x9D7, 0x9D7, 3),
  (0x9E2, 0x9E3, 3),
  (0x9FE, 0x9FE, 3),
  (0xA01, 0xA02, 3),
  (0xA03, 0xA03, 7),
  (0xA3C, 0xA3C, 3),
  (0xA3E, 0xA40, 7),
  (0xA41, 0xA42, 3),
  (0xA47, 0xA48, 3),
  (0xA4B, 0xA4D, 3),
  (0xA51, 0xA51, 3),
  (0xA70, 0xA71, 3),
  (0xA75, 0xA75, 3),
  (0xA81, 0xA82, 3),
  (0xA83, 0xA83, 7),
  (0xABC, 0xABC, 3),
  (0xABE, 0xAC0, 7),
  (0xAC1, 0xAC5, 3),
  (0xAC7, 0xAC8, 3),
  (0xAC9, 0xAC9, 7),
  (0xACB, 0xACC, 7),
  (0xACD, 0xACD, 3),
  (0xAE2, 0xAE3, 3),
  (0xAFA, 0xAFF, 3),
  (0xB01, 0xB01, 3),
  (0xB02, 0xB03, 7),
  (0xB3C, 0xB3C, 3),
  (0xB3E, 0xB3F, 3),
  (0xB40, 0xB40, 7),
  (0xB41, 0xB44, 3),
  (0xB47, 0xB48, 7),
  (0xB4B, 0xB4C, 7),
  (0xB4D, 0xB4D, 3),
  (0xB55, 0xB57, 3),
  (0xB62, 0xB63, 3),
  (0xB82, 0xB82, 3),
  (0xBBE, 0xBBE, 3),
  (0xBBF, 0xBBF, 7),
  (0xBC0, 0xBC0, 3),
  (0xBC1, 0xBC2, 7),
  (0xBC6, 0xBC8, 7),
  (0xBCA, 0xBCC, 7),
  (0xBCD, 0xBCD, 3),
  (0xBD7, 0xBD7, 3),
  (0xC00, 0xC00, 3),
  (0xC01, 0xC03, 7),
  (0xC04, 0xC04, 3),
  (0xC3C, 0xC3C, 3),
  (0xC3E, 0xC40, 3),
  (0xC41, 0xC44, 7),
  (0xC46, 0xC48, 3),
  (0xC4A, 0xC4D, 3),
  (0xC55, 0xC56, 3),
  (0xC62, 0xC63, 3),
  (0xC81, 0xC81, 3),
  (0xC82, 0xC83, 7),
  (0xCBC, 0xCBC, 3),
  (0xCBE, 0xCBE, 7),
  (0xCBF, 0xCBF, 3),
  (0xCC0, 0xCC1, 7),
  (0xCC2, 0xCC2, 3),
  (0xCC3, 0xCC4, 7),
  (0xCC6, 0xCC6, 3),
  (0xCC7, 0xCC8, 7),
  (0xCCA, 0xCCB, 7),
  (0xCCC, 0xCCD, 3),
  (0xCD5, 0xCD6, 3),
  (0xCE2, 0xCE3, 3),
  (0xCF3, 0xCF3, 7),
  (0xD00, 0xD01, 3),
  (0xD02, 0xD03, 7),
  (0xD3B, 0xD3C, 3),
  (0xD3E, 0xD3E, 3),
  (0xD3F, 0xD40, 7),
  (0xD41, 0xD44, 3),
  (0xD46, 0xD48, 7),
  (0xD4A, 0xD4C, 7),
  (0xD4D, 0xD4D, 3),
  (0xD4E, 0xD4E, 6),
  (0xD57, 0xD57, 3),
  (0xD62, 0xD63, 3),
  (0xD81, 0xD81, 3),
  (0xD82, 0xD83, 7),
  (0xDCA, 0xDCA, 3),
  (0xDCF, 0xDCF, 3),
  (0xDD0, 0xDD1, 7),
  (0xDD2, 0xDD4, 3),
  (0xDD6, 0xDD6, 3),
  (0xDD8, 0xDDE, 7),
  (0xDDF, 0xDDF, 3),
  (0xDF2, 0xDF3, 7),
  (0xE31, 0xE31, 3),
  (0xE33, 0xE33, 7),
  (0xE34, 0xE3A, 3),
  (0xE47, 0xE4E, 3),
  (0xEB1, 0xEB1, 3),
  (0xEB3, 0xEB3, 7),
  (0xEB4, 0xEBC, 3),
  (0xEC8, 0xECE, 3),
  (0xF18, 0xF19, 3),
  (0xF35, 0xF35, 3),
  (0xF37, 0xF37, 3),
  (0xF39, 0xF39, 3),
  (0xF3E, 0xF3F, 7),
  (0xF71, 0xF7E, 3),
  (0xF7F, 0xF7F, 7),
  (0xF80, 0xF84, 3),
  (0xF86, 0xF87, 3),
  (0xF8D, 0xF97, 3),
  (0xF99, 0xFBC, 3),
  (0xFC6, 0xFC6, 3),
  (0x102D, 0x1030, 3),
  (0x1031, 0x1031, 7),
  (0x1032, 0x1037, 3),
  (0x1039, 0x103A, 3),
  (0x103B, 0x103C, 7),
  (0x103D, 0x103E, 3),
  (0x1056, 0x1057, 7),
  (0x1058, 0x1059, 3),
  (0x105E, 0x1060, 3),
  (0x1071, 0x1074, 3),
  (0x1082, 0x1082, 3),
  (0x1084, 0x1084, 7),
  (0x1085, 0x1086, 3),
  (0x108D, 0x108D, 3),
  (0x109D, 0x109D, 3),
  (0x1100, 0x115F, 8),
  (0x1160, 0x11A7, 9),
  (0x11A8, 0x11FF, 10),
  (0x135D, 0x135F, 3),
  (0x1712, 0x1714, 3),
  (0x1715, 0x1715, 7),
  (0x1732, 0x1733, 3),
  (0x1734, 0x1734, 7),
  (0x1752, 0x1753, 3),
  (0x1772, 0x1773, 3),
  (0x17B4, 0x17B5, 3),
  (0x17B6, 0x17B6, 7),
  (0x17B7, 0x17BD, 3),
  (0x17BE, 0x17C5, 7),
  (0x17C6, 0x17C6, 3),
  (0x17C7, 0x17C8, 7),
  (0x17C9, 0x17D3, 3),
  (0x17DD, 0x17DD, 3),
  (0x180B, 0x180D, 3),
  (0x180E, 0x180E, 2),
  (0x180F, 0x180F, 3),
  (0x1885, 0x1886, 3),
  (0x18A9, 0x18A9, 3),
  (0x1920, 0x1922, 3),
  (0x1923, 0x1926, 7),
  (0x1927, 0x1928, 3),
  (0x1929, 0x192B, 7),
  (0x1930, 0x1931, 7),
  (0x1932, 0x1932, 3),
  (0x1933, 0x1938, 7),
  (0x1939, 0x193B, 3),
  (0x1A17, 0x1A18, 3),
  (0x1A19, 0x1A1A, 7),
  (0x1A1B, 0x1A1B, 3),
  (0x1A55, 0x1A55, 7),
  (0x1A56, 0x1A56, 3),
  (0x1A57, 0x1A57, 7),
  (0x1A58, 0x1A5E, 3),
  (0x1A60, 0x1A60, 3),
  (0x1A62, 0x1A62, 3),
  (0x1A65, 0x1A6C, 3),
  (0x1A6D, 0x1A72, 7),
  (0x1A73, 0x1A7C, 3),
  (0x1A7F, 0x1A7F, 3),
  (0x1AB0, 0x1ACE, 3),
  (0x1B00, 0x1B03, 3),
  (0x1B04, 0x1B04, 7),
  (0x1B34, 0x1B3A, 3),
  (0x1B3B, 0x1B3B, 7),
  (0x1B3C, 0x1B3C, 3),
  (0x1B3D, 0x1B41, 7),
  (0x1B42, 0x1B42, 3),
  (0x1B43, 0x1B44, 7),
  (0x1B6B, 0x1B73, 3),
  (0x1B80, 0x1B81, 3),
  (0x1B82, 0x1B82, 7),
  (0x1BA1, 0x1BA1, 7),
  (0x1BA2, 0x1BA5, 3),
  (0x1BA6, 0x1BA7, 7),
  (0x1BA8, 0x1BA9, 3),
  (0x1BAA, 0x1BAA, 7),
  (0x1BAB, 0x1BAD, 3),
  (0x1BE6, 0x1BE6, 3),
  (0x1BE7, 0x1BE7, 7),
  (0x1BE8, 0x1BE9, 3),
  (0x1BEA, 0x1BEC, 7),
  (0x1BED, 0x1BED, 3),
  (0x1BEE, 0x1BEE, 7),
  (0x1BEF, 0x1BF1, 3),
  (0x1BF2, 0x1BF3, 7),
  (0x1C24, 0x1C2B, 7),
  (0x1C2C, 0x1C33, 3),
  (0x1C34, 0x1C35, 7),
  (0x1C36, 0x1C37, 3),
  (0x1CD0, 0x1CD2, 3),
  (0x1CD4, 0x1CE0, 3),
  (0x1CE1, 0x1CE1, 7),
  (0x1CE2, 0x1CE8, 3),
  (0x1CED, 0x1CED, 3),
  (0x1CF4, 0x1CF4, 3),
  (0x1CF7, 0x1CF7, 7),
  (0x1CF8, 0x1CF9, 3),
  (0x1DC0, 0x1DFF, 3),
  (0x200B, 0x200B, 2),
  (0x200C, 0x200C, 3),
  (0x200D, 0x200D, 4),
  (0x200E, 0x200F, 2),
  (0x2028, 0x202E, 2),
  (0x2060, 0x206F, 2),
  (0x20D0, 0x20F0, 3),
  (0x2CEF, 0x2CF1, 3),
  (0x2D7F, 0x2D7F, 3),
  (0x2DE0, 0x2DFF, 3),
  (0x302A, 0x302F, 3),
  (0x3099, 0x309A, 3),
  (0xA66F, 0xA672, 3),
  (0xA674, 0xA67D, 3),
  (0xA69E, 0xA69F, 3),
  (0xA6F0, 0xA6F1, 3),
  (0xA802, 0xA802, 3),
  (0xA806, 0xA806, 3),
  (0xA80B, 0xA80B, 3),
  (0xA823, 0xA824, 7),
  (0xA825, 0xA826, 3),
  (0xA827, 0xA827, 7),
  (0xA82C, 0xA82C, 3),
  (0xA880, 0xA881, 7),
  (0xA8B4, 0xA8C3, 7),
  (0xA8C4, 0xA8C5, 3),
  (0xA8E0, 0xA8F1, 3),
  (0xA8FF, 0xA8FF, 3),
  (0xA926, 0xA92D, 3),
  (0xA947, 0xA951, 3),
  (0xA952, 0xA953, 7),
  (0xA960, 0xA97C, 8),
  (0xA980, 0xA982, 3),
  (0xA983, 0xA983, 7),
  (0xA9B3, 0xA9B3, 3),
  (0xA9B4, 0xA9B5, 7),
  (0xA9B6, 0xA9B9, 3),
  (0xA9BA, 0xA9BB, 7),
  (0xA9BC, 0xA9BD, 3),
  (0xA9BE, 0xA9C0, 7),
  (0xA9E5, 0xA9E5, 3),
  (0xAA29, 0xAA2E, 3),
  (0xAA2F, 0xAA30, 7),
  (0xAA31, 0xAA32, 3),
  (0xAA33, 0xAA34, 7),
  (0xAA35, 0xAA36, 3),
  (0xAA43, 0xAA43, 3),
  (0xAA4C, 0xAA4C, 3),
  (0xAA4D, 0xAA4D, 7),
  (0xAA7C, 0xAA7C, 3),
  (0xAAB0, 0xAAB0, 3),
  (0xAAB2, 0xAAB4, 3),
  (0xAAB7, 0xAAB8, 3),
  (0xAABE, 0xAABF, 3),
  (0xAAC1, 0xAAC1, 3),
  (0xAAEB, 0xAAEB, 7),
  (0xAAEC, 0xAAED, 3),
  (0xAAEE, 0xAAEF, 7),
  (0xAAF5, 0xAAF5, 7),
  (0xAAF6, 0xAAF6, 3),
  (0xABE3, 0xABE4, 7),
  (0xABE5, 0xABE5, 3),
  (0xABE6, 0xABE7, 7),
  (0xABE8, 0xABE8, 3),
  (0xABE9, 0xABEA, 7),
  (0xABEC, 0xABEC, 7),
  (0xABED, 0xABED, 3),
  (0xD7B0, 0xD7C6, 9),
  (0xD7CB, 0xD7FB, 10),
  (0xFB1E, 0xFB1E, 3),
  (0xFE00, 0xFE0F, 3),
  (0xFE20, 0xFE2F, 3),
  (0xFEFF, 0xFEFF, 2),
  (0xFF9E, 0xFF9F, 3),
  (0xFFF0, 0xFFFB, 2),
  (0x101FD, 0x101FD, 3),
  (0x102E0, 0x102E0, 3),
  (0x10376, 0x1037A, 3),
  (0x10A01, 0x10A03, 3),
  (0x10A05, 0x10A06, 3),
  (0x10A0C, 0x10A0F, 3),
  (0x10A38, 0x10A3A, 3),
  (0x10A3F, 0x10A3F, 3),
  (0x10AE5, 0x10AE6, 3),
  (0x10D24, 0x10D27, 3),
  (0x10EAB, 0x10EAC, 3),
  (0x10EFD, 0x10EFF, 3),
  (0x10F46, 0x10F50, 3),
  (0x10F82, 0x10F85, 3),
  (0x11000, 0x11000, 7),
  (0x11001, 0x11001, 3),
  (0x11002, 0x11002, 7),
  (0x11038, 0x11046, 3),
  (0x11070, 0x11070, 3),
  (0x11073, 0x11074, 3),
  (0x1107F, 0x11081, 3),
  (0x11082, 0x11082, 7),
  (0x110B0, 0x110B2, 7),
  (0x110B3, 0x110B6, 3),
  (0x110B7, 0x110B8, 7),
  (0x110B9, 0x110BA, 3),
  (0x110BD, 0x110BD, 6),
  (0x110C2, 0x110C2, 3),
  (0x110CD, 0x110CD, 6),
  (0x11100, 0x11102, 3),
  (0x11127, 0x1112B, 3),
  (0x1112C, 0x1112C, 7),
  (0x1112D, 0x11134, 3),
  (0x11145, 0x11146, 7),
  (0x11173, 0x11173, 3),
  (0x11180, 0x11181, 3),
  (0x11182, 0x11182, 7),
  (0x111B3, 0x111B5, 7),
  (0x111B6, 0x111BE, 3),
  (0x111BF, 0x111C0, 7),
  (0x111C2, 0x111C3, 6),
  (0x111C9, 0x111CC, 3),
  (0x111CE, 0x111CE, 7),
  (0x111CF, 0x111CF, 3),
  (0x1122C, 0x1122E, 7),
  (0x1122F, 0x11231, 3),
  (0x11232, 0x11233, 7),
  (0x11234, 0x11234, 3),
  (0x11235, 0x11235, 7),
  (0x11236, 0x11237, 3),
  (0x1123E, 0x1123E, 3),
  (0x11241, 0x11241, 3),
  (0x112DF, 0x112DF, 3),
  (0x112E0, 0x112E2, 7),
  (0x112E3, 0x112EA, 3),
  (0x11300, 0x11301, 3),
  (0x11302, 0x11303, 7),
  (0x1133B, 0x1133C, 3),
  (0x1133E, 0x1133E, 3),
  (0x1133F, 0x1133F, 7),
  (0x11340, 0x11340, 3),
  (0x11341, 0x11344, 7),
  (0x11347, 0x11348, 7),
  (0x1134B, 0x1134D, 7),
  (0x11357, 0x11357, 3),
  (0x11362, 0x11363, 7),
  (0x11366, 0x1136C, 3),
  (0x11370, 0x11374, 3),
  (0x11435, 0x11437, 7),
  (0x11438, 0x1143F, 3),
  (0x11440, 0x11441, 7),
  (0x11442, 0x11444, 3),
  (0x11445, 0x11445, 7),
  (0x11446, 0x11446, 3),
  (0x1145E, 0x1145E, 3),
  (0x114B0, 0x114B0, 3),
  (0x114B1, 0x114B2, 7),
  (0x114B3, 0x114B8, 3),
  (0x114B9, 0x114B9, 7),
  (0x114BA, 0x114BA, 3),
  (0x114BB, 0x114BC, 7),
  (0x114BD, 0x114BD, 3),
  (0x114BE, 0x114BE, 7),
  (0x114BF, 0x114C0, 3),
  (0x114C1, 0x114C1, 7),
  (0x114C2, 0x114C3, 3),
  (0x115AF, 0x115AF, 3),
  (0x115B0, 0x115B1, 7),
  (0x115B2, 0x115B5, 3),
  (0x115B8, 0x115BB, 7),
  (0x115BC, 0x115BD, 3),
  (0x115BE, 0x115BE, 7),
  (0x115BF, 0x115C0, 3),
  (0x115DC, 0x115DD, 3),
  (0x11630, 0x11632, 7),
  (0x11633, 0x1163A, 3),
  (0x1163B, 0x1163C, 7),
  (0x1163D, 0x1163D, 3),
  (0x1163E, 0x1163E, 7),
  (0x1163F, 0x11640, 3),
  (0x116AB, 0x116AB, 3),
  (0x116AC, 0x116AC, 7),
  (0x116AD, 0x116AD, 3),
  (0x116AE, 0x116AF, 7),
  (0x116B0, 0x116B5, 3),
  (0x116B6, 0x116B6, 7),
  (0x116B7, 0x116B7, 3),
  (0x1171D, 0x1171F, 3),
  (0x11722, 0x11725, 3),
  (0x11726, 0x11726, 7),
  (0x11727, 0x1172B, 3),
  (0x1182C, 0x1182E, 7),
  (0x1182F, 0x11837, 3),
  (0x11838, 0x11838, 7),
  (0x11839, 0x1183A, 3),
  (0x11930, 0x11930, 3),
  (0x11931, 0x11935, 7),
  (0x11937, 0x11938, 7),
  (0x1193B, 0x1193C, 3),
  (0x1193D, 0x1193D, 7),
  (0x1193E, 0x1193E, 3),
  (0x1193F, 0x1193F, 6),
  (0x11940, 0x11940, 7),
  (0x11941, 0x11941, 6),
  (0x11942, 0x11942, 7),
  (0x11943, 0x11943, 3),
  (0x119D1, 0x119D3, 7),
  (0x119D4, 0x119D7, 3),
  (0x119DA, 0x119DB, 3),
  (0x119DC, 0x119DF, 7),
  (0x119E0, 0x119E0, 3),
  (0x119E4, 0x119E4, 7),
  (0x11A01, 0x11A0A, 3),
  (0x11A33, 0x11A38, 3),
  (0x11A39, 0x11A39, 7),
  (0x11A3A, 0x11A3A, 6),
  (0x11A3B, 0x11A3E, 3),
  (0x11A47, 0x11A47, 3),
  (0x11A51, 0x11A56, 3),
  (0x11A57, 0x11A58, 7),
  (0x11A59, 0x11A5B, 3),
  (0x11A84, 0x11A89, 6),
  (0x11A8A, 0x11A96, 3),
  (0x11A97, 0x11A97, 7),
  (0x11A98, 0x11A99, 3),
  (0x11C2F, 0x11C2F, 7),
  (0x11C30, 0x11C36, 3),
  (0x11C38, 0x11C3D, 3),
  (0x11C3E, 0x11C3E, 7),
  (0x11C3F, 0x11C3F, 3),
  (0x11C92, 0x11CA7, 3),
  (0x11CA9, 0x11CA9, 7),
  (0x11CAA, 0x11CB0, 3),
  (0x11CB1, 0x11CB1, 7),
  (0x11CB2, 0x11CB3, 3),
  (0x11CB4, 0x11CB4, 7),
  (0x11CB5, 0x11CB6, 3),
  (0x11D31, 0x11D36, 3),
  (0x11D3A, 0x11D3A, 3),
  (0x11D3C, 0x11D3D, 3),
  (0x11D3F, 0x11D45, 3),
  (0x11D46, 0x11D46, 6),
  (0x11D47, 0x11D47, 3),
  (0x11D8A, 0x11D8E, 7),
  (0x11D90, 0x11D91, 3),
  (0x11D93, 0x11D94, 7),
  (0x11D95, 0x11D95, 3),
  (0x11D96, 0x11D96, 7),
  (0x11D97, 0x11D97, 3),
  (0x11EF3, 0x11EF4, 3),
  (0x11EF5, 0x11EF6, 7),
  (0x11F00, 0x11F01, 3),
  (0x11F02, 0x11F02, 6),
  (0x11F03, 0x11F03, 7),
  (0x11F34, 0x11F35, 7),
  (0x11F36, 0x11F3A, 3),
  (0x11F3E, 0x11F3F, 7),
  (0x11F40, 0x11F40, 3),
  (0x11F41, 0x11F41, 7),
  (0x11F42, 0x11F42, 3),
  (0x13430, 0x1343F, 2),
  (0x13440, 0x13440, 3),
  (0x13447, 0x13455, 3),
  (0x16AF0, 0x16AF4, 3),
  (0x16B30, 0x16B36, 3),
  (0x16F4F, 0x16F4F, 3),
  (0x16F51, 0x16F87, 7),
  (0x16F8F, 0x16F92, 3),
  (0x16FE4, 0x16FE4, 3),
  (0x16FF0, 0x16FF1, 7),
  (0x1BC9D, 0x1BC9E, 3),
  (0x1BCA0, 0x1BCA3, 2),
  (0x1CF00, 0x1CF2D, 3),
  (0x1CF30, 0x1CF46, 3),
  (0x1D165, 0x1D165, 3),
  (0x1D166, 0x1D166, 7),
  (0x1D167, 0x1D169, 3),
  (0x1D16D, 0x1D16D, 7),
  (0x1D16E, 0x1D172, 3),
  (0x1D173, 0x1D17A, 2),
  (0x1D17B, 0x1D182, 3),
  (0x1D185, 0x1D18B, 3),
  (0x1D1AA, 0x1D1AD, 3),
  (0x1D242, 0x1D244, 3),
  (0x1DA00, 0x1DA36, 3),
  (0x1DA3B, 0x1DA6C, 3),
  (0x1DA75, 0x1DA75, 3),
  (0x1DA84, 0x1DA84, 3),
  (0x1DA9B, 0x1DA9F, 3),
  (0x1DAA1, 0x1DAAF, 3),
  (0x1E000, 0x1E006, 3),
  (0x1E008, 0x1E018, 3),
  (0x1E01B, 0x1E021, 3),
  (0x1E023, 0x1E024, 3),
  (0x1E026, 0x1E02A, 3),
  (0x1E08F, 0x1E08F, 3),
  (0x1E130, 0x1E136, 3),
  (0x1E2AE, 0x1E2AE, 3),
  (0x1E2EC, 0x1E2EF, 3),
  (0x1E4EC, 0x1E4EF, 3),
  (0x1E8D0, 0x1E8D6, 3),
  (0x1E944, 0x1E94A, 3),
  (0x1F1E6, 0x1F1FF, 5),
  (0x1F3FB, 0x1F3FF, 3),
  (0xE0000, 0xE001F, 2),
  (0xE0020, 0xE007F, 3),
  (0xE0080, 0xE00FF, 2),
  (0xE0100, 0xE01EF, 3),
  (0xE01F0, 0xE0FFF, 2)
]⟩

/-- Code points with the Extended_Pictographic property. -/
def extendedPictographic : RangeSet := ⟨#[
  (0xA9, 0xA9),
  (0xAE, 0xAE),
  (0x203C, 0x203C),
  (0x2049, 0x2049),
  (0x2122, 0x2122),
  (0x2139, 0x2139),
  (0x2194, 0x2199),
  (0x21A9, 0x21AA),
  (0x231A, 0x231B),
  (0x2328, 0x2328),
  (0x2388, 0x2388),
  (0x23CF, 0x23CF),
  (0x23E9, 0x23F3),
  (0x23F8, 0x23FA),
  (0x24C2, 0x24C2),
  (0x25AA, 0x25AB),
  (0x25B6, 0x25B6),
  (0x25C0, 0x25C0),
  (0x25FB, 0x25FE),
  (0x2600, 0x2605),
  (0x2607, 0x2612),
  (0x2614, 0x2685),
  (0x2690, 0x2705),
  (0x2708, 0x2712),
  (0x2714, 0x2714),
  (0x2716, 0x2716),
  (0x271D, 0x271D),
  (0x2721, 0x2721),
  (0x2728, 0x2728),
  (0x2733, 0x2734),
  (0x2744, 0x2744),
  (0x2747, 0x2747),
  (0x274C, 0x274C),
  (0x274E, 0x274E),
  (0x2753, 0x2755),
  (0x2757, 0x2757),
  (0x2763, 0x2767),
  (0x2795, 0x2797),
  (0x27A1, 0x27A1),
  (0x27B0, 0x27B0),
  (0x27BF, 0x27BF),
  (0x2934, 0x2935),
  (0x2B05, 0x2B07),
  (0x2B1B, 0x2B1C),
  (0x2B50, 0x2B50),
  (0x2B55, 0x2B55),
  (0x3030, 0x3030),
  (0x303D, 0x303D),
  (0x3297, 0x3297),
  (0x3299, 0x3299),
  (0x1F000, 0x1F0FF),
  (0x1F10D, 0x1F10F),
  (0x1F12F, 0x1F12F),
  (0x1F16C, 0x1F171),
  (0x1F17E, 0x1F17F),
  (0x1F18E, 0x1F18E),
  (0x1F191, 0x1F19A),
  (0x1F1AD, 0x1F1E5),
  (0x1F201, 0x1F20F),
  (0x1F21A, 0x1F21A),
  (0x1F22F, 0x1F22F),
  (0x1F232, 0x1F23A),
  (0x1F23C, 0x1F23F),
  (0x1F249, 0x1F3FA),
  (0x1F400, 0x1F53D),
  (0x1F546, 0x1F64F),
  (0x1F680, 0x1F6FF),
  (0x1F774, 0x1F77F),
  (0x1F7D5, 0x1F7FF),
  (0x1F80C, 0x1F80F),
  (0x1F848, 0x1F84F),
  (0x1F85A, 0x1F85F),
  (0x1F888, 0x1F88F),
  (0x1F8AE, 0x1F8FF),
  (0x1F90C, 0x1F93A),
  (0x1F93C, 0x1F945),
  (0x1F947, 0x1FAFF),
  (0x1FC00, 0x1FFFD)
]⟩

end Handoff.Unicode
