import Isochrone.Text.Runs

/-!
# Combining classes

Where a mark sits at its base. Marks of different classes do not interact, and a text orders
them by class; class zero is that of bases and of marks that never move. By the Unicode
Standard version 17; code points that no name holds are left out of account.
-/

namespace Isochrone.Domain

/-- Marks above their base. -/
private def above : List Nat := [
  0x300, 0x315, 0x33d, 0x347, 0x34a, 0x34d, 0x350, 0x353, 0x357, 0x358, 0x35b, 0x35c, 0x363,
  0x371, 0x483, 0x488, 0x592, 0x596, 0x597, 0x59a, 0x59c, 0x5a2, 0x5a8, 0x5aa, 0x5ab, 0x5ad,
  0x5af, 0x5b0, 0x5c4, 0x5c5, 0x610, 0x618, 0x653, 0x655, 0x657, 0x65c, 0x65d, 0x65f, 0x6d6,
  0x6de, 0x6df, 0x6e3, 0x6e4, 0x6e5, 0x6e7, 0x6e9, 0x6eb, 0x6ed, 0x730, 0x731, 0x732, 0x734,
  0x735, 0x737, 0x73a, 0x73b, 0x73d, 0x73e, 0x73f, 0x742, 0x743, 0x744, 0x745, 0x746, 0x747,
  0x748, 0x749, 0x74d, 0x7eb, 0x7f2, 0x7f3, 0x7f4, 0x816, 0x81a, 0x81b, 0x824, 0x825, 0x828,
  0x829, 0x830, 0x897, 0x899, 0x89c, 0x8a0, 0x8ca, 0x8cf, 0x8d4, 0x8e3, 0x8e4, 0x8e6, 0x8e7,
  0x8e9, 0x8ea, 0x8ed, 0x8f3, 0x8f6, 0x8f7, 0x8f9, 0x8fb, 0x900, 0x951, 0x952, 0x953, 0x955,
  0x9fe, 0xa01, 0xf82, 0xf84, 0xf86, 0xf88, 0x135d, 0x1360, 0x17dd, 0x17e0, 0x193a, 0x193b,
  0x1a17, 0x1a18, 0x1a75, 0x1a7f, 0x1ab0, 0x1ab5, 0x1abb, 0x1abd, 0x1ac1, 0x1ac3, 0x1ac5, 0x1aca,
  0x1acb, 0x1add, 0x1ae0, 0x1ae6, 0x1ae7, 0x1aeb, 0x1b6b, 0x1b6c, 0x1b6d, 0x1b74, 0x1cd0, 0x1cd3,
  0x1cda, 0x1cdc, 0x1ce0, 0x1ce1, 0x1cf4, 0x1cf5, 0x1cf8, 0x1cfa, 0x1dc0, 0x1dc2, 0x1dc3, 0x1dca,
  0x1dcb, 0x1dcd, 0x1dd1, 0x1df6, 0x1dfb, 0x1dfc, 0x1dfe, 0x1dff, 0x20d0, 0x20d2, 0x20d4, 0x20d8,
  0x20db, 0x20dd, 0x20e1, 0x20e2, 0x20e7, 0x20e8, 0x20e9, 0x20ea, 0x20f0, 0x2104, 0x2cef, 0x2cf3,
  0x2de0, 0x2e00, 0xa66f, 0xa670, 0xa674, 0xa67e, 0xa69e, 0xa6a0, 0xa6f0, 0xa6f2, 0xa8e0, 0xa8f2,
  0xaab0, 0xaab1, 0xaab2, 0xaab4, 0xaab7, 0xaab9, 0xaabe, 0xaac0, 0xaac1, 0xaac2, 0xfe20, 0xfe27,
  0xfe2e, 0xfe45, 0x10376, 0x10380, 0x10a0f, 0x10a10, 0x10a38, 0x10a39, 0x10ae5, 0x10ae6, 0x10d24,
  0x10d30, 0x10d69, 0x10d6e, 0x10eab, 0x10ead, 0x10f48, 0x10f4b, 0x10f4c, 0x10f4d, 0x10f82,
  0x10f83, 0x10f84, 0x10f85, 0x11100, 0x11103, 0x11366, 0x11380, 0x1145e, 0x1145f, 0x16b30,
  0x16b37, 0x1d185, 0x1d18a, 0x1d1aa, 0x1d1ae, 0x1d242, 0x1d245, 0x1e000, 0x1e100, 0x1e130,
  0x1e137, 0x1e2ae, 0x1e2c0, 0x1e2ec, 0x1e2f0, 0x1e4ef, 0x1e4f0, 0x1e5ee, 0x1e5ef, 0x1e6e3,
  0x1e6e4, 0x1e6e6, 0x1e6e7, 0x1e6ee, 0x1e6f0, 0x1e6f5, 0x1e6fe, 0x1e944, 0x1e94a]

/-- Marks below their base. -/
private def below : List Nat := [
  0x316, 0x31a, 0x31c, 0x321, 0x323, 0x327, 0x329, 0x334, 0x339, 0x33d, 0x347, 0x34a, 0x34d,
  0x350, 0x353, 0x357, 0x359, 0x35b, 0x591, 0x592, 0x596, 0x597, 0x59b, 0x59c, 0x5a2, 0x5a8,
  0x5aa, 0x5ab, 0x5c5, 0x5c6, 0x655, 0x657, 0x65c, 0x65d, 0x65f, 0x660, 0x6e3, 0x6e4, 0x6ea,
  0x6eb, 0x6ed, 0x6ee, 0x731, 0x732, 0x734, 0x735, 0x737, 0x73a, 0x73b, 0x73d, 0x73e, 0x73f,
  0x742, 0x743, 0x744, 0x745, 0x746, 0x747, 0x748, 0x749, 0x7f2, 0x7f3, 0x7fd, 0x7fe, 0x859,
  0x85e, 0x899, 0x89c, 0x8cf, 0x8d4, 0x8e3, 0x8e4, 0x8e6, 0x8e7, 0x8e9, 0x8ea, 0x8ed, 0x8f0,
  0x8f6, 0x8f7, 0x8f9, 0x8fb, 0x952, 0x953, 0xf18, 0xf1a, 0xf35, 0xf36, 0xf37, 0xf38, 0xfc6,
  0xfc7, 0x108d, 0x108e, 0x193b, 0x1940, 0x1a18, 0x1a19, 0x1a7f, 0x1a80, 0x1ab5, 0x1abb, 0x1abd,
  0x1abe, 0x1abf, 0x1ac1, 0x1ac3, 0x1ac5, 0x1aca, 0x1acb, 0x1add, 0x1ae0, 0x1ae6, 0x1ae7, 0x1b6c,
  0x1b6d, 0x1cd5, 0x1cda, 0x1cdc, 0x1ce0, 0x1ced, 0x1cee, 0x1dc2, 0x1dc3, 0x1dca, 0x1dcb, 0x1dcf,
  0x1dd0, 0x1df9, 0x1dfa, 0x1dfd, 0x1dfe, 0x1dff, 0x1e01, 0x20e8, 0x20e9, 0x20ec, 0x20f0, 0xa92b,
  0xa92e, 0xaab4, 0xaab5, 0xfe27, 0xfe2e, 0x101fd, 0x10280, 0x102e0, 0x102e1, 0x10a0d, 0x10a0e,
  0x10a3a, 0x10a3f, 0x10ae6, 0x10aeb, 0x10efa, 0x10efc, 0x10efd, 0x10f00, 0x10f46, 0x10f48,
  0x10f4b, 0x10f4c, 0x10f4d, 0x10f51, 0x10f83, 0x10f84, 0x10f85, 0x10f86, 0x1d17b, 0x1d183,
  0x1d18a, 0x1d18c, 0x1e4ee, 0x1e4ef, 0x1e5ef, 0x1e5f0, 0x1e8d0, 0x1e922]

/-- Signs that silence the vowel of their base. -/
private def viramas : List Nat := [
  0x94d, 0x94e, 0x9cd, 0x9ce, 0xa4d, 0xa51, 0xacd, 0xad0, 0xb4d, 0xb55, 0xbcd, 0xbd0, 0xc4d,
  0xc55, 0xccd, 0xcd5, 0xd3b, 0xd3d, 0xd4d, 0xd4e, 0xdca, 0xdcf, 0xe3a, 0xe3f, 0xeba, 0xebb,
  0xf84, 0xf85, 0x1039, 0x103b, 0x1714, 0x171f, 0x1734, 0x1735, 0x17d2, 0x17d3, 0x1a60, 0x1a61,
  0x1b44, 0x1b45, 0x1baa, 0x1bac, 0x1bf2, 0x1bfc, 0x2d7f, 0x2d80, 0xa806, 0xa807, 0xa82c, 0xa830,
  0xa8c4, 0xa8c5, 0xa953, 0xa95f, 0xa9c0, 0xa9c1, 0xaaf6, 0xab01, 0xabed, 0xabf0, 0x10a3f,
  0x10a40, 0x11046, 0x11047, 0x11070, 0x11071, 0x1107f, 0x11080, 0x110b9, 0x110ba, 0x11133,
  0x11136, 0x111c0, 0x111c1, 0x11235, 0x11236, 0x112ea, 0x112f0, 0x1134d, 0x11350, 0x113ce,
  0x113d1, 0x11442, 0x11443, 0x114c2, 0x114c3, 0x115bf, 0x115c0, 0x1163f, 0x11640, 0x116b6,
  0x116b7, 0x1172b, 0x11730, 0x11839, 0x1183a, 0x1193d, 0x1193f, 0x119e0, 0x119e1, 0x11a34,
  0x11a35, 0x11a47, 0x11a50, 0x11a99, 0x11a9a, 0x11c3f, 0x11c40, 0x11d44, 0x11d46, 0x11d97,
  0x11d98, 0x11f41, 0x11f43, 0x1612f, 0x16130]

/-- Dots that change the consonant of their base. -/
private def nuktas : List Nat := [
  0x93c, 0x93d, 0x9bc, 0x9bd, 0xa3c, 0xa3e, 0xabc, 0xabd, 0xb3c, 0xb3d, 0xc3c, 0xc3d, 0xcbc,
  0xcbd, 0x1037, 0x1038, 0x1b34, 0x1b35, 0x1be6, 0x1be7, 0x1c37, 0x1c3b, 0xa9b3, 0xa9b4, 0x110ba,
  0x110bb, 0x11173, 0x11174, 0x111ca, 0x111cb, 0x11236, 0x11237, 0x112e9, 0x112ea, 0x1133b,
  0x1133d, 0x11446, 0x11447, 0x114c3, 0x114c4, 0x115c0, 0x115c1, 0x116b7, 0x116b8, 0x1183a,
  0x1183b, 0x11943, 0x11944, 0x11d42, 0x11d43, 0x1e94a, 0x1e94b]

/-- Strokes through their base. -/
private def overlays : List Nat := [
  0x334, 0x339, 0x1cd4, 0x1cd5, 0x1ce2, 0x1ce9, 0x20d2, 0x20d4, 0x20d8, 0x20db, 0x20e5, 0x20e7,
  0x20ea, 0x20ec, 0x10a39, 0x10a3a, 0x16af0, 0x16af5, 0x1bc9e, 0x1bc9f, 0x1d167, 0x1d16a]

/-- The classes of few marks. -/
private def rareClasses : List (Nat × List Nat) := [
  (6, [0x16ff0, 0x16ff2]), (8, [0x3099, 0x309d]), (10, [0x5b0, 0x5b1]), (11, [0x5b1, 0x5b2]),
  (12, [0x5b2, 0x5b3]), (13, [0x5b3, 0x5b4]), (14, [0x5b4, 0x5b5]), (15, [0x5b5, 0x5b6]),
  (16, [0x5b6, 0x5b7]), (17, [0x5b7, 0x5b8]), (18, [0x5b8, 0x5b9, 0x5c7, 0x5d0]),
  (19, [0x5b9, 0x5bb]), (20, [0x5bb, 0x5bc]), (21, [0x5bc, 0x5bd]), (22, [0x5bd, 0x5be]),
  (23, [0x5bf, 0x5c0]), (24, [0x5c1, 0x5c2]), (25, [0x5c2, 0x5c3]), (26, [0xfb1e, 0xfbb2]),
  (27, [0x64b, 0x64c, 0x8f0, 0x8f1]), (28, [0x64c, 0x64d, 0x8f1, 0x8f2]),
  (29, [0x64d, 0x64e, 0x8f2, 0x8f3]), (30, [0x618, 0x619, 0x64e, 0x64f]),
  (31, [0x619, 0x61a, 0x64f, 0x650]), (32, [0x61a, 0x61b, 0x650, 0x651]), (33, [0x651, 0x652]),
  (34, [0x652, 0x653]), (35, [0x670, 0x671]), (36, [0x711, 0x712]), (84, [0xc55, 0xc56]),
  (91, [0xc56, 0xc58]), (103, [0xe38, 0xe3a]), (107, [0xe48, 0xe4c]), (118, [0xeb8, 0xeba]),
  (122, [0xec8, 0xecc]), (129, [0xf71, 0xf72]), (130, [0xf72, 0xf74, 0xf7a, 0xf7e, 0xf80, 0xf82]),
  (132, [0xf74, 0xf7a]), (202, [0x321, 0x323, 0x327, 0x329, 0x1dd0, 0x1dd1]),
  (214, [0x1dce, 0x1dcf]),
  (216, [0x31b, 0x31c, 0xf39, 0xf3a, 0x1d165, 0x1d167, 0x1d16e, 0x1d17b]),
  (218, [0x1dfa, 0x1dfb, 0x302a, 0x302b]),
  (222, [0x59a, 0x59b, 0x5ad, 0x5ae, 0x1939, 0x193a, 0x302d, 0x302e]), (224, [0x302e, 0x3030]),
  (226, [0x1d16d, 0x1d16e]),
  (228, [0x5ae, 0x5af, 0x18a9, 0x18aa, 0x1df7, 0x1df9, 0x302b, 0x302c]),
  (232, [0x315, 0x316, 0x31a, 0x31b, 0x358, 0x359, 0x1df6, 0x1df7, 0x302c, 0x302d, 0x1e4ec, 0x1e4ee]),
  (233, [0x35c, 0x35d, 0x35f, 0x360, 0x362, 0x363, 0x1dfc, 0x1dfd]),
  (234, [0x35d, 0x35f, 0x360, 0x362, 0x1aeb, 0x1b00, 0x1dcd, 0x1dce])]

/-- Every class with the code points at which membership changes. -/
def combiningClasses : List (Nat × List Nat) :=
  [(230, above), (220, below), (9, viramas), (7, nuktas), (1, overlays)] ++ rareClasses

/-- The class of a character. -/
def combiningClass (c : Char) : Nat :=
  ((combiningClasses.find? fun row => Text.inRuns row.2 c.toNat).map (·.1)).getD 0

/-- Whether a character silences the vowel of the character before it. -/
def isVirama (c : Char) : Bool := combiningClass c = 9

end Isochrone.Domain
