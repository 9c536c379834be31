import FleetGate.Text.CharClass

/-!
# Combining marks

The marks among the characters of host names: those that take no room of their own, and
those that do.
-/

namespace FleetGate.Domain

open Text

/-- The points where marks without room of their own start and stop, in turn. -/
def flatMarkBounds : List Nat := [
  0x300, 0x371, 0x483, 0x48b, 0x591, 0x5be, 0x5bf, 0x5c0, 0x5c1, 0x5c3, 0x5c4, 0x5c6, 0x5c7,
  0x5d0, 0x610, 0x61b, 0x64b, 0x660, 0x670, 0x671, 0x6d6, 0x6de, 0x6df, 0x6e5, 0x6e7, 0x6e9,
  0x6ea, 0x6ee, 0x711, 0x712, 0x730, 0x74d, 0x7a6, 0x7b1, 0x7eb, 0x7f4, 0x7fd, 0x7fe, 0x816,
  0x81a, 0x81b, 0x824, 0x825, 0x828, 0x829, 0x830, 0x859, 0x85e, 0x897, 0x8a0, 0x8ca, 0x903,
  0x93a, 0x93b, 0x93c, 0x93d, 0x941, 0x949, 0x94d, 0x94e, 0x951, 0x960, 0x962, 0x964, 0x981,
  0x982, 0x9bc, 0x9bd, 0x9c1, 0x9c7, 0x9cd, 0x9ce, 0x9e2, 0x9e6, 0x9fe, 0xa03, 0xa3c, 0xa3e,
  0xa41, 0xa5c, 0xa70, 0xa72, 0xa75, 0xa76, 0xa81, 0xa83, 0xabc, 0xabd, 0xac1, 0xac9, 0xacd,
  0xad0, 0xae2, 0xae6, 0xafa, 0xb02, 0xb3c, 0xb3d, 0xb3f, 0xb40, 0xb41, 0xb47, 0xb4d, 0xb57,
  0xb62, 0xb66, 0xb82, 0xb83, 0xbc0, 0xbc1, 0xbcd, 0xbd0, 0xc00, 0xc01, 0xc04, 0xc05, 0xc3c,
  0xc3d, 0xc3e, 0xc41, 0xc46, 0xc58, 0xc62, 0xc66, 0xc81, 0xc82, 0xcbc, 0xcbd, 0xcbf, 0xcc0,
  0xcc6, 0xcc7, 0xccc, 0xcd5, 0xce2, 0xce6, 0xd00, 0xd02, 0xd3b, 0xd3d, 0xd41, 0xd46, 0xd4d,
  0xd4e, 0xd62, 0xd66, 0xd81, 0xd82, 0xdca, 0xdcf, 0xdd2, 0xdd8, 0xe31, 0xe32, 0xe34, 0xe3f,
  0xe47, 0xe4f, 0xeb1, 0xeb2, 0xeb4, 0xebd, 0xec8, 0xed0, 0xf18, 0xf1a, 0xf35, 0xf36, 0xf37,
  0xf38, 0xf39, 0xf3a, 0xf71, 0xf7f, 0xf80, 0xf85, 0xf86, 0xf88, 0xf8d, 0xfbe, 0xfc6, 0xfc7,
  0x102d, 0x1031, 0x1032, 0x1038, 0x1039, 0x103b, 0x103d, 0x103f, 0x1058, 0x105a, 0x105e, 0x1061,
  0x1071, 0x1075, 0x1082, 0x1083, 0x1085, 0x1087, 0x108d, 0x108e, 0x109d, 0x109e, 0x135d, 0x1360,
  0x1712, 0x1715, 0x1732, 0x1734, 0x1752, 0x1760, 0x1772, 0x1780, 0x17b7, 0x17be, 0x17c6, 0x17c7,
  0x17c9, 0x17d4, 0x17dd, 0x17e0, 0x1885, 0x1887, 0x18a9, 0x18aa, 0x1920, 0x1923, 0x1927, 0x1929,
  0x1932, 0x1933, 0x1939, 0x1940, 0x1a17, 0x1a19, 0x1a1b, 0x1a1e, 0x1a56, 0x1a57, 0x1a58, 0x1a61,
  0x1a62, 0x1a63, 0x1a65, 0x1a6d, 0x1a73, 0x1a80, 0x1ab0, 0x1b04, 0x1b34, 0x1b35, 0x1b36, 0x1b3b,
  0x1b3c, 0x1b3d, 0x1b42, 0x1b43, 0x1b6b, 0x1b74, 0x1b80, 0x1b82, 0x1ba2, 0x1ba6, 0x1ba8, 0x1baa,
  0x1bab, 0x1bae, 0x1be6, 0x1be7, 0x1be8, 0x1bea, 0x1bed, 0x1bee, 0x1bef, 0x1bf2, 0x1c2c, 0x1c34,
  0x1c36, 0x1c3b, 0x1cd0, 0x1cd3, 0x1cd4, 0x1ce1, 0x1ce2, 0x1ce9, 0x1ced, 0x1cee, 0x1cf4, 0x1cf5,
  0x1cf8, 0x1cfa, 0x1dc0, 0x1e01, 0x20d0, 0x2104, 0x2cef, 0x2cf3, 0x2d7f, 0x2d80, 0x2de0, 0x2e00,
  0x302a, 0x302e, 0x3099, 0x309d, 0xa66f, 0xa673, 0xa674, 0xa67e, 0xa69e, 0xa6a0, 0xa6f0, 0xa6f2,
  0xa802, 0xa803, 0xa806, 0xa807, 0xa80b, 0xa80c, 0xa825, 0xa827, 0xa82c, 0xa830, 0xa8c4, 0xa8ce,
  0xa8e0, 0xa8f2, 0xa8ff, 0xa900, 0xa926, 0xa92e, 0xa947, 0xa952, 0xa980, 0xa983, 0xa9b3, 0xa9b4,
  0xa9b6, 0xa9ba, 0xa9bc, 0xa9be, 0xa9e5, 0xa9e6, 0xaa29, 0xaa2f, 0xaa31, 0xaa33, 0xaa35, 0xaa40,
  0xaa43, 0xaa44, 0xaa4c, 0xaa4d, 0xaa7c, 0xaa7d, 0xaab0, 0xaab1, 0xaab2, 0xaab5, 0xaab7, 0xaab9,
  0xaabe, 0xaac0, 0xaac1, 0xaac2, 0xaaec, 0xaaee, 0xaaf6, 0xab01, 0xabe5, 0xabe6, 0xabe8, 0xabe9,
  0xabed, 0xabf0, 0xfb1e, 0xfbb2, 0xfe20, 0xfe45, 0x101fd, 0x10280, 0x102e0, 0x102e1, 0x10376,
  0x10380, 0x10a01, 0x10a10, 0x10a38, 0x10a40, 0x10ae5, 0x10aeb, 0x10d24, 0x10d30, 0x10d69,
  0x10d6e, 0x10eab, 0x10ead, 0x10efa, 0x10f00, 0x10f46, 0x10f51, 0x10f82, 0x10f86, 0x11001,
  0x11002, 0x11038, 0x11047, 0x11070, 0x11071, 0x11073, 0x11075, 0x1107f, 0x11082, 0x110b3,
  0x110b7, 0x110b9, 0x110bb, 0x110c2, 0x110d0, 0x11100, 0x11103, 0x11127, 0x1112c, 0x1112d,
  0x11136, 0x11173, 0x11174, 0x11180, 0x11182, 0x111b6, 0x111bf, 0x111c9, 0x111cd, 0x111cf,
  0x111d0, 0x1122f, 0x11232, 0x11234, 0x11235, 0x11236, 0x11238, 0x1123e, 0x1123f, 0x11241,
  0x11280, 0x112df, 0x112e0, 0x112e3, 0x112f0, 0x11300, 0x11302, 0x1133b, 0x1133d, 0x11340,
  0x11341, 0x11366, 0x11380, 0x113bb, 0x113c2, 0x113ce, 0x113cf, 0x113d0, 0x113d1, 0x113d2,
  0x113d3, 0x113e1, 0x11400, 0x11438, 0x11440, 0x11442, 0x11445, 0x11446, 0x11447, 0x1145e,
  0x1145f, 0x114b3, 0x114b9, 0x114ba, 0x114bb, 0x114bf, 0x114c1, 0x114c2, 0x114c4, 0x115b2,
  0x115b8, 0x115bc, 0x115be, 0x115bf, 0x115c1, 0x115dc, 0x11600, 0x11633, 0x1163b, 0x1163d,
  0x1163e, 0x1163f, 0x11641, 0x116ab, 0x116ac, 0x116ad, 0x116ae, 0x116b0, 0x116b6, 0x116b7,
  0x116b8, 0x1171d, 0x1171e, 0x1171f, 0x11720, 0x11722, 0x11726, 0x11727, 0x11730, 0x1182f,
  0x11838, 0x11839, 0x1183b, 0x1193b, 0x1193d, 0x1193e, 0x1193f, 0x11943, 0x11944, 0x119d4,
  0x119dc, 0x119e0, 0x119e1, 0x11a01, 0x11a0b, 0x11a33, 0x11a39, 0x11a3b, 0x11a3f, 0x11a47,
  0x11a50, 0x11a51, 0x11a57, 0x11a59, 0x11a5c, 0x11a8a, 0x11a97, 0x11a98, 0x11a9a, 0x11b60,
  0x11b61, 0x11b62, 0x11b65, 0x11b66, 0x11b67, 0x11c30, 0x11c3e, 0x11c3f, 0x11c40, 0x11c92,
  0x11ca9, 0x11caa, 0x11cb1, 0x11cb2, 0x11cb4, 0x11cb5, 0x11d00, 0x11d31, 0x11d46, 0x11d47,
  0x11d50, 0x11d90, 0x11d93, 0x11d95, 0x11d96, 0x11d97, 0x11d98, 0x11ef3, 0x11ef5, 0x11f00,
  0x11f02, 0x11f36, 0x11f3e, 0x11f40, 0x11f41, 0x11f42, 0x11f43, 0x11f5a, 0x11fb0, 0x13440,
  0x13441, 0x13447, 0x13460, 0x1611e, 0x1612a, 0x1612d, 0x16130, 0x16af0, 0x16af5, 0x16b30,
  0x16b37, 0x16f4f, 0x16f50, 0x16f8f, 0x16f93, 0x16fe4, 0x16ff0, 0x1bc9d, 0x1bc9f, 0x1cf00,
  0x1cf50, 0x1d167, 0x1d16a, 0x1d17b, 0x1d183, 0x1d185, 0x1d18c, 0x1d1aa, 0x1d1ae, 0x1d242,
  0x1d245, 0x1da00, 0x1da37, 0x1da3b, 0x1da6d, 0x1da75, 0x1da76, 0x1da84, 0x1da85, 0x1da9b,
  0x1df00, 0x1e000, 0x1e100, 0x1e130, 0x1e137, 0x1e2ae, 0x1e2c0, 0x1e2ec, 0x1e2f0, 0x1e4ec,
  0x1e4f0, 0x1e5ee, 0x1e5f0, 0x1e6e3, 0x1e6e4, 0x1e6e6, 0x1e6e7, 0x1e6ee, 0x1e6f0, 0x1e6f5,
  0x1e6fe, 0x1e8d0, 0x1e922, 0x1e944, 0x1e94b]

/-- The points where marks with room of their own start and stop, in turn. -/
def wideMarkBounds : List Nat := [
  0x903, 0x904, 0x93b, 0x93c, 0x93e, 0x941, 0x949, 0x94d, 0x94e, 0x950, 0x982, 0x985, 0x9be,
  0x9c1, 0x9c7, 0x9cd, 0x9d7, 0x9e0, 0xa03, 0xa05, 0xa3e, 0xa41, 0xa83, 0xa85, 0xabe, 0xac1,
  0xac9, 0xacd, 0xb02, 0xb05, 0xb3e, 0xb3f, 0xb40, 0xb41, 0xb47, 0xb4d, 0xb57, 0xb5f, 0xbbe,
  0xbc0, 0xbc1, 0xbcd, 0xbd7, 0xbe6, 0xc01, 0xc04, 0xc41, 0xc46, 0xc82, 0xc84, 0xcbe, 0xcbf,
  0xcc0, 0xcc6, 0xcc7, 0xccc, 0xcd5, 0xcdc, 0xcf3, 0xd00, 0xd02, 0xd04, 0xd3e, 0xd41, 0xd46,
  0xd4d, 0xd57, 0xd58, 0xd82, 0xd85, 0xdcf, 0xdd2, 0xdd8, 0xde6, 0xdf2, 0xdf4, 0xf3e, 0xf40,
  0xf7f, 0xf80, 0x102b, 0x102d, 0x1031, 0x1032, 0x1038, 0x1039, 0x103b, 0x103d, 0x1056, 0x1058,
  0x1062, 0x1065, 0x1067, 0x106e, 0x1083, 0x1085, 0x1087, 0x108d, 0x108f, 0x1090, 0x109a, 0x109d,
  0x1715, 0x171f, 0x1734, 0x1735, 0x17b6, 0x17b7, 0x17be, 0x17c6, 0x17c7, 0x17c9, 0x1923, 0x1927,
  0x1929, 0x1932, 0x1933, 0x1939, 0x1a19, 0x1a1b, 0x1a55, 0x1a56, 0x1a57, 0x1a58, 0x1a61, 0x1a62,
  0x1a63, 0x1a65, 0x1a6d, 0x1a73, 0x1b04, 0x1b05, 0x1b35, 0x1b36, 0x1b3b, 0x1b3c, 0x1b3d, 0x1b42,
  0x1b43, 0x1b45, 0x1b82, 0x1b83, 0x1ba1, 0x1ba2, 0x1ba6, 0x1ba8, 0x1baa, 0x1bab, 0x1be7, 0x1be8,
  0x1bea, 0x1bed, 0x1bee, 0x1bef, 0x1bf2, 0x1bfc, 0x1c24, 0x1c2c, 0x1c34, 0x1c36, 0x1ce1, 0x1ce2,
  0x1cf7, 0x1cf8, 0x302e, 0x3030, 0xa823, 0xa825, 0xa827, 0xa828, 0xa880, 0xa882, 0xa8b4, 0xa8c4,
  0xa952, 0xa95f, 0xa983, 0xa984, 0xa9b4, 0xa9b6, 0xa9ba, 0xa9bc, 0xa9be, 0xa9c1, 0xaa2f, 0xaa31,
  0xaa33, 0xaa35, 0xaa4d, 0xaa50, 0xaa7b, 0xaa7c, 0xaa7d, 0xaa7e, 0xaaeb, 0xaaec, 0xaaee, 0xaaf0,
  0xaaf5, 0xaaf6, 0xabe3, 0xabe5, 0xabe6, 0xabe8, 0xabe9, 0xabeb, 0xabec, 0xabed, 0x11000,
  0x11001, 0x11002, 0x11003, 0x11082, 0x11083, 0x110b0, 0x110b3, 0x110b7, 0x110b9, 0x1112c,
  0x1112d, 0x11145, 0x11147, 0x11182, 0x11183, 0x111b3, 0x111b6, 0x111bf, 0x111c1, 0x111ce,
  0x111cf, 0x1122c, 0x1122f, 0x11232, 0x11234, 0x11235, 0x11236, 0x112e0, 0x112e3, 0x11302,
  0x11305, 0x1133e, 0x11340, 0x11341, 0x11350, 0x11357, 0x1135d, 0x11362, 0x11366, 0x113b8,
  0x113bb, 0x113c2, 0x113ce, 0x113cf, 0x113d0, 0x11435, 0x11438, 0x11440, 0x11442, 0x11445,
  0x11446, 0x114b0, 0x114b3, 0x114b9, 0x114ba, 0x114bb, 0x114bf, 0x114c1, 0x114c2, 0x115af,
  0x115b2, 0x115b8, 0x115bc, 0x115be, 0x115bf, 0x11630, 0x11633, 0x1163b, 0x1163d, 0x1163e,
  0x1163f, 0x116ac, 0x116ad, 0x116ae, 0x116b0, 0x116b6, 0x116b7, 0x1171e, 0x1171f, 0x11720,
  0x11722, 0x11726, 0x11727, 0x1182c, 0x1182f, 0x11838, 0x11839, 0x11930, 0x1193b, 0x1193d,
  0x1193e, 0x11940, 0x11941, 0x11942, 0x11943, 0x119d1, 0x119d4, 0x119dc, 0x119e0, 0x119e4,
  0x11a00, 0x11a39, 0x11a3a, 0x11a57, 0x11a59, 0x11a97, 0x11a98, 0x11b61, 0x11b62, 0x11b65,
  0x11b66, 0x11b67, 0x11bc0, 0x11c2f, 0x11c30, 0x11c3e, 0x11c3f, 0x11ca9, 0x11caa, 0x11cb1,
  0x11cb2, 0x11cb4, 0x11cb5, 0x11d8a, 0x11d90, 0x11d93, 0x11d95, 0x11d96, 0x11d97, 0x11ef5,
  0x11ef7, 0x11f03, 0x11f04, 0x11f34, 0x11f36, 0x11f3e, 0x11f40, 0x11f41, 0x11f42, 0x1612a,
  0x1612d, 0x16f51, 0x16f8f, 0x16ff0, 0x16ff2, 0x1d165, 0x1d167, 0x1d16d, 0x1d17b]

/-- Whether a character is a mark that takes no room of its own. -/
def isFlatMark (c : Char) : Bool := 0x300 ≤ c.toNat && inClass flatMarkBounds c.toNat

/-- Whether a character is a mark. -/
def isMark (c : Char) : Bool := isFlatMark c || inClass wideMarkBounds c.toNat

end FleetGate.Domain
