import AlertRelay.Http.Name.Letters

/-!
# Combining marks

The marks that stand with the letter before them.  Those that take no room of
their own stand in an order that their classes give, so that marks at different
places of a letter may be written in one order only.
-/

namespace AlertRelay.Http.Name

set_option maxRecDepth 8000 in
/-- The marks that take no room of their own. -/
def nonspacingRuns : Runs :=
  [(0x300, 0x33f, 1), (0x342, 0x342, 1), (0x346, 0x34e, 1), (0x350, 0x36f, 1), (0x483, 0x487, 1),
    (0x591, 0x5bd, 1), (0x5bf, 0x5bf, 1), (0x5c1, 0x5c2, 1), (0x5c4, 0x5c5, 1), (0x5c7, 0x5c7, 1),
    (0x610, 0x61a, 1), (0x64b, 0x65f, 1), (0x670, 0x670, 1), (0x6d6, 0x6dc, 1), (0x6df, 0x6e4, 1),
    (0x6e7, 0x6e8, 1), (0x6ea, 0x6ed, 1), (0x711, 0x711, 1), (0x730, 0x74a, 1), (0x7a6, 0x7b0, 1),
    (0x7eb, 0x7f3, 1), (0x7fd, 0x7fd, 1), (0x816, 0x819, 1), (0x81b, 0x823, 1), (0x825, 0x827, 1),
    (0x829, 0x82d, 1), (0x859, 0x85b, 1), (0x898, 0x89f, 1), (0x8ca, 0x8e1, 1), (0x8e3, 0x902, 1),
    (0x93a, 0x93c, 2), (0x941, 0x948, 1), (0x94d, 0x94d, 1), (0x951, 0x957, 1), (0x962, 0x963, 1),
    (0x981, 0x981, 1), (0x9bc, 0x9bc, 1), (0x9c1, 0x9c4, 1), (0x9cd, 0x9cd, 1), (0x9e2, 0x9e3, 1),
    (0x9fe, 0x9fe, 1), (0xa01, 0xa02, 1), (0xa3c, 0xa3c, 1), (0xa41, 0xa42, 1), (0xa47, 0xa48, 1),
    (0xa4b, 0xa4d, 1), (0xa51, 0xa51, 1), (0xa70, 0xa71, 1), (0xa75, 0xa75, 1), (0xa81, 0xa82, 1),
    (0xabc, 0xabc, 1), (0xac1, 0xac5, 1), (0xac7, 0xac8, 1), (0xacd, 0xacd, 1), (0xae2, 0xae3, 1),
    (0xafa, 0xaff, 1), (0xb01, 0xb01, 1), (0xb3c, 0xb3c, 1), (0xb3f, 0xb3f, 1), (0xb41, 0xb44, 1),
    (0xb4d, 0xb4d, 1), (0xb55, 0xb56, 1), (0xb62, 0xb63, 1), (0xb82, 0xb82, 1), (0xbc0, 0xbc0, 1),
    (0xbcd, 0xbcd, 1), (0xc00, 0xc00, 1), (0xc04, 0xc04, 1), (0xc3c, 0xc3c, 1), (0xc3e, 0xc40, 1),
    (0xc46, 0xc48, 1), (0xc4a, 0xc4d, 1), (0xc55, 0xc56, 1), (0xc62, 0xc63, 1), (0xc81, 0xc81, 1),
    (0xcbc, 0xcbc, 1), (0xcbf, 0xcbf, 1), (0xcc6, 0xcc6, 1), (0xccc, 0xccd, 1), (0xce2, 0xce3, 1),
    (0xd00, 0xd01, 1), (0xd3b, 0xd3c, 1), (0xd41, 0xd44, 1), (0xd4d, 0xd4d, 1), (0xd62, 0xd63, 1),
    (0xd81, 0xd81, 1), (0xdca, 0xdca, 1), (0xdd2, 0xdd4, 1), (0xdd6, 0xdd6, 1), (0xe31, 0xe31, 1),
    (0xe34, 0xe3a, 1), (0xe47, 0xe4e, 1), (0xeb1, 0xeb1, 1), (0xeb4, 0xebc, 1), (0xec8, 0xecd, 1),
    (0xf18, 0xf19, 1), (0xf35, 0xf39, 2), (0xf71, 0xf72, 1), (0xf74, 0xf74, 1), (0xf7a, 0xf7e, 1),
    (0xf80, 0xf80, 1), (0xf82, 0xf84, 1), (0xf86, 0xf87, 1), (0xf8d, 0xf92, 1), (0xf94, 0xf97, 1),
    (0xf99, 0xf9c, 1), (0xf9e, 0xfa1, 1), (0xfa3, 0xfa6, 1), (0xfa8, 0xfab, 1), (0xfad, 0xfb8, 1),
    (0xfba, 0xfbc, 1), (0xfc6, 0xfc6, 1), (0x102d, 0x1030, 1), (0x1032, 0x1037, 1),
    (0x1039, 0x103a, 1), (0x103d, 0x103e, 1), (0x1058, 0x1059, 1), (0x105e, 0x1060, 1),
    (0x1071, 0x1074, 1), (0x1082, 0x1082, 1), (0x1085, 0x1086, 1), (0x108d, 0x108d, 1),
    (0x109d, 0x109d, 1), (0x135d, 0x135f, 1), (0x1712, 0x1714, 1), (0x1732, 0x1733, 1),
    (0x1752, 0x1753, 1), (0x1772, 0x1773, 1), (0x17b7, 0x17bd, 1), (0x17c6, 0x17c6, 1),
    (0x17c9, 0x17d3, 1), (0x17dd, 0x17dd, 1), (0x1885, 0x1886, 1), (0x18a9, 0x18a9, 1),
    (0x1920, 0x1922, 1), (0x1927, 0x1928, 1), (0x1932, 0x1932, 1), (0x1939, 0x193b, 1),
    (0x1a17, 0x1a18, 1), (0x1a1b, 0x1a1b, 1), (0x1a56, 0x1a56, 1), (0x1a58, 0x1a5e, 1),
    (0x1a60, 0x1a62, 2), (0x1a65, 0x1a6c, 1), (0x1a73, 0x1a7c, 1), (0x1a7f, 0x1a7f, 1),
    (0x1ab0, 0x1abd, 1), (0x1abf, 0x1ace, 1), (0x1b00, 0x1b03, 1), (0x1b34, 0x1b34, 1),
    (0x1b36, 0x1b3a, 1), (0x1b3c, 0x1b3c, 1), (0x1b42, 0x1b42, 1), (0x1b6b, 0x1b73, 1),
    (0x1b80, 0x1b81, 1), (0x1ba2, 0x1ba5, 1), (0x1ba8, 0x1ba9, 1), (0x1bab, 0x1bad, 1),
    (0x1be6, 0x1be6, 1), (0x1be8, 0x1be9, 1), (0x1bed, 0x1bed, 1), (0x1bef, 0x1bf1, 1),
    (0x1c2c, 0x1c33, 1), (0x1c36, 0x1c37, 1), (0x1cd0, 0x1cd2, 1), (0x1cd4, 0x1ce0, 1),
    (0x1ce2, 0x1ce8, 1), (0x1ced, 0x1ced, 1), (0x1cf4, 0x1cf4, 1), (0x1cf8, 0x1cf9, 1),
    (0x1dc0, 0x1dff, 1), (0x2cef, 0x2cf1, 1), (0x2d7f, 0x2d7f, 1), (0x2de0, 0x2dff, 1),
    (0x302a, 0x302d, 1), (0x3099, 0x309a, 1), (0xa66f, 0xa66f, 1), (0xa674, 0xa67d, 1),
    (0xa69e, 0xa69f, 1), (0xa6f0, 0xa6f1, 1), (0xa802, 0xa802, 1), (0xa806, 0xa806, 1),
    (0xa80b, 0xa80b, 1), (0xa825, 0xa826, 1), (0xa82c, 0xa82c, 1), (0xa8c4, 0xa8c5, 1),
    (0xa8e0, 0xa8f1, 1), (0xa8ff, 0xa8ff, 1), (0xa926, 0xa92d, 1), (0xa947, 0xa951, 1),
    (0xa980, 0xa982, 1), (0xa9b3, 0xa9b3, 1), (0xa9b6, 0xa9b9, 1), (0xa9bc, 0xa9bd, 1),
    (0xa9e5, 0xa9e5, 1), (0xaa29, 0xaa2e, 1), (0xaa31, 0xaa32, 1), (0xaa35, 0xaa36, 1),
    (0xaa43, 0xaa43, 1), (0xaa4c, 0xaa4c, 1), (0xaa7c, 0xaa7c, 1), (0xaab0, 0xaab0, 1),
    (0xaab2, 0xaab4, 1), (0xaab7, 0xaab8, 1), (0xaabe, 0xaabf, 1), (0xaac1, 0xaac1, 1),
    (0xaaec, 0xaaed, 1), (0xaaf6, 0xaaf6, 1), (0xabe5, 0xabe5, 1), (0xabe8, 0xabe8, 1),
    (0xabed, 0xabed, 1), (0xfb1e, 0xfb1e, 1), (0xfe20, 0xfe2f, 1), (0x101fd, 0x101fd, 1),
    (0x102e0, 0x102e0, 1), (0x10376, 0x1037a, 1), (0x10a01, 0x10a03, 1), (0x10a05, 0x10a06, 1),
    (0x10a0c, 0x10a0f, 1), (0x10a38, 0x10a3a, 1), (0x10a3f, 0x10a3f, 1), (0x10ae5, 0x10ae6, 1),
    (0x10d24, 0x10d27, 1), (0x10eab, 0x10eac, 1), (0x10f46, 0x10f50, 1), (0x10f82, 0x10f85, 1),
    (0x11001, 0x11001, 1), (0x11038, 0x11046, 1), (0x11070, 0x11070, 1), (0x11073, 0x11074, 1),
    (0x1107f, 0x11081, 1), (0x110b3, 0x110b6, 1), (0x110b9, 0x110ba, 1), (0x110c2, 0x110c2, 1),
    (0x11100, 0x11102, 1), (0x11127, 0x1112b, 1), (0x1112d, 0x11134, 1), (0x11173, 0x11173, 1),
    (0x11180, 0x11181, 1), (0x111b6, 0x111be, 1), (0x111c9, 0x111cc, 1), (0x111cf, 0x111cf, 1),
    (0x1122f, 0x11231, 1), (0x11234, 0x11234, 1), (0x11236, 0x11237, 1), (0x1123e, 0x1123e, 1),
    (0x112df, 0x112df, 1), (0x112e3, 0x112ea, 1), (0x11300, 0x11301, 1), (0x1133b, 0x1133c, 1),
    (0x11340, 0x11340, 1), (0x11366, 0x1136c, 1), (0x11370, 0x11374, 1), (0x11438, 0x1143f, 1),
    (0x11442, 0x11444, 1), (0x11446, 0x11446, 1), (0x1145e, 0x1145e, 1), (0x114b3, 0x114b8, 1),
    (0x114ba, 0x114ba, 1), (0x114bf, 0x114c0, 1), (0x114c2, 0x114c3, 1), (0x115b2, 0x115b5, 1),
    (0x115bc, 0x115bd, 1), (0x115bf, 0x115c0, 1), (0x115dc, 0x115dd, 1), (0x11633, 0x1163a, 1),
    (0x1163d, 0x1163d, 1), (0x1163f, 0x11640, 1), (0x116ab, 0x116ad, 2), (0x116b0, 0x116b5, 1),
    (0x116b7, 0x116b7, 1), (0x1171d, 0x1171f, 1), (0x11722, 0x11725, 1), (0x11727, 0x1172b, 1),
    (0x1182f, 0x11837, 1), (0x11839, 0x1183a, 1), (0x1193b, 0x1193c, 1), (0x1193e, 0x1193e, 1),
    (0x11943, 0x11943, 1), (0x119d4, 0x119d7, 1), (0x119da, 0x119db, 1), (0x119e0, 0x119e0, 1),
    (0x11a01, 0x11a0a, 1), (0x11a33, 0x11a38, 1), (0x11a3b, 0x11a3e, 1), (0x11a47, 0x11a47, 1),
    (0x11a51, 0x11a56, 1), (0x11a59, 0x11a5b, 1), (0x11a8a, 0x11a96, 1), (0x11a98, 0x11a99, 1),
    (0x11c30, 0x11c36, 1), (0x11c38, 0x11c3d, 1), (0x11c3f, 0x11c3f, 1), (0x11c92, 0x11ca7, 1),
    (0x11caa, 0x11cb0, 1), (0x11cb2, 0x11cb3, 1), (0x11cb5, 0x11cb6, 1), (0x11d31, 0x11d36, 1),
    (0x11d3a, 0x11d3a, 1), (0x11d3c, 0x11d3d, 1), (0x11d3f, 0x11d45, 1), (0x11d47, 0x11d47, 1),
    (0x11d90, 0x11d91, 1), (0x11d95, 0x11d97, 2), (0x11ef3, 0x11ef4, 1), (0x16af0, 0x16af4, 1),
    (0x16b30, 0x16b36, 1), (0x16f4f, 0x16f4f, 1), (0x16f8f, 0x16f92, 1), (0x16fe4, 0x16fe4, 1),
    (0x1bc9d, 0x1bc9e, 1), (0x1cf00, 0x1cf2d, 1), (0x1cf30, 0x1cf46, 1), (0x1da00, 0x1da36, 1),
    (0x1da3b, 0x1da6c, 1), (0x1da75, 0x1da75, 1), (0x1da84, 0x1da84, 1), (0x1da9b, 0x1da9f, 1),
    (0x1daa1, 0x1daaf, 1), (0x1e000, 0x1e006, 1), (0x1e008, 0x1e018, 1), (0x1e01b, 0x1e021, 1),
    (0x1e023, 0x1e024, 1), (0x1e026, 0x1e02a, 1), (0x1e130, 0x1e136, 1), (0x1e2ae, 0x1e2ae, 1),
    (0x1e2ec, 0x1e2ef, 1), (0x1e8d0, 0x1e8d6, 1), (0x1e944, 0x1e94a, 1)]

/-- The marks that take room beside the letter. -/
def spacingRuns : Runs :=
  [(0x903, 0x903, 1), (0x93b, 0x93b, 1), (0x93e, 0x940, 1), (0x949, 0x94c, 1), (0x94e, 0x94f, 1),
    (0x982, 0x983, 1), (0x9be, 0x9c0, 1), (0x9c7, 0x9c8, 1), (0x9cb, 0x9cc, 1), (0x9d7, 0x9d7, 1),
    (0xa03, 0xa03, 1), (0xa3e, 0xa40, 1), (0xa83, 0xa83, 1), (0xabe, 0xac0, 1), (0xac9, 0xac9, 1),
    (0xacb, 0xacc, 1), (0xb02, 0xb03, 1), (0xb3e, 0xb40, 2), (0xb47, 0xb48, 1), (0xb4b, 0xb4c, 1),
    (0xb57, 0xb57, 1), (0xbbe, 0xbbf, 1), (0xbc1, 0xbc2, 1), (0xbc6, 0xbc8, 1), (0xbca, 0xbcc, 1),
    (0xbd7, 0xbd7, 1), (0xc01, 0xc03, 1), (0xc41, 0xc44, 1), (0xc82, 0xc83, 1), (0xcbe, 0xcbe, 1),
    (0xcc0, 0xcc4, 1), (0xcc7, 0xcc8, 1), (0xcca, 0xccb, 1), (0xcd5, 0xcd6, 1), (0xd02, 0xd03, 1),
    (0xd3e, 0xd40, 1), (0xd46, 0xd48, 1), (0xd4a, 0xd4c, 1), (0xd57, 0xd57, 1), (0xd82, 0xd83, 1),
    (0xdcf, 0xdd1, 1), (0xdd8, 0xddf, 1), (0xdf2, 0xdf3, 1), (0xf3e, 0xf3f, 1), (0xf7f, 0xf7f, 1),
    (0x102b, 0x102c, 1), (0x1031, 0x1031, 1), (0x1038, 0x1038, 1), (0x103b, 0x103c, 1),
    (0x1056, 0x1057, 1), (0x1062, 0x1064, 1), (0x1067, 0x106d, 1), (0x1083, 0x1084, 1),
    (0x1087, 0x108c, 1), (0x108f, 0x108f, 1), (0x109a, 0x109c, 1), (0x1715, 0x1715, 1),
    (0x1734, 0x1734, 1), (0x17b6, 0x17b6, 1), (0x17be, 0x17c5, 1), (0x17c7, 0x17c8, 1),
    (0x1923, 0x1926, 1), (0x1929, 0x192b, 1), (0x1930, 0x1931, 1), (0x1933, 0x1938, 1),
    (0x1a19, 0x1a1a, 1), (0x1a55, 0x1a57, 2), (0x1a61, 0x1a61, 1), (0x1a63, 0x1a64, 1),
    (0x1a6d, 0x1a72, 1), (0x1b04, 0x1b04, 1), (0x1b35, 0x1b35, 1), (0x1b3b, 0x1b3b, 1),
    (0x1b3d, 0x1b41, 1), (0x1b43, 0x1b44, 1), (0x1b82, 0x1b82, 1), (0x1ba1, 0x1ba1, 1),
    (0x1ba6, 0x1ba7, 1), (0x1baa, 0x1baa, 1), (0x1be7, 0x1be7, 1), (0x1bea, 0x1bec, 1),
    (0x1bee, 0x1bee, 1), (0x1bf2, 0x1bf3, 1), (0x1c24, 0x1c2b, 1), (0x1c34, 0x1c35, 1),
    (0x1ce1, 0x1ce1, 1), (0x1cf7, 0x1cf7, 1), (0xa823, 0xa824, 1), (0xa827, 0xa827, 1),
    (0xa880, 0xa881, 1), (0xa8b4, 0xa8c3, 1), (0xa952, 0xa953, 1), (0xa983, 0xa983, 1),
    (0xa9b4, 0xa9b5, 1), (0xa9ba, 0xa9bb, 1), (0xa9be, 0xa9c0, 1), (0xaa2f, 0xaa30, 1),
    (0xaa33, 0xaa34, 1), (0xaa4d, 0xaa4d, 1), (0xaa7b, 0xaa7d, 2), (0xaaeb, 0xaaeb, 1),
    (0xaaee, 0xaaef, 1), (0xaaf5, 0xaaf5, 1), (0xabe3, 0xabe4, 1), (0xabe6, 0xabe7, 1),
    (0xabe9, 0xabea, 1), (0xabec, 0xabec, 1), (0x11000, 0x11002, 2), (0x11082, 0x11082, 1),
    (0x110b0, 0x110b2, 1), (0x110b7, 0x110b8, 1), (0x1112c, 0x1112c, 1), (0x11145, 0x11146, 1),
    (0x11182, 0x11182, 1), (0x111b3, 0x111b5, 1), (0x111bf, 0x111c0, 1), (0x111ce, 0x111ce, 1),
    (0x1122c, 0x1122e, 1), (0x11232, 0x11233, 1), (0x11235, 0x11235, 1), (0x112e0, 0x112e2, 1),
    (0x11302, 0x11303, 1), (0x1133e, 0x1133f, 1), (0x11341, 0x11344, 1), (0x11347, 0x11348, 1),
    (0x1134b, 0x1134d, 1), (0x11357, 0x11357, 1), (0x11362, 0x11363, 1), (0x11435, 0x11437, 1),
    (0x11440, 0x11441, 1), (0x11445, 0x11445, 1), (0x114b0, 0x114b2, 1), (0x114b9, 0x114b9, 1),
    (0x114bb, 0x114be, 1), (0x114c1, 0x114c1, 1), (0x115af, 0x115b1, 1), (0x115b8, 0x115bb, 1),
    (0x115be, 0x115be, 1), (0x11630, 0x11632, 1), (0x1163b, 0x1163c, 1), (0x1163e, 0x1163e, 1),
    (0x116ac, 0x116ac, 1), (0x116ae, 0x116af, 1), (0x116b6, 0x116b6, 1), (0x11720, 0x11721, 1),
    (0x11726, 0x11726, 1), (0x1182c, 0x1182e, 1), (0x11838, 0x11838, 1), (0x11930, 0x11935, 1),
    (0x11937, 0x11938, 1), (0x1193d, 0x1193d, 1), (0x11940, 0x11942, 2), (0x119d1, 0x119d3, 1),
    (0x119dc, 0x119df, 1), (0x119e4, 0x119e4, 1), (0x11a39, 0x11a39, 1), (0x11a57, 0x11a58, 1),
    (0x11a97, 0x11a97, 1), (0x11c2f, 0x11c2f, 1), (0x11c3e, 0x11c3e, 1), (0x11ca9, 0x11ca9, 1),
    (0x11cb1, 0x11cb1, 1), (0x11cb4, 0x11cb4, 1), (0x11d8a, 0x11d8e, 1), (0x11d93, 0x11d94, 1),
    (0x11d96, 0x11d96, 1), (0x11ef5, 0x11ef6, 1), (0x16f51, 0x16f87, 1), (0x16ff0, 0x16ff1, 1)]

def isNonspacing (c : Char) : Bool := nonspacingRuns.has c

def isMark (c : Char) : Bool := isNonspacing c || spacingRuns.has c

/-! ## Classes -/

set_option maxRecDepth 8000 in
/-- The classes other than zero, each with its marks. -/
def classRuns : List (Nat × Runs) :=
  [(1, [(0x334, 0x338, 1), (0x1cd4, 0x1cd4, 1), (0x1ce2, 0x1ce8, 1), (0x10a39, 0x10a39, 1),
      (0x16af0, 0x16af4, 1), (0x1bc9e, 0x1bc9e, 1)]),
    (6, [(0x16ff0, 0x16ff1, 1)]),
    (7, [(0x93c, 0x93c, 1), (0x9bc, 0x9bc, 1), (0xa3c, 0xa3c, 1), (0xabc, 0xabc, 1),
      (0xb3c, 0xb3c, 1), (0xc3c, 0xc3c, 1), (0xcbc, 0xcbc, 1), (0x1037, 0x1037, 1),
      (0x1b34, 0x1b34, 1), (0x1be6, 0x1be6, 1), (0x1c37, 0x1c37, 1), (0xa9b3, 0xa9b3, 1),
      (0x110ba, 0x110ba, 1), (0x11173, 0x11173, 1), (0x111ca, 0x111ca, 1), (0x11236, 0x11236, 1),
      (0x112e9, 0x112e9, 1), (0x1133b, 0x1133c, 1), (0x11446, 0x11446, 1), (0x114c3, 0x114c3, 1),
      (0x115c0, 0x115c0, 1), (0x116b7, 0x116b7, 1), (0x1183a, 0x1183a, 1), (0x11943, 0x11943, 1),
      (0x11d42, 0x11d42, 1), (0x1e94a, 0x1e94a, 1)]),
    (8, [(0x3099, 0x309a, 1)]),
    (9, [(0x94d, 0x94d, 1), (0x9cd, 0x9cd, 1), (0xa4d, 0xa4d, 1), (0xacd, 0xacd, 1),
      (0xb4d, 0xb4d, 1), (0xbcd, 0xbcd, 1), (0xc4d, 0xc4d, 1), (0xccd, 0xccd, 1), (0xd3b, 0xd3c, 1),
      (0xd4d, 0xd4d, 1), (0xdca, 0xdca, 1), (0xe3a, 0xe3a, 1), (0xeba, 0xeba, 1), (0xf84, 0xf84, 1),
      (0x1039, 0x103a, 1), (0x1714, 0x1715, 1), (0x1734, 0x1734, 1), (0x17d2, 0x17d2, 1),
      (0x1a60, 0x1a60, 1), (0x1b44, 0x1b44, 1), (0x1baa, 0x1bab, 1), (0x1bf2, 0x1bf3, 1),
      (0x2d7f, 0x2d7f, 1), (0xa806, 0xa806, 1), (0xa82c, 0xa82c, 1), (0xa8c4, 0xa8c4, 1),
      (0xa953, 0xa953, 1), (0xa9c0, 0xa9c0, 1), (0xaaf6, 0xaaf6, 1), (0xabed, 0xabed, 1),
      (0x10a3f, 0x10a3f, 1), (0x11046, 0x11046, 1), (0x11070, 0x11070, 1), (0x1107f, 0x1107f, 1),
      (0x110b9, 0x110b9, 1), (0x11133, 0x11134, 1), (0x111c0, 0x111c0, 1), (0x11235, 0x11235, 1),
      (0x112ea, 0x112ea, 1), (0x1134d, 0x1134d, 1), (0x11442, 0x11442, 1), (0x114c2, 0x114c2, 1),
      (0x115bf, 0x115bf, 1), (0x1163f, 0x1163f, 1), (0x116b6, 0x116b6, 1), (0x1172b, 0x1172b, 1),
      (0x11839, 0x11839, 1), (0x1193d, 0x1193e, 1), (0x119e0, 0x119e0, 1), (0x11a34, 0x11a34, 1),
      (0x11a47, 0x11a47, 1), (0x11a99, 0x11a99, 1), (0x11c3f, 0x11c3f, 1), (0x11d44, 0x11d45, 1),
      (0x11d97, 0x11d97, 1)]),
    (10, [(0x5b0, 0x5b0, 1)]),
    (11, [(0x5b1, 0x5b1, 1)]),
    (12, [(0x5b2, 0x5b2, 1)]),
    (13, [(0x5b3, 0x5b3, 1)]),
    (14, [(0x5b4, 0x5b4, 1)]),
    (15, [(0x5b5, 0x5b5, 1)]),
    (16, [(0x5b6, 0x5b6, 1)]),
    (17, [(0x5b7, 0x5b7, 1)]),
    (18, [(0x5b8, 0x5b8, 1), (0x5c7, 0x5c7, 1)]),
    (19, [(0x5b9, 0x5ba, 1)]),
    (20, [(0x5bb, 0x5bb, 1)]),
    (21, [(0x5bc, 0x5bc, 1)]),
    (22, [(0x5bd, 0x5bd, 1)]),
    (23, [(0x5bf, 0x5bf, 1)]),
    (24, [(0x5c1, 0x5c1, 1)]),
    (25, [(0x5c2, 0x5c2, 1)]),
    (26, [(0xfb1e, 0xfb1e, 1)]),
    (27, [(0x64b, 0x64b, 1), (0x8f0, 0x8f0, 1)]),
    (28, [(0x64c, 0x64c, 1), (0x8f1, 0x8f1, 1)]),
    (29, [(0x64d, 0x64d, 1), (0x8f2, 0x8f2, 1)]),
    (30, [(0x618, 0x618, 1), (0x64e, 0x64e, 1)]),
    (31, [(0x619, 0x619, 1), (0x64f, 0x64f, 1)]),
    (32, [(0x61a, 0x61a, 1), (0x650, 0x650, 1)]),
    (33, [(0x651, 0x651, 1)]),
    (34, [(0x652, 0x652, 1)]),
    (35, [(0x670, 0x670, 1)]),
    (36, [(0x711, 0x711, 1)]),
    (84, [(0xc55, 0xc55, 1)]),
    (91, [(0xc56, 0xc56, 1)]),
    (103, [(0xe38, 0xe39, 1)]),
    (107, [(0xe48, 0xe4b, 1)]),
    (118, [(0xeb8, 0xeb9, 1)]),
    (122, [(0xec8, 0xecb, 1)]),
    (129, [(0xf71, 0xf71, 1)]),
    (130, [(0xf72, 0xf72, 1), (0xf7a, 0xf7d, 1), (0xf80, 0xf80, 1)]),
    (132, [(0xf74, 0xf74, 1)]),
    (202, [(0x321, 0x322, 1), (0x327, 0x328, 1), (0x1dd0, 0x1dd0, 1)]),
    (214, [(0x1dce, 0x1dce, 1)]),
    (216, [(0x31b, 0x31b, 1), (0xf39, 0xf39, 1)]),
    (218, [(0x1dfa, 0x1dfa, 1), (0x302a, 0x302a, 1)]),
    (220, [(0x316, 0x319, 1), (0x31c, 0x320, 1), (0x323, 0x326, 1), (0x329, 0x333, 1),
      (0x339, 0x33c, 1), (0x347, 0x349, 1), (0x34d, 0x34e, 1), (0x353, 0x356, 1), (0x359, 0x35a, 1),
      (0x591, 0x591, 1), (0x596, 0x596, 1), (0x59b, 0x59b, 1), (0x5a2, 0x5a7, 1), (0x5aa, 0x5aa, 1),
      (0x5c5, 0x5c5, 1), (0x655, 0x656, 1), (0x65c, 0x65c, 1), (0x65f, 0x65f, 1), (0x6e3, 0x6e3, 1),
      (0x6ea, 0x6ea, 1), (0x6ed, 0x6ed, 1), (0x731, 0x731, 1), (0x734, 0x734, 1), (0x737, 0x739, 1),
      (0x73b, 0x73c, 1), (0x73e, 0x73e, 1), (0x742, 0x748, 2), (0x7f2, 0x7f2, 1), (0x7fd, 0x7fd, 1),
      (0x859, 0x85b, 1), (0x899, 0x89b, 1), (0x8cf, 0x8d3, 1), (0x8e3, 0x8e3, 1), (0x8e6, 0x8e6, 1),
      (0x8e9, 0x8e9, 1), (0x8ed, 0x8ef, 1), (0x8f6, 0x8f6, 1), (0x8f9, 0x8fa, 1), (0x952, 0x952, 1),
      (0xf18, 0xf19, 1), (0xf35, 0xf37, 2), (0xfc6, 0xfc6, 1), (0x108d, 0x108d, 1),
      (0x193b, 0x193b, 1), (0x1a18, 0x1a18, 1), (0x1a7f, 0x1a7f, 1), (0x1ab5, 0x1aba, 1),
      (0x1abd, 0x1abd, 1), (0x1abf, 0x1ac0, 1), (0x1ac3, 0x1ac4, 1), (0x1aca, 0x1aca, 1),
      (0x1b6c, 0x1b6c, 1), (0x1cd5, 0x1cd9, 1), (0x1cdc, 0x1cdf, 1), (0x1ced, 0x1ced, 1),
      (0x1dc2, 0x1dc2, 1), (0x1dca, 0x1dca, 1), (0x1dcf, 0x1dcf, 1), (0x1df9, 0x1df9, 1),
      (0x1dfd, 0x1dff, 2), (0xa92b, 0xa92d, 1), (0xaab4, 0xaab4, 1), (0xfe27, 0xfe2d, 1),
      (0x101fd, 0x101fd, 1), (0x102e0, 0x102e0, 1), (0x10a0d, 0x10a0d, 1), (0x10a3a, 0x10a3a, 1),
      (0x10ae6, 0x10ae6, 1), (0x10f46, 0x10f47, 1), (0x10f4b, 0x10f4b, 1), (0x10f4d, 0x10f50, 1),
      (0x10f83, 0x10f85, 2), (0x1e8d0, 0x1e8d6, 1)]),
    (222, [(0x59a, 0x59a, 1), (0x5ad, 0x5ad, 1), (0x1939, 0x1939, 1), (0x302d, 0x302d, 1)]),
    (228, [(0x5ae, 0x5ae, 1), (0x18a9, 0x18a9, 1), (0x1df7, 0x1df8, 1), (0x302b, 0x302b, 1)]),
    (230, [(0x300, 0x314, 1), (0x33d, 0x33f, 1), (0x342, 0x342, 1), (0x346, 0x346, 1),
      (0x34a, 0x34c, 1), (0x350, 0x352, 1), (0x357, 0x357, 1), (0x35b, 0x35b, 1), (0x363, 0x36f, 1),
      (0x483, 0x487, 1), (0x592, 0x595, 1), (0x597, 0x599, 1), (0x59c, 0x5a1, 1), (0x5a8, 0x5a9, 1),
      (0x5ab, 0x5ac, 1), (0x5af, 0x5af, 1), (0x5c4, 0x5c4, 1), (0x610, 0x617, 1), (0x653, 0x654, 1),
      (0x657, 0x65b, 1), (0x65d, 0x65e, 1), (0x6d6, 0x6dc, 1), (0x6df, 0x6e2, 1), (0x6e4, 0x6e4, 1),
      (0x6e7, 0x6e8, 1), (0x6eb, 0x6ec, 1), (0x730, 0x730, 1), (0x732, 0x733, 1), (0x735, 0x736, 1),
      (0x73a, 0x73a, 1), (0x73d, 0x73d, 1), (0x73f, 0x741, 1), (0x743, 0x747, 2), (0x749, 0x74a, 1),
      (0x7eb, 0x7f1, 1), (0x7f3, 0x7f3, 1), (0x816, 0x819, 1), (0x81b, 0x823, 1), (0x825, 0x827, 1),
      (0x829, 0x82d, 1), (0x898, 0x898, 1), (0x89c, 0x89f, 1), (0x8ca, 0x8ce, 1), (0x8d4, 0x8e1, 1),
      (0x8e4, 0x8e5, 1), (0x8e7, 0x8e8, 1), (0x8ea, 0x8ec, 1), (0x8f3, 0x8f5, 1), (0x8f7, 0x8f8, 1),
      (0x8fb, 0x8ff, 1), (0x951, 0x951, 1), (0x953, 0x954, 1), (0x9fe, 0x9fe, 1), (0xf82, 0xf83, 1),
      (0xf86, 0xf87, 1), (0x135d, 0x135f, 1), (0x17dd, 0x17dd, 1), (0x193a, 0x193a, 1),
      (0x1a17, 0x1a17, 1), (0x1a75, 0x1a7c, 1), (0x1ab0, 0x1ab4, 1), (0x1abb, 0x1abc, 1),
      (0x1ac1, 0x1ac2, 1), (0x1ac5, 0x1ac9, 1), (0x1acb, 0x1ace, 1), (0x1b6b, 0x1b6b, 1),
      (0x1b6d, 0x1b73, 1), (0x1cd0, 0x1cd2, 1), (0x1cda, 0x1cdb, 1), (0x1ce0, 0x1ce0, 1),
      (0x1cf4, 0x1cf4, 1), (0x1cf8, 0x1cf9, 1), (0x1dc0, 0x1dc1, 1), (0x1dc3, 0x1dc9, 1),
      (0x1dcb, 0x1dcc, 1), (0x1dd1, 0x1df5, 1), (0x1dfb, 0x1dfb, 1), (0x1dfe, 0x1dfe, 1),
      (0x2cef, 0x2cf1, 1), (0x2de0, 0x2dff, 1), (0xa66f, 0xa66f, 1), (0xa674, 0xa67d, 1),
      (0xa69e, 0xa69f, 1), (0xa6f0, 0xa6f1, 1), (0xa8e0, 0xa8f1, 1), (0xaab0, 0xaab0, 1),
      (0xaab2, 0xaab3, 1), (0xaab7, 0xaab8, 1), (0xaabe, 0xaabf, 1), (0xaac1, 0xaac1, 1),
      (0xfe20, 0xfe26, 1), (0xfe2e, 0xfe2f, 1), (0x10376, 0x1037a, 1), (0x10a0f, 0x10a0f, 1),
      (0x10a38, 0x10a38, 1), (0x10ae5, 0x10ae5, 1), (0x10d24, 0x10d27, 1), (0x10eab, 0x10eac, 1),
      (0x10f48, 0x10f4a, 1), (0x10f4c, 0x10f4c, 1), (0x10f82, 0x10f84, 2), (0x11100, 0x11102, 1),
      (0x11366, 0x1136c, 1), (0x11370, 0x11374, 1), (0x1145e, 0x1145e, 1), (0x16b30, 0x16b36, 1),
      (0x1e000, 0x1e006, 1), (0x1e008, 0x1e018, 1), (0x1e01b, 0x1e021, 1), (0x1e023, 0x1e024, 1),
      (0x1e026, 0x1e02a, 1), (0x1e130, 0x1e136, 1), (0x1e2ae, 0x1e2ae, 1), (0x1e2ec, 0x1e2ef, 1),
      (0x1e944, 0x1e949, 1)]),
    (232, [(0x315, 0x315, 1), (0x31a, 0x31a, 1), (0x358, 0x358, 1), (0x1df6, 0x1df6, 1),
      (0x302c, 0x302c, 1)]),
    (233, [(0x35c, 0x35c, 1), (0x35f, 0x35f, 1), (0x362, 0x362, 1), (0x1dfc, 0x1dfc, 1)]),
    (234, [(0x35d, 0x35e, 1), (0x360, 0x361, 1), (0x1dcd, 0x1dcd, 1)])]

/-- The class of a character, zero for one that no mark moves past. -/
def combiningClass (c : Char) : Nat :=
  match classRuns.find? fun (_, runs) => runs.has c with
  | some (n, _) => n
  | none => 0

/-- Whether a mark takes the vowel from the letter before it. -/
def isVowelKiller (c : Char) : Bool := combiningClass c == 9

end AlertRelay.Http.Name
