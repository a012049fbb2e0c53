import AlertRelay.Charset.Table

/-!
# The extended Chinese set

What extensions of the Chinese set put at fixed places: signs and compatibility
ideographs, characters for private use, and codes of four bytes for all the rest.
-/

namespace AlertRelay.Charset.Gb

set_option maxRecDepth 4000 in
/-- The signs and compatibility ideographs of the first extension, by their two bytes. -/
def signs : Table :=
  [(0xa1a4, "·"), (0xa1aa, "—"), (0xa2a1, "ⅰⅱⅲⅳⅴⅵⅶⅷⅸⅹ"),
    (0xa6e0, "︵︶︹︺︿﹀︽︾﹁﹂﹃﹄\ufffd\ufffd︻︼︷︸︱\ufffd︳︴"),
    (0xa840, "ˊˋ˙–―‥‵℅℉↖↗↘↙∕∟∣≒≦≧⊿═║╒╓╔╕╖╗╘╙╚╛╜╝╞╟╠╡╢╣╤╥╦╧╨╩╪"),
    (0xa86f, "╫╬╭╮╯╰╱╲╳▁▂▃▄▅▆▇\ufffd█▉▊▋▌▍▎▏▓▔▕▼▽◢◣◤◥☉⊕〒〝〞"), (0xa8bb, "ɑ\ufffdńň\ufffdɡ"),
    (0xa940, "〡〢〣〤〥〦〧〨〩㊣㎎㎏㎜㎝㎞㎡㏄㏎㏑㏒㏕︰￢￤\ufffd℡㈱\ufffd‐"),
    (0xa960, "ー゛゜ヽヾ〆ゝゞ﹉﹊﹋﹌﹍﹎﹏﹐﹑﹒﹔﹕﹖﹗﹙﹚﹛﹜﹝﹞﹟﹠﹡\ufffd﹢﹣﹤﹥﹦﹨﹩﹪﹫"), (0xa996, "〇"), (0xfd9c, "郎凉秊裏隣"),
    (0xfe40, "兀嗀﨎﨏﨑﨓﨔礼﨟蘒﨡﨣﨤﨧﨨﨩")]

/-- The signs and ideographs of the second extension. -/
def laterSigns : Table :=
  [(0xa2e3, "€"), (0xa8bf, "ǹ"), (0xa989, "〾⿰⿱⿲⿳⿴⿵⿶⿷⿸⿹⿺⿻"), (0xfe50, "⺁"),
    (0xfe54, "⺄㑳㑇⺈⺋\ufffd㖞㘚㘎⺌⺗㥮㤘\ufffd㧏㧟㩳㧐\ufffd\ufffd㭎㱮㳠⺧\ufffd\ufffd⺪䁖䅟⺮䌷⺳⺶⺷\ufffd䎱䎬⺻䏝䓖䙡䙌"),
    (0xfe80, "䜣䜩䝼䞍⻊䥇䥺䥽䦂䦃䦅䦆䦟䦛䦷䦶\ufffd\ufffd䲣䲟䲠䲡䱷䲢䴓䴔䴕䴖䴗䴘䴙䶮")]

/-- The characters for private use: the first code and character of each run, and how
many there are. -/
def privateRuns : List (Nat × Nat × Nat) :=
  [(0xa140, 0xe4c6, 63), (0xa180, 0xe505, 33), (0xa240, 0xe526, 63), (0xa280, 0xe565, 33),
    (0xa2ab, 0xe766, 6), (0xa2e4, 0xe76d, 1), (0xa2ef, 0xe76e, 2), (0xa2fd, 0xe770, 2),
    (0xa340, 0xe586, 63), (0xa380, 0xe5c5, 33), (0xa440, 0xe5e6, 63), (0xa480, 0xe625, 33),
    (0xa4f4, 0xe772, 11), (0xa540, 0xe646, 63), (0xa580, 0xe685, 33), (0xa5f7, 0xe77d, 8),
    (0xa640, 0xe6a6, 63), (0xa680, 0xe6e5, 33), (0xa6b9, 0xe785, 8), (0xa6d9, 0xe78d, 7),
    (0xa6ec, 0xe794, 2), (0xa6f3, 0xe796, 1), (0xa6f6, 0xe797, 9), (0xa740, 0xe706, 63),
    (0xa780, 0xe745, 33), (0xa7c2, 0xe7a0, 15), (0xa7f2, 0xe7af, 13), (0xa896, 0xe7bc, 11),
    (0xa8bc, 0xe7c7, 1), (0xa8c1, 0xe7c9, 4), (0xa8ea, 0xe7cd, 21), (0xa958, 0xe7e2, 1),
    (0xa95b, 0xe7e3, 1), (0xa95d, 0xe7e4, 3), (0xa997, 0xe7f4, 13), (0xa9f0, 0xe801, 15),
    (0xaaa1, 0xe000, 94), (0xaba1, 0xe05e, 94), (0xaca1, 0xe0bc, 94), (0xada1, 0xe11a, 94),
    (0xaea1, 0xe178, 94), (0xafa1, 0xe1d6, 94), (0xd7fa, 0xe810, 5), (0xf8a1, 0xe234, 94),
    (0xf9a1, 0xe292, 94), (0xfaa1, 0xe2f0, 94), (0xfba1, 0xe34e, 94), (0xfca1, 0xe3ac, 94),
    (0xfda1, 0xe40a, 94), (0xfe51, 0xe816, 3), (0xfe59, 0xe81e, 1), (0xfe61, 0xe826, 1),
    (0xfe66, 0xe82b, 2), (0xfe6c, 0xe831, 2), (0xfe76, 0xe83b, 1), (0xfe7e, 0xe843, 1),
    (0xfe90, 0xe854, 2), (0xfea0, 0xe864, 1), (0xfea1, 0xe468, 94)]

set_option maxRecDepth 4000 in
/-- The characters with codes of four bytes, as the first number and character of each
run. -/
def longRuns : List (Nat × Nat) :=
  [(0, 0x80), (36, 0xa5), (38, 0xa9), (45, 0xb2), (50, 0xb8), (81, 0xd8), (89, 0xe2), (95, 0xeb),
    (96, 0xee), (100, 0xf4), (103, 0xf8), (104, 0xfb), (105, 0xfd), (109, 0x102), (126, 0x114),
    (133, 0x11c), (148, 0x12c), (172, 0x145), (175, 0x149), (179, 0x14e), (208, 0x16c),
    (306, 0x1cf), (307, 0x1d1), (308, 0x1d3), (309, 0x1d5), (310, 0x1d7), (311, 0x1d9),
    (312, 0x1db), (313, 0x1dd), (341, 0x1fa), (428, 0x252), (443, 0x262), (544, 0x2c8),
    (545, 0x2cc), (558, 0x2da), (741, 0x3a2), (742, 0x3aa), (749, 0x3c2), (750, 0x3ca),
    (805, 0x402), (819, 0x450), (820, 0x452), (7922, 0x2011), (7924, 0x2017), (7925, 0x201a),
    (7927, 0x201e), (7934, 0x2027), (7943, 0x2031), (7944, 0x2034), (7945, 0x2036),
    (7950, 0x203c), (8062, 0x20ad), (8148, 0x2104), (8149, 0x2106), (8152, 0x210a),
    (8164, 0x2117), (8174, 0x2122), (8236, 0x216c), (8240, 0x217a), (8262, 0x2194),
    (8264, 0x219a), (8374, 0x2209), (8380, 0x2210), (8381, 0x2212), (8384, 0x2216),
    (8388, 0x221b), (8390, 0x2221), (8392, 0x2224), (8393, 0x2226), (8394, 0x222c),
    (8396, 0x222f), (8401, 0x2238), (8406, 0x223e), (8416, 0x2249), (8419, 0x224d),
    (8424, 0x2253), (8437, 0x2262), (8439, 0x2268), (8445, 0x2270), (8482, 0x2296),
    (8485, 0x229a), (8496, 0x22a6), (8521, 0x22c0), (8603, 0x2313), (8936, 0x246a),
    (8946, 0x249c), (9046, 0x254c), (9050, 0x2574), (9063, 0x2590), (9066, 0x2596),
    (9076, 0x25a2), (9092, 0x25b4), (9100, 0x25be), (9108, 0x25c8), (9111, 0x25cc),
    (9113, 0x25d0), (9131, 0x25e6), (9162, 0x2607), (9164, 0x260a), (9218, 0x2641),
    (9219, 0x2643), (11329, 0x2e82), (11331, 0x2e85), (11334, 0x2e89), (11336, 0x2e8d),
    (11346, 0x2e98), (11361, 0x2ea8), (11363, 0x2eab), (11366, 0x2eaf), (11370, 0x2eb4),
    (11372, 0x2eb8), (11375, 0x2ebc), (11389, 0x2ecb), (11682, 0x2ffc), (11686, 0x3004),
    (11687, 0x3018), (11692, 0x301f), (11694, 0x302a), (11714, 0x303f), (11716, 0x3094),
    (11723, 0x309f), (11725, 0x30f7), (11730, 0x30ff), (11736, 0x312a), (11982, 0x322a),
    (11989, 0x3232), (12102, 0x32a4), (12336, 0x3390), (12348, 0x339f), (12350, 0x33a2),
    (12384, 0x33c5), (12393, 0x33cf), (12395, 0x33d3), (12397, 0x33d6), (12510, 0x3448),
    (12553, 0x3474), (12851, 0x359f), (12962, 0x360f), (12973, 0x361b), (13738, 0x3919),
    (13823, 0x396f), (13919, 0x39d1), (13933, 0x39e0), (14080, 0x3a74), (14298, 0x3b4f),
    (14585, 0x3c6f), (14698, 0x3ce1), (15583, 0x4057), (15847, 0x4160), (16318, 0x4338),
    (16434, 0x43ad), (16438, 0x43b2), (16481, 0x43de), (16729, 0x44d7), (17102, 0x464d),
    (17122, 0x4662), (17315, 0x4724), (17320, 0x472a), (17402, 0x477d), (17418, 0x478e),
    (17859, 0x4948), (17909, 0x497b), (17911, 0x497e), (17915, 0x4984), (17916, 0x4987),
    (17936, 0x499c), (17939, 0x49a0), (17961, 0x49b8), (18664, 0x4c78), (18703, 0x4ca4),
    (18814, 0x4d1a), (18962, 0x4daf), (19043, 0x9fa6), (33469, 0xe76c), (33470, 0xe7c8),
    (33471, 0xe7e7), (33484, 0xe815), (33485, 0xe819), (33490, 0xe81f), (33497, 0xe827),
    (33501, 0xe82d), (33505, 0xe833), (33513, 0xe83c), (33520, 0xe844), (33536, 0xe856),
    (33550, 0xe865), (37845, 0xf92d), (37921, 0xf97a), (37948, 0xf996), (38029, 0xf9e8),
    (38038, 0xf9f2), (38064, 0xfa10), (38065, 0xfa12), (38066, 0xfa15), (38069, 0xfa19),
    (38075, 0xfa22), (38076, 0xfa25), (38078, 0xfa2a), (39108, 0xfe32), (39109, 0xfe45),
    (39113, 0xfe53), (39114, 0xfe58), (39115, 0xfe67), (39116, 0xfe6c), (39265, 0xff5f),
    (39394, 0xffe6)]

end AlertRelay.Charset.Gb
