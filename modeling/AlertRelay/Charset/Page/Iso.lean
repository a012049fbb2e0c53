import AlertRelay.Charset.Table

/-!
# Pages of the international standards

The sets of one byte whose upper half serves a group of languages.
-/

namespace AlertRelay.Charset.Page

/-- Central European languages. -/
def iso2 : Table :=
  [(0xa1, "Ą˘Ł¤ĽŚ§¨ŠŞŤŹ\xadŽŻ°ą˛ł´ľśˇ¸šşťź˝žżŔÁÂĂÄĹĆÇČÉĘËĚÍÎĎĐŃŇÓÔŐÖ×ŘŮÚŰÜÝŢßŕ"),
    (0xe1, "áâăäĺćçčéęëěíîďđńňóôőö÷řůúűüýţ˙")] ++ latin

/-- Southern European languages and Esperanto. -/
def iso3 : Table :=
  [(0xa0, "\xa0Ħ˘£¤\ufffdĤ§¨İŞĞĴ\xad\ufffdŻ°ħ²³´µĥ·¸ışğĵ½\ufffdżÀÁÂ\ufffdÄĊĈÇÈÉÊËÌÍÎÏ\ufffdÑÒÓÔ"),
    (0xd5, "ĠÖ×ĜÙÚÛÜŬŜßàáâ\ufffdäċĉçèéêëìíîï\ufffdñòóôġö÷ĝùúûüŭŝ˙")] ++ controls

/-- Languages of the Baltic and Greenland. -/
def iso4 : Table :=
  [(0xa0, "\xa0ĄĸŖ¤ĨĻ§¨ŠĒĢŦ\xadŽ¯°ą˛ŗ´ĩļˇ¸šēģŧŊžŋĀÁÂÃÄÅÆĮČÉĘËĖÍÎĪĐŅŌĶÔÕÖ×ØŲÚÛÜŨŪß"),
    (0xe0, "āáâãäåæįčéęëėíîīđņōķôõö÷øųúûüũū˙")] ++ controls

/-- Cyrillic letters. -/
def iso5 : Table :=
  [(0xa1, "ЁЂЃЄЅІЇЈЉЊЋЌ\xadЎЏАБВГДЕЖЗИЙКЛМНОПРСТУФХЦЧШЩЪЫЬЭЮЯабвгдежзийклмнопр"),
    (0xe1, "стуфхцчшщъыьэюя№ёђѓєѕіїјљњћќ§ўџ")] ++ latin

/-- Arabic letters. -/
def iso6 : Table :=
  [(0xa0, "\xa0\ufffd\ufffd\ufffd¤"), (0xac, "،\xad"),
    (0xbb, "\u061b\ufffd\ufffd\ufffd\u061f\ufffd\u0621\u0622\u0623\u0624\u0625\u0626\u0627\u0628"),
    (0xc9, "\u0629\u062a\u062b\u062c\u062d\u062e\u062f\u0630\u0631\u0632\u0633\u0634\u0635\u0636"),
    (0xd7, "\u0637\u0638\u0639\u063a"),
    (0xe0, "\u0640\u0641\u0642\u0643\u0644\u0645\u0646\u0647\u0648\u0649\u064a\u064b\u064c\u064d"),
    (0xee, "\u064e\u064f\u0650\u0651\u0652")] ++ controls

/-- Greek letters. -/
def iso7 : Table :=
  [(0xa0, "\xa0‘’£€₯¦§¨©ͺ«¬\xad\ufffd―°±²³΄΅Ά·ΈΉΊ»Ό½ΎΏΐΑΒΓΔΕΖΗΘΙΚΛΜΝΞΟΠΡ\ufffdΣΤΥΦΧΨΩΪΫάέήί"),
    (0xe0, "ΰαβγδεζηθικλμνξοπρςστυφχψωϊϋόύώ")] ++ controls

/-- Hebrew letters. -/
def iso8 : Table :=
  [(0xa0, "\xa0\ufffd¢£¤¥¦§¨©×«¬\xad®¯°±²³´µ¶·¸¹÷»¼½¾"),
    (0xdf, "‗\u05d0\u05d1\u05d2\u05d3\u05d4\u05d5\u05d6\u05d7\u05d8\u05d9\u05da\u05db\u05dc"),
    (0xed, "\u05dd\u05de\u05df\u05e0\u05e1\u05e2\u05e3\u05e4\u05e5\u05e6\u05e7\u05e8\u05e9\u05ea"),
    (0xfb, "\ufffd\ufffd\u200e\u200f")] ++ controls

/-- Turkish in place of Icelandic. -/
def iso9 : Table :=
  [(0xd0, "Ğ"), (0xdd, "İŞ"), (0xf0, "ğ"), (0xfd, "ış")] ++ latin

/-- Nordic languages. -/
def iso10 : Table :=
  [(0xa2, "ĒĢĪĨĶ§ĻĐŠŦŽ\xadŪŊ°ąēģīĩķ·ļđšŧž―ū"), (0xcf, "ÏÐŅŌÓÔÕÖŨ"), (0xdd, "ÝÞ"),
    (0xef, "ïðņōóôõöũ"), (0xfd, "ýþĸ")] ++ iso4

/-- Thai letters. -/
def iso11 : Table :=
  [(0xa0, "\xa0กขฃคฅฆงจฉชซฌญฎฏฐฑฒณดตถทธนบปผฝพฟภมยรฤลฦวศษสหฬอฮฯะ\u0e31าำ\u0e34\u0e35\u0e36\u0e37"),
    (0xd8, "\u0e38\u0e39\u0e3a"),
    (0xdf, "฿เแโใไๅๆ\u0e47\u0e48\u0e49\u0e4a\u0e4b\u0e4c\u0e4d\u0e4e๏๐๑๒๓๔๕๖๗๘๙๚๛")] ++ controls

/-- Thai letters without the hard space. -/
def thai : Table :=
  [(0xa0, "\ufffd")] ++ iso11

/-- Baltic languages. -/
def iso13 : Table :=
  [(0xa0, "\xa0”¢£¤„¦§Ø©Ŗ«¬\xad®Æ°±²³“µ¶·ø¹ŗ»¼½¾æĄĮĀĆÄÅĘĒČÉŹĖĢĶĪĻŠŃŅÓŌÕÖ×ŲŁŚŪÜŻŽß"),
    (0xe0, "ąįāćäåęēčéźėģķīļšńņóōõö÷ųłśūüżž’")] ++ controls

/-- Celtic languages. -/
def iso14 : Table :=
  [(0xa1, "Ḃḃ£ĊċḊ§Ẁ©ẂḋỲ\xad®ŸḞḟĠġṀṁ¶ṖẁṗẃṠỳẄẅṡ"), (0xd0, "Ŵ"), (0xd7, "Ṫ"), (0xde, "Ŷ"),
    (0xf0, "ŵ"), (0xf7, "ṫ"), (0xfe, "ŷ")] ++ latin

/-- Western European languages with the euro sign. -/
def iso15 : Table :=
  [(0xa4, "€¥Š§š"), (0xb4, "Žµ¶·ž¹º»ŒœŸ")] ++ latin

/-- South-eastern European languages with the euro sign. -/
def iso16 : Table :=
  [(0xa0, "\xa0ĄąŁ€„Š§š©Ș«Ź\xadźŻ°±ČłŽ”¶·žčș»ŒœŸżÀÁÂĂÄĆÆÇÈÉÊËÌÍÎÏĐŃÒÓÔŐÖŚŰÙÚÛÜĘȚß"),
    (0xe0, "àáâăäćæçèéêëìíîïđńòóôőöśűùúûüęțÿ")] ++ controls

def isoPages : List Charset :=
  [page "iso8859_2" ["csisolatin2", "iso_8859_2", "iso_8859_2_1987", "iso_ir_101", "l2",
      "latin2"] iso2,
    page "iso8859_3" ["csisolatin3", "iso_8859_3", "iso_8859_3_1988", "iso_ir_109", "l3",
      "latin3"] iso3,
    page "iso8859_4" ["csisolatin4", "iso_8859_4", "iso_8859_4_1988", "iso_ir_110", "l4",
      "latin4"] iso4,
    page "iso8859_5" ["csisolatincyrillic", "cyrillic", "iso_8859_5", "iso_8859_5_1988",
      "iso_ir_144"] iso5,
    page "iso8859_6" ["arabic", "asmo_708", "csisolatinarabic", "ecma_114", "iso_8859_6",
      "iso_8859_6_1987", "iso_ir_127"] iso6,
    page "iso8859_7" ["csisolatingreek", "ecma_118", "elot_928", "greek", "greek8",
      "iso_8859_7", "iso_8859_7_1987", "iso_ir_126"] iso7,
    page "iso8859_8" ["csisolatinhebrew", "hebrew", "iso_8859_8", "iso_8859_8_1988",
      "iso_ir_138"] iso8,
    page "iso8859_9" ["csisolatin5", "iso_8859_9", "iso_8859_9_1989", "iso_ir_148", "l5",
      "latin5"] iso9,
    page "iso8859_10" ["csisolatin6", "iso_8859_10", "iso_8859_10_1992", "iso_ir_157", "l6",
      "latin6"] iso10,
    page "iso8859_11" ["iso_8859_11", "iso_8859_11_2001", "thai"] iso11,
    page "tis_620" ["iso_ir_166", "tis620", "tis_620_0", "tis_620_2529_0", "tis_620_2529_1"]
      thai,
    page "iso8859_13" ["iso_8859_13", "l7", "latin7"] iso13,
    page "iso8859_14" ["iso_8859_14", "iso_8859_14_1998", "iso_celtic", "iso_ir_199", "l8",
      "latin8"] iso14,
    page "iso8859_15" ["iso_8859_15", "l9", "latin9"] iso15,
    page "iso8859_16" ["iso_8859_16", "iso_8859_16_2001", "iso_ir_226", "l10", "latin10"]
      iso16]

end AlertRelay.Charset.Page
