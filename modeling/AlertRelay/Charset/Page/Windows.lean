import AlertRelay.Charset.Table

/-!
# Pages of windowed systems

The sets of one byte of graphical systems of the nineties and of a pocket computer.
-/

namespace AlertRelay.Charset.Page

/-- Western European languages. -/
def page1252 : Table :=
  [(0x80, "€\ufffd‚ƒ„…†‡ˆ‰Š‹Œ\ufffdŽ\ufffd\ufffd‘’“”•–—˜™š›œ\ufffdžŸ")] ++ latin

/-- Central European languages. -/
def page1250 : Table :=
  [(0x80, "€\ufffd‚\ufffd„…†‡\ufffd‰Š‹ŚŤŽŹ\ufffd‘’“”•–—\ufffd™š›śťžź\xa0ˇ˘Ł¤Ą¦§¨©Ş«¬\xad®Ż°±˛ł´"),
    (0xb5, "µ¶·¸ąş»Ľ˝ľżŔÁÂĂÄĹĆÇČÉĘËĚÍÎĎĐŃŇÓÔŐÖ×ŘŮÚŰÜÝŢßŕáâăäĺćçčéęëěíîďđńňóô"),
    (0xf5, "őö÷řůúűüýţ˙")]

/-- Cyrillic letters. -/
def page1251 : Table :=
  [(0x80, "ЂЃ‚ѓ„…†‡€‰Љ‹ЊЌЋЏђ‘’“”•–—\ufffd™љ›њќћџ\xa0ЎўЈ¤Ґ¦§Ё©Є«¬\xad®Ї°±Ііґµ¶·ё№є»јЅѕї"),
    (0xc0, "АБВГДЕЖЗИЙКЛМНОПРСТУФХЦЧШЩЪЫЬЭЮЯабвгдежзийклмнопрстуфхцчшщъыьэюя")]

/-- Greek letters. -/
def page1253 : Table :=
  [(0x80, "€\ufffd‚ƒ„…†‡\ufffd‰\ufffd‹"), (0x91, "‘’“”•–—\ufffd™\ufffd›"),
    (0xa0, "\xa0΅Ά£¤¥¦§¨©\ufffd«¬\xad®―°±²³΄µ¶·ΈΉΊ»Ό½ΎΏΐΑΒΓΔΕΖΗΘΙΚΛΜΝΞΟΠΡ\ufffdΣΤΥΦΧΨΩΪΫάέήί"),
    (0xe0, "ΰαβγδεζηθικλμνξοπρςστυφχψωϊϋόύώ")]

/-- Turkish letters. -/
def page1254 : Table :=
  [(0x8e, "\ufffd"), (0x9e, "\ufffd"), (0xd0, "Ğ"), (0xdd, "İŞ"), (0xf0, "ğ"), (0xfd, "ış")] ++
    page1252

/-- Hebrew letters and points. -/
def page1255 : Table :=
  [(0x80, "€\ufffd‚ƒ„…†‡ˆ‰\ufffd‹"), (0x91, "‘’“”•–—˜™\ufffd›"),
    (0xa0, "\xa0¡¢£₪¥¦§¨©×«¬\xad®¯°±²³´µ¶·¸¹÷»¼½¾¿\u05b0\u05b1\u05b2\u05b3\u05b4\u05b5\u05b6"),
    (0xc7, "\u05b7\u05b8\u05b9\ufffd\u05bb\u05bc\u05bd\u05be\u05bf\u05c0\u05c1\u05c2\u05c3\u05f0"),
    (0xd5, "\u05f1\u05f2\u05f3\u05f4"),
    (0xe0, "\u05d0\u05d1\u05d2\u05d3\u05d4\u05d5\u05d6\u05d7\u05d8\u05d9\u05da\u05db\u05dc\u05dd"),
    (0xee, "\u05de\u05df\u05e0\u05e1\u05e2\u05e3\u05e4\u05e5\u05e6\u05e7\u05e8\u05e9\u05ea\ufffd"),
    (0xfc, "\ufffd\u200e\u200f")]

/-- Arabic letters. -/
def page1256 : Table :=
  [(0x80, "€\u067e‚ƒ„…†‡ˆ‰\u0679‹Œ\u0686\u0698\u0688\u06af‘’“”•–—\u06a9™\u0691›œ\u200c\u200d"),
    (0x9f, "\u06ba\xa0،"), (0xaa, "\u06be"), (0xba, "\u061b"),
    (0xbf, "\u061f\u06c1\u0621\u0622\u0623\u0624\u0625\u0626\u0627\u0628\u0629\u062a\u062b\u062c"),
    (0xcd, "\u062d\u062e\u062f\u0630\u0631\u0632\u0633\u0634\u0635\u0636×\u0637\u0638\u0639"),
    (0xdb, "\u063a\u0640\u0641\u0642\u0643à\u0644â\u0645\u0646\u0647\u0648"),
    (0xec, "\u0649\u064aîï\u064b\u064c\u064d\u064eô\u064f\u0650÷\u0651ù\u0652ûü\u200e\u200f"),
    (0xff, "\u06d2")] ++ latin

/-- Baltic languages. -/
def page1257 : Table :=
  [(0x80, "€\ufffd‚\ufffd„…†‡\ufffd‰\ufffd‹\ufffd¨ˇ¸\ufffd‘’“”•–—\ufffd™\ufffd›\ufffd¯˛\ufffd"),
    (0xa0, "\xa0\ufffd¢£¤\ufffd¦§Ø©Ŗ«¬\xad®Æ°±²³´µ¶·ø¹ŗ»¼½¾æĄĮĀĆÄÅĘĒČÉŹĖĢĶĪĻŠŃŅÓŌÕÖ×ŲŁŚŪÜŻŽß"),
    (0xe0, "ąįāćäåęēčéźėģķīļšńņóōõö÷ųłśūüżž˙")]

/-- Vietnamese letters and tone marks. -/
def page1258 : Table :=
  [(0x8a, "\ufffd‹Œ\ufffd\ufffd"), (0x9a, "\ufffd›œ\ufffd\ufffd"), (0xc3, "Ă"),
    (0xcc, "\u0300ÍÎÏĐÑ\u0309ÓÔƠ"), (0xdd, "Ư\u0303"), (0xe3, "ă"),
    (0xec, "\u0301íîïđñ\u0323óôơ"), (0xfd, "ư₫")] ++ page1252

/-- Thai letters. -/
def page874 : Table :=
  [(0x80, "€"), (0x85, "…"), (0x91, "‘’“”•–—"),
    (0xa0, "\xa0กขฃคฅฆงจฉชซฌญฎฏฐฑฒณดตถทธนบปผฝพฟภมยรฤลฦวศษสหฬอฮฯะ\u0e31าำ\u0e34\u0e35\u0e36\u0e37"),
    (0xd8, "\u0e38\u0e39\u0e3a"),
    (0xdf, "฿เแโใไๅๆ\u0e47\u0e48\u0e49\u0e4a\u0e4b\u0e4c\u0e4d\u0e4e๏๐๑๒๓๔๕๖๗๘๙๚๛")]

/-- Kazakh letters. -/
def kazakh : Table :=
  [(0x8d, "ҚҺ"), (0x9d, "қһџ\xa0ҰұӘ¤Ө"), (0xaa, "Ғ"), (0xaf, "Ү"), (0xb4, "ө"), (0xba, "ғ»әҢңү")] ++
    page1251

/-- Cyrillic letters of Asian languages. -/
def asian : Table :=
  [(0x80, "ҖҒӮғ„…ҶҮҲүҠӢҢҚҺҸҗ"), (0x98, "ҳҷҡӣңқһҹ"), (0xa4, "ӨҘҰ§Ё©Ә«¬ӯ®Ҝ°ұІіҙө"),
    (0xba, "ә»јҪҫҝ")] ++ page1251

/-- Western European letters and signs of card games. -/
def palm : Table :=
  [(0x81, "\x81"), (0x8d, "♦♣♥♠"), (0x9b, "\x9bœ\x9d\x9e")] ++ page1252

def windowsPages : List Charset :=
  [page "cp1252" ["1252", "windows_1252"] page1252,
    page "cp1250" ["1250", "windows_1250"] page1250,
    page "cp1251" ["1251", "windows_1251"] page1251,
    page "cp1253" ["1253", "windows_1253"] page1253,
    page "cp1254" ["1254", "windows_1254"] page1254,
    page "cp1255" ["1255", "windows_1255"] page1255,
    page "cp1256" ["1256", "windows_1256"] page1256,
    page "cp1257" ["1257", "windows_1257"] page1257,
    page "cp1258" ["1258", "windows_1258"] page1258,
    page "cp874" [] page874,
    page "kz1048" ["kz_1048", "rk1048", "strk1048_2002"] kazakh,
    page "ptcp154" ["cp154", "csptcp154", "cyrillic_asian", "pt154"] asian,
    page "palmos" [] palm]

end AlertRelay.Charset.Page
