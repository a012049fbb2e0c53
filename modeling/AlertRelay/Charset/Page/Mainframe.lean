import AlertRelay.Charset.Table

/-!
# Pages of mainframes

The sets of one byte of large machines, in which no character has its usual place.
-/

namespace AlertRelay.Charset.Page

/-- English of the United States. -/
def page037 : Table :=
  [(0x4, "\x9c\x09\x86\x7f\x97\x8d\x8e"), (0x14, "\x9d\x85\x08\x87\x18\x19\x92\x8f"),
    (0x20, "\x80\x81\x82\x83\x84\x0a\x17\x1b\x88\x89\x8a\x8b\x8c\x05\x06\x07\x90\x91\x16\x93\x94"),
    (0x35, "\x95\x96\x04\x98\x99\x9a\x9b\x14\x15\x9e\x1a \xa0âäàáãåçñ¢.<(+|&éêëèíîïìß!$*);¬-/ÂÄÀ"),
    (0x65, "ÁÃÅÇÑ¦,%_>?øÉÊËÈÍÎÏÌ\x60:#@\x27=\"Øabcdefghi«»ðýþ±°jklmnopqrªºæ¸Æ¤µ~stu"),
    (0xa5, "vwxyz¡¿ÐÝÞ®^£¥·©§¶¼½¾[]¯¨´×\x7bABCDEFGHI\xadôöòóõ\x7dJKLMNOPQR¹ûüùúÿ\\÷STU"),
    (0xe5, "VWXYZ²ÔÖÒÓÕ0123456789³ÛÜÙÚ\x9f")]

/-- German. -/
def page273 : Table :=
  [(0x43, "\x7b"), (0x4a, "Ä"), (0x4f, "!"), (0x59, "~Ü"), (0x5f, "^-/Â["), (0x6a, "ö"),
    (0x7c, "§"), (0xa1, "ß"), (0xb0, "¢"), (0xb5, "@"), (0xba, "¬|‾¨´×ä"), (0xcc, "¦òóõü"),
    (0xdc, "\x7dùúÿÖ"), (0xec, "\\"), (0xfc, "]")] ++ page037

/-- Hebrew. -/
def page424 : Table :=
  [(0x41, "\u05d0\u05d1\u05d2\u05d3\u05d4\u05d5\u05d6\u05d7\u05d8"),
    (0x51, "\u05d9\u05da\u05db\u05dc\u05dd\u05de\u05df\u05e0\u05e1"),
    (0x62, "\u05e2\u05e3\u05e4\u05e5\u05e6\u05e7\u05e8\u05e9"),
    (0x70, "\ufffd\u05ea\ufffd\ufffd\xa0\ufffd\ufffd\ufffd‗"), (0x80, "\ufffd"),
    (0x8c, "\ufffd\ufffd\ufffd"), (0x9a, "\ufffd\ufffd\ufffd¸\ufffd"),
    (0xaa, "\ufffd\ufffd\ufffd\ufffd\ufffd"), (0xcb, "\ufffd\ufffd\ufffd\ufffd\ufffd"),
    (0xdb, "\ufffd\ufffd\ufffd\ufffd\ufffd"), (0xeb, "\ufffd\ufffd\ufffd\ufffd\ufffd"),
    (0xfb, "\ufffd\ufffd\ufffd\ufffd")] ++ page037

/-- International English. -/
def page500 : Table :=
  [(0x4a, "["), (0x4f, "!"), (0x5a, "]"), (0x5f, "^"), (0xb0, "¢"), (0xba, "¬|")] ++ page037

/-- Greek. -/
def page875 : Table :=
  [(0x41, "ΑΒΓΔΕΖΗΘΙ["), (0x4f, "!&ΚΛΜΝΞΟΠΡΣ]"), (0x5f, "^-/ΤΥΦΧΨΩΪΫ|"), (0x70, "¨ΆΈΉ\xa0ΊΌΎΏ"),
    (0x80, "΅"), (0x8a, "αβγδεζ"), (0x9a, "ηθικλμ´"), (0xaa, "νξοπρσ£άέήϊίόύϋώςτυφχψ"),
    (0xcb, "ωΐΰ‘―"), (0xda, "±½\x1a·’¦\\\x1a"), (0xeb, "§\x1a\x1a«¬"), (0xfb, "©\x1a\x1a»")] ++
    page037

/-- Turkish. -/
def page1026 : Table :=
  [(0x48, "\x7bñÇ"), (0x4f, "!"), (0x5a, "Ğİ*);^"), (0x68, "[Ñş"), (0x79, "ı:ÖŞ\x27=Ü"),
    (0x8c, "\x7d\x60¦"), (0xa1, "ö"), (0xac, "]$@®¢"), (0xba, "¬|"), (0xc0, "ç"), (0xcc, "~òóõğ"),
    (0xdc, "\\ùúÿü"), (0xec, "#"), (0xfc, "\"")] ++ page037

/-- English of the United States with the euro sign. -/
def page1140 : Table :=
  [(0x9f, "€")] ++ page037

def mainframePages : List Charset :=
  [page "cp037" ["037", "csibm037", "ebcdic_cp_ca", "ebcdic_cp_nl", "ebcdic_cp_us",
      "ebcdic_cp_wt", "ibm037", "ibm039"] page037,
    page "cp273" ["273", "csibm273", "ibm273"] page273,
    page "cp424" ["424", "csibm424", "ebcdic_cp_he", "ibm424"] page424,
    page "cp500" ["500", "csibm500", "ebcdic_cp_be", "ebcdic_cp_ch", "ibm500"] page500,
    page "cp875" [] page875,
    page "cp1026" ["1026", "csibm1026", "ibm1026"] page1026,
    page "cp1140" ["1140", "ibm1140"] page1140]

end AlertRelay.Charset.Page
