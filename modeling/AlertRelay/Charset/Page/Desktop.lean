import AlertRelay.Charset.Table

/-!
# Pages of desktop publishing

The sets of one byte of the first desktop computers with printing in view.
-/

namespace AlertRelay.Charset.Page

/-- Western European languages. -/
def roman : Table :=
  [(0x80, "ÄÅÇÉÑÖÜáàâäãåçéèêëíìîïñóòôöõúùûü†°¢£§•¶ß®©™´¨≠ÆØ∞±≤≥¥µ∂∑∏π∫ªºΩæø"),
    (0xc0, "¿¡¬√ƒ≈∆«»…\xa0ÀÃÕŒœ–—“”‘’÷◊ÿŸ⁄€‹›ﬁﬂ‡·‚„‰ÂÊÁËÈÍÎÏÌÓÔ\uf8ffÒÚÛÙıˆ˜¯˘˙˚¸˝˛ˇ")]

/-- Croatian letters. -/
def croatian : Table :=
  [(0xa9, "Š"), (0xae, "Ž"), (0xb4, "∆"), (0xb9, "š"), (0xbe, "ž"), (0xc6, "Ć«Č"), (0xd0, "Đ"),
    (0xd8, "\uf8ff©"), (0xde, "Æ»–"), (0xe6, "ćÁč"), (0xf0, "đ"), (0xf9, "πË˚¸Êæ")] ++ roman

/-- Cyrillic letters. -/
def cyrillic : Table :=
  [(0x80, "АБВГДЕЖЗИЙКЛМНОПРСТУФХЦЧШЩЪЫЬЭЮЯ†°Ґ£§•¶І®©™Ђђ≠Ѓѓ∞±≤≥іµґЈЄєЇїЉљЊњ"),
    (0xc0, "јЅ¬√ƒ≈∆«»…\xa0ЋћЌќѕ–—“”‘’÷„ЎўЏџ№Ёёяабвгдежзийклмнопрстуфхцчшщъыьэю€")]

/-- Greek letters. -/
def greek : Table :=
  [(0x80, "Ä¹²É³ÖÜ΅àâä΄¨çéèêë£™îï•½‰ôö¦€ùûü†ΓΔΘΛΞΠß®©ΣΪ§≠°·Α±≤≥¥ΒΕΖΗΙΚΜΦΫΨΩ"),
    (0xc0, "άΝ¬ΟΡ≈Τ«»…\xa0ΥΧΆΈœ–―“”‘’÷ΉΊΌΎέήίόΏύαβψδεφγηιξκλμνοπώρστθωςχυζϊϋΐΰ\xad")]

/-- Icelandic letters. -/
def iceland : Table :=
  [(0xa0, "Ý"), (0xdc, "ÐðÞþý")] ++ roman

/-- Central European languages. -/
def central : Table :=
  [(0x80, "ÄĀāÉĄÖÜáąČäčĆćéŹźĎíďĒēĖóėôöõúĚěü†°Ę£§•¶ß®©™ę¨≠ģĮįĪ≤≥īĶ∂∑łĻļĽľĹĺŅ"),
    (0xc0, "ņŃ¬√ńŇ∆«»…\xa0ňŐÕőŌ–—“”‘’÷◊ōŔŕŘ‹›řŖŗŠ‚„šŚśÁŤťÍŽžŪÓÔūŮÚůŰűŲųÝýķŻŁżĢˇ")]

/-- Romanian letters. -/
def romanian : Table :=
  [(0xae, "ĂȘ"), (0xbe, "ăș"), (0xde, "Țț")] ++ roman

/-- Turkish letters. -/
def turkish : Table :=
  [(0xda, "ĞğİıŞş"), (0xf5, "\uf8a0")] ++ roman

/-- Arabic letters, with signs for both directions. -/
def arabic : Table :=
  [(0x80, "Ä\xa0ÇÉÑÖÜáàâä\u06ba«çéèêëí…îïñó»ôö÷úùûü !\"#$٪&\x27()*+،-./\u0660\u0661\u0662\u0663"),
    (0xb4, "\u0664\u0665\u0666\u0667\u0668\u0669:\u061b<=>\u061f❊\u0621\u0622\u0623\u0624\u0625"),
    (0xc6, "\u0626\u0627\u0628\u0629\u062a\u062b\u062c\u062d\u062e\u062f\u0630\u0631\u0632\u0633"),
    (0xd4, "\u0634\u0635\u0636\u0637\u0638\u0639\u063a[\\]^_\u0640\u0641\u0642\u0643\u0644\u0645"),
    (0xe6, "\u0646\u0647\u0648\u0649\u064a\u064b\u064c\u064d\u064e\u064f\u0650\u0651\u0652\u067e"),
    (0xf4, "\u0679\u0686\u06d5\u06a4\u06af\u0688\u0691\x7b|\x7d\u0698\u06d2")]

/-- Persian letters, with signs for both directions. -/
def farsi : Table :=
  [(0xb0, "۰۱۲۳۴۵۶۷۸۹")] ++ arabic

/-- Western European letters of printers. -/
def printer : Table :=
  [(0xa0, "\xa0ÀÂÈÊËÎÏ´ˋˆ¨˜ÙÛ₤¯Ýý°ÇçÑñ¡¿¤£¥§ƒ¢âêôûáéóúàèòùäëöüÅîØÆåíøæÄìÖÜÉïßÔ"),
    (0xe0, "ÁÃãÐðÍÌÓÒÕõŠšÚŸÿÞþ·µ¶¾—¼½ªº«■»±")] ++ controls

def desktopPages : List Charset :=
  [page "mac_roman" ["macintosh", "macroman"] roman,
    page "mac_croatian" [] croatian,
    page "mac_cyrillic" ["maccyrillic"] cyrillic,
    page "mac_greek" ["macgreek"] greek,
    page "mac_iceland" ["maciceland"] iceland,
    page "mac_latin2" ["mac_centeuro", "maccentraleurope", "maclatin2"] central,
    page "mac_romanian" [] romanian,
    page "mac_turkish" ["macturkish"] turkish,
    page "mac_arabic" [] arabic,
    page "mac_farsi" [] farsi,
    page "hp_roman8" ["cp1051", "ibm1051", "r8", "roman8"] printer]

end AlertRelay.Charset.Page
