import AlertRelay.Charset.Table

/-!
# Pages of consoles

The sets of one byte of text consoles, with characters for frames and boxes.
-/

namespace AlertRelay.Charset.Page

/-- The first console: Western European letters, frames and some Greek. -/
def page437 : Table :=
  [(0x80, "ÇüéâäàåçêëèïîìÄÅÉæÆôöòûùÿÖÜ¢£¥₧ƒáíóúñÑªº¿⌐¬½¼¡«»░▒▓│┤╡╢╖╕╣║╗╝╜╛┐"),
    (0xc0, "└┴┬├─┼╞╟╚╔╩╦╠═╬╧╨╤╥╙╘╒╓╫╪┘┌█▄▌▐▀αßΓπΣσµτΦΘΩδ∞φε∩≡±≥≤⌠⌡÷≈°∙·√ⁿ²■\xa0")]

/-- Arabic letters. -/
def page720 : Table :=
  [(0x80, "\x80\x81éâ\x84à\x86"),
    (0x8d, "\x8d\x8e\x8f\x90\u0651\u0652ô¤\u0640ûù\u0621\u0622\u0623\u0624£\u0625\u0626\u0627"),
    (0xa0, "\u0628\u0629\u062a\u062b\u062c\u062d\u062e\u062f\u0630\u0631\u0632\u0633\u0634\u0635"),
    (0xe0, "\u0636\u0637\u0638\u0639\u063a\u0641µ\u0642\u0643\u0644\u0645\u0646\u0647\u0648"),
    (0xee, "\u0649\u064a≡\u064b\u064c\u064d\u064e\u064f\u0650")] ++ page437

/-- Greek letters. -/
def page737 : Table :=
  [(0x80, "ΑΒΓΔΕΖΗΘΙΚΛΜΝΞΟΠΡΣΤΥΦΧΨΩαβγδεζηθικλμνξοπρσςτυφχψ"), (0xe0, "ωάέήϊίόύϋώΆΈΉΊΌΎΏ±≥≤ΪΫ")] ++
    page437

/-- Baltic languages. -/
def page775 : Table :=
  [(0x80, "ĆüéāäģåćłēŖŗīŹÄÅÉæÆōöĢ¢ŚśÖÜø£Ø×¤ĀĪóŻżź”¦©®¬½¼Ł«»░▒▓│┤ĄČĘĖ╣║╗╝ĮŠ┐"),
    (0xc0, "└┴┬├─┼ŲŪ╚╔╩╦╠═╬Žąčęėįšųūž┘┌█▄▌▐▀ÓßŌŃõÕµńĶķĻļņĒŅ’\xad±“¾¶§÷„°∙·¹³²■\xa0")]

/-- Western European languages. -/
def page850 : Table :=
  [(0x9b, "ø£Ø×"), (0xa9, "®"), (0xb5, "ÁÂÀ©"), (0xbd, "¢¥"), (0xc6, "ãÃ"), (0xcf, "¤ðÐÊËÈıÍÎÏ"),
    (0xdd, "¦Ì▀ÓßÔÒõÕµþÞÚÛÙýÝ¯´\xad±‗¾¶§÷¸°¨·¹³")] ++ page437

/-- Central European languages. -/
def page852 : Table :=
  [(0x80, "ÇüéâäůćçłëŐőîŹÄĆÉĹĺôöĽľŚśÖÜŤťŁ×čáíóúĄąŽžĘę¬źČş«»░▒▓│┤ÁÂĚŞ╣║╗╝Żż┐"),
    (0xc0, "└┴┬├─┼Ăă╚╔╩╦╠═╬¤đĐĎËďŇÍÎě┘┌█▄ŢŮ▀ÓßÔŃńňŠšŔÚŕŰýÝţ´\xad˝˛ˇ˘§÷¸°¨˙űŘř■\xa0")]

/-- Cyrillic letters. -/
def page855 : Table :=
  [(0x80, "ђЂѓЃёЁєЄѕЅіІїЇјЈљЉњЊћЋќЌўЎџЏюЮъЪаАбБцЦдДеЕфФгГ«»░▒▓│┤хХиИ╣║╗╝йЙ┐"),
    (0xc0, "└┴┬├─┼кК╚╔╩╦╠═╬¤лЛмМнНоОп┘┌█▄Пя▀ЯрРсСтТуУжЖвВьЬ№\xadыЫзЗшШэЭщЩчЧ§■\xa0")]

/-- Hebrew letters. -/
def page856 : Table :=
  [(0x80, "\u05d0\u05d1\u05d2\u05d3\u05d4\u05d5\u05d6\u05d7\u05d8\u05d9\u05da\u05db\u05dc\u05dd"),
    (0x8e, "\u05de\u05df\u05e0\u05e1\u05e2\u05e3\u05e4\u05e5\u05e6\u05e7\u05e8\u05e9\u05ea\ufffd"),
    (0x9c, "£\ufffd×"),
    (0xa9, "®¬½¼\ufffd«»░▒▓│┤\ufffd\ufffd\ufffd©╣║╗╝¢¥┐└┴┬├─┼\ufffd\ufffd╚╔╩╦╠═╬¤"),
    (0xd9, "┘┌█▄¦\ufffd▀"), (0xe6, "µ"), (0xee, "¯´\xad±‗¾¶§÷¸°¨·¹³²■\xa0")]

/-- Turkish letters. -/
def page857 : Table :=
  [(0x8d, "ı"), (0x98, "İ"), (0x9e, "Şş"), (0xa6, "Ğğ"), (0xd0, "ºªÊËÈ\ufffd"),
    (0xe7, "\ufffd×ÚÛÙìÿ"), (0xf2, "\ufffd")] ++ page850

/-- Western European languages with the euro sign. -/
def page858 : Table :=
  [(0xd5, "€")] ++ page850

/-- Portuguese letters. -/
def page860 : Table :=
  [(0x84, "ãàÁçêÊèÍÔìÃÂÉÀÈôõòÚùÌÕÜ¢£Ù₧Ó"), (0xa9, "Ò")] ++ page437

/-- Icelandic letters. -/
def page861 : Table :=
  [(0x8b, "ÐðÞ"), (0x95, "þûÝýÖÜø£Ø"), (0xa4, "ÁÍÓÚ")] ++ page437

/-- Hebrew letters. -/
def page862 : Table :=
  [(0x80, "\u05d0\u05d1\u05d2\u05d3\u05d4\u05d5\u05d6\u05d7\u05d8\u05d9\u05da\u05db\u05dc\u05dd"),
    (0x8e, "\u05de\u05df\u05e0\u05e1\u05e2\u05e3\u05e4\u05e5\u05e6\u05e7\u05e8\u05e9\u05ea")] ++
    page437

/-- Canadian French letters. -/
def page863 : Table :=
  [(0x84, "Âà¶"), (0x8d, "‗À§ÉÈÊôËÏûù¤ÔÜ¢£ÙÛƒ¦´óú¨¸³¯Î"), (0xad, "¾")] ++ page437

/-- Arabic letters in their joined forms. -/
def page864 : Table :=
  [(0x25, "٪"),
    (0x80, "°·∙√▒─│┼┤┬├┴┐┌└┘β∞φ±½¼≈«»\ufef7\ufef8\ufffd\ufffd\ufefb\ufefc\ufffd\xa0\xad\ufe82£¤"),
    (0xa5, "\ufe84\ufffd\ufffd\ufe8e\ufe8f\ufe95\ufe99،\ufe9d\ufea1\ufea5\u0660\u0661\u0662"),
    (0xb3, "\u0663\u0664\u0665\u0666\u0667\u0668\u0669\ufed1\u061b\ufeb1\ufeb5\ufeb9\u061f¢"),
    (0xc1, "\ufe80\ufe81\ufe83\ufe85\ufeca\ufe8b\ufe8d\ufe91\ufe93\ufe97\ufe9b\ufe9f\ufea3\ufea7"),
    (0xcf, "\ufea9\ufeab\ufead\ufeaf\ufeb3\ufeb7\ufebb\ufebf\ufec1\ufec5\ufecb\ufecf¦¬÷×\ufec9"),
    (0xe0, "\u0640\ufed3\ufed7\ufedb\ufedf\ufee3\ufee7\ufeeb\ufeed\ufeef\ufef3\ufebd\ufecc\ufece"),
    (0xee, "\ufecd\ufee1\ufe7d\u0651\ufee5\ufee9\ufeec\ufef0\ufef2\ufed0\ufed5\ufef5\ufef6\ufedd"),
    (0xfc, "\ufed9\ufef1■")]

/-- Nordic letters. -/
def page865 : Table :=
  [(0x9b, "ø£Ø"), (0xaf, "¤")] ++ page437

/-- Russian letters. -/
def page866 : Table :=
  [(0x80, "АБВГДЕЖЗИЙКЛМНОПРСТУФХЦЧШЩЪЫЬЭЮЯабвгдежзийклмноп"), (0xe0, "рстуфхцчшщъыьэюяЁёЄєЇїЎў"),
    (0xfc, "№¤")] ++ page437

/-- Greek letters. -/
def page869 : Table :=
  [(0x86, "Ά\ufffd·¬¦‘’Έ―ΉΊΪΌ\ufffd\ufffdΎΫ©Ώ²³ά£έήίϊΐόύΑΒΓΔΕΖΗ½ΘΙ«»░▒▓│┤ΚΛΜΝ╣║╗╝ΞΟ┐└┴┬├─┼"),
    (0xc6, "ΠΡ╚╔╩╦╠═╬ΣΤΥΦΧΨΩαβγ┘┌█▄δε▀ζηθικλμνξοπρσςτ΄\xad±υφχ§ψ΅°¨ωϋΰώ■\xa0")]

/-- Urdu letters in their joined forms. -/
def page1006 : Table :=
  [(0xa1, "۰۱۲۳۴۵۶۷۸۹،\u061b\xad\u061f\ufe81\ufe8d\ufe8e\ufe8e\ufe8f\ufe91\ufb56\ufb58\ufe93"),
    (0xb8, "\ufe95\ufe97\ufb66\ufb68\ufe99\ufe9b\ufe9d\ufe9f\ufb7a\ufb7c\ufea1\ufea3\ufea5\ufea7"),
    (0xc6, "\ufea9\ufb84\ufeab\ufead\ufb8c\ufeaf\ufb8a\ufeb1\ufeb3\ufeb5\ufeb7\ufeb9\ufebb\ufebd"),
    (0xd4, "\ufebf\ufec1\ufec5\ufec9\ufeca\ufecb\ufecc\ufecd\ufece\ufecf\ufed0\ufed1\ufed3\ufed5"),
    (0xe2, "\ufed7\ufed9\ufedb\ufb92\ufb94\ufedd\ufedf\ufee0\ufee1\ufee3\ufb9e\ufee5\ufee7\ufe85"),
    (0xf0, "\ufeed\ufba6\ufba8\ufba9\ufbaa\ufe80\ufe89\ufe8a\ufe8b\ufef1\ufef2\ufef3\ufbb0\ufbae"),
    (0xfe, "\ufe7c\ufe7d")] ++ latin

/-- Ukrainian letters. -/
def page1125 : Table :=
  [(0xf2, "ҐґЄєІіЇї")] ++ page866

def consolePages : List Charset :=
  [page "cp437" ["437", "cspc8codepage437", "ibm437"] page437,
    page "cp720" [] page720,
    page "cp737" [] page737,
    page "cp775" ["775", "cspc775baltic", "ibm775"] page775,
    page "cp850" ["850", "cspc850multilingual", "ibm850"] page850,
    page "cp852" ["852", "cspcp852", "ibm852"] page852,
    page "cp855" ["855", "csibm855", "ibm855"] page855,
    page "cp856" [] page856,
    page "cp857" ["857", "csibm857", "ibm857"] page857,
    page "cp858" ["858", "csibm858", "ibm858"] page858,
    page "cp860" ["860", "csibm860", "ibm860"] page860,
    page "cp861" ["861", "cp_is", "csibm861", "ibm861"] page861,
    page "cp862" ["862", "cspc862latinhebrew", "ibm862"] page862,
    page "cp863" ["863", "csibm863", "ibm863"] page863,
    page "cp864" ["864", "csibm864", "ibm864"] page864,
    page "cp865" ["865", "csibm865", "ibm865"] page865,
    page "cp866" ["866", "csibm866", "ibm866"] page866,
    page "cp869" ["869", "cp_gr", "csibm869", "ibm869"] page869,
    page "cp1006" [] page1006,
    page "cp1125" ["1125", "cp866u", "ibm1125", "ruscii"] page1125]

end AlertRelay.Charset.Page
