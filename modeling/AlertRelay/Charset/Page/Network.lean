import AlertRelay.Charset.Table

/-!
# Pages of the early networks

The Cyrillic sets of one byte whose letters fall on Latin ones when the high bit is
lost.
-/

namespace AlertRelay.Charset.Page

/-- Russian letters. -/
def russian : Table :=
  [(0x80, "─│┌┐└┘├┤┬┴┼▀▄█▌▐░▒▓⌠■∙√≈≤≥\xa0⌡°²·÷═║╒ё╓╔╕╖╗╘╙╚╛╜╝╞╟╠╡Ё╢╣╤╥╦╧╨╩╪╫╬©"),
    (0xc0, "юабцдефгхийклмнопярстужвьызшэщчъЮАБЦДЕФГХИЙКЛМНОПЯРСТУЖВЬЫЗШЭЩЧЪ")]

/-- Ukrainian letters. -/
def ukrainian : Table :=
  [(0xa4, "є╔ії"), (0xad, "ґ"), (0xb4, "Є╣ІЇ"), (0xbd, "Ґ")] ++ russian

/-- Tajik letters. -/
def tajik : Table :=
  [(0x80, "қғ‚Ғ„…†‡\ufffd‰ҳ‹ҲҷҶ\ufffdҚ‘’“”•–—\ufffd™\ufffd›\ufffd\ufffd\ufffd\ufffd\ufffdӯӮё¤ӣ¦"),
    (0xa7, "§\ufffd\ufffd\ufffd«¬\xad®\ufffd°±²Ё\ufffdӢ¶·\ufffd№\ufffd»\ufffd\ufffd\ufffd")] ++
    russian

def networkPages : List Charset :=
  [page "koi8_r" ["cskoi8r"] russian,
    page "koi8_u" [] ukrainian,
    page "koi8_t" [] tajik]

end AlertRelay.Charset.Page
