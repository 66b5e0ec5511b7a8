/-!
# Sets with one byte a character

In many older character sets each byte is one character.  They agree on ASCII and differ above it.
-/

namespace DepositDirectory.Text

/--
A set with its labels: a byte below `first` has the code point of its value, and the others are the
characters of `upper` one after another.  A space there means that the byte is its code point too.
-/
structure Codepage where
  labels : List String
  first : Nat
  upper : List String
  deriving DecidableEq

def Codepage.char (page : Codepage) (byte : UInt8) : Char :=
  if byte.toNat < page.first then Char.ofNat byte.toNat
  else
    match (page.upper.flatMap String.toList)[byte.toNat - page.first]? with
    | some c => if c = ' ' then Char.ofNat byte.toNat else c
    | none => Char.ofNat byte.toNat

def codepages : List Codepage :=
  [⟨["ansi_x3.4-1968", "ascii", "cp1252", "cp819", "csisolatin1", "ibm819", "iso-8859-1",
     "iso-ir-100", "iso8859-1", "iso88591", "iso_8859-1", "iso_8859-1:1987", "l1", "latin1",
     "us-ascii", "windows-1252", "x-cp1252"],
    0x80,
    ["€ ‚ƒ„…†‡ˆ‰Š‹Œ Ž  ‘’“”•–—˜™š›œ žŸ"]⟩,
   ⟨["866", "cp866", "csibm866", "ibm866"],
    0x80,
    ["АБВГДЕЖЗИЙКЛМНОПРСТУФХЦЧШЩЪЫЬЭЮЯабвгдежзийклмноп░▒▓│┤╡╢╖╕╣║╗╝╜╛┐└┴┬├─┼╞╟╚╔╩╦╠═╬╧╨╤╥╙",
     "╘╒╓╫╪┘┌█▄▌▐▀рстуфхцчшщъыьэюяЁёЄєЇїЎў°∙·√№¤■\u00A0"]⟩,
   ⟨["csisolatin2", "iso-8859-2", "iso-ir-101", "iso8859-2", "iso88592", "iso_8859-2",
     "iso_8859-2:1987", "l2", "latin2"],
    0xA0,
    [" Ą˘Ł ĽŚ  ŠŞŤŹ ŽŻ ą˛ł ľśˇ šşťź˝žżŔ  Ă ĹĆ Č Ę Ě  ĎĐŃŇ  Ő  ŘŮ Ű  Ţ ŕ  ă ĺć č ę ě  ďđńň ",
     " ő  řů ű  ţ˙"]⟩,
   ⟨["csisolatin3", "iso-8859-3", "iso-ir-109", "iso8859-3", "iso88593", "iso_8859-3",
     "iso_8859-3:1988", "l3", "latin3"],
    0xA0,
    [" Ħ˘  \uFFFDĤ  İŞĞĴ \uFFFDŻ ħ    ĥ  ışğĵ \uFFFDż   \uFFFD ĊĈ         \uFFFD    Ġ  Ĝ  ",
     "  ŬŜ    \uFFFD ċĉ         \uFFFD    ġ  ĝ    ŭŝ˙"]⟩,
   ⟨["csisolatin4", "iso-8859-4", "iso-ir-110", "iso8859-4", "iso88594", "iso_8859-4",
     "iso_8859-4:1988", "l4", "latin4"],
    0xA0,
    [" ĄĸŖ ĨĻ  ŠĒĢŦ Ž  ą˛ŗ ĩļˇ šēģŧŊžŋĀ      ĮČ Ę Ė  ĪĐŅŌĶ     Ų   ŨŪ ā      įč ę ė  īđņōķ",
     "     ų   ũū˙"]⟩,
   ⟨["csisolatincyrillic", "cyrillic", "iso-8859-5", "iso-ir-144", "iso8859-5", "iso88595",
     "iso_8859-5", "iso_8859-5:1988"],
    0xA0,
    [" ЁЂЃЄЅІЇЈЉЊЋЌ ЎЏАБВГДЕЖЗИЙКЛМНОПРСТУФХЦЧШЩЪЫЬЭЮЯабвгдежзийклмнопрстуфхцчшщъыьэюя№ёђѓ",
     "єѕіїјљњћќ§ўџ"]⟩,
   ⟨["arabic", "asmo-708", "csiso88596e", "csiso88596i", "csisolatinarabic", "ecma-114",
     "iso-8859-6", "iso-8859-6-e", "iso-8859-6-i", "iso-ir-127", "iso8859-6", "iso88596",
     "iso_8859-6", "iso_8859-6:1987"],
    0xA0,
    [" \uFFFD\uFFFD\uFFFD \uFFFD\uFFFD\uFFFD\uFFFD\uFFFD\uFFFD\uFFFD، \uFFFD\uFFFD\uFFFD",
     "\uFFFD\uFFFD\uFFFD\uFFFD\uFFFD\uFFFD\uFFFD\uFFFD\uFFFD\uFFFD؛\uFFFD\uFFFD\uFFFD؟",
     "\uFFFDءآأؤإئابةتثجحخدذرزسشصضطظعغ\uFFFD\uFFFD\uFFFD\uFFFD\uFFFDـفقكلمنهوىي\u064B",
     "\u064C\u064D\u064E\u064F\u0650\u0651\u0652\uFFFD\uFFFD\uFFFD\uFFFD\uFFFD\uFFFD\uFFFD",
     "\uFFFD\uFFFD\uFFFD\uFFFD\uFFFD\uFFFD"]⟩,
   ⟨["csisolatingreek", "ecma-118", "elot_928", "greek", "greek8", "iso-8859-7", "iso-ir-126",
     "iso8859-7", "iso88597", "iso_8859-7", "iso_8859-7:1987", "sun_eu_greek"],
    0xA0,
    [" ‘’ €₯    ͺ   \uFFFD―    ΄΅Ά ΈΉΊ Ό ΎΏΐΑΒΓΔΕΖΗΘΙΚΛΜΝΞΟΠΡ\uFFFDΣΤΥΦΧΨΩΪΫάέήίΰαβγδεζηθι",
     "κλμνξοπρςστυφχψωϊϋόύώ\uFFFD"]⟩,
   ⟨["csiso88598e", "csiso88598i", "csisolatinhebrew", "hebrew", "iso-8859-8", "iso-8859-8-e",
     "iso-8859-8-i", "iso-ir-138", "iso8859-8", "iso88598", "iso_8859-8", "iso_8859-8:1988",
     "logical", "visual"],
    0xA0,
    [" \uFFFD        ×               ÷    \uFFFD\uFFFD\uFFFD\uFFFD\uFFFD\uFFFD\uFFFD\uFFFD",
     "\uFFFD\uFFFD\uFFFD\uFFFD\uFFFD\uFFFD\uFFFD\uFFFD\uFFFD\uFFFD\uFFFD\uFFFD\uFFFD\uFFFD",
     "\uFFFD\uFFFD\uFFFD\uFFFD\uFFFD\uFFFD\uFFFD\uFFFD\uFFFD\uFFFD‗אבגדהוזחטיךכלםמןנסעףפץצ",
     "קרשת\uFFFD\uFFFD\u200E\u200F\uFFFD"]⟩,
   ⟨["csisolatin6", "iso-8859-10", "iso-ir-157", "iso8859-10", "iso885910", "l6", "latin6"],
    0xA0,
    [" ĄĒĢĪĨĶ ĻĐŠŦŽ ŪŊ ąēģīĩķ ļđšŧž―ūŋĀ      ĮČ Ę Ė    ŅŌ    Ũ Ų      ā      įč ę ė    ņō ",
     "   ũ ų     ĸ"]⟩,
   ⟨["iso-8859-13", "iso8859-13", "iso885913"],
    0xA0,
    [" ”   „  Ø Ŗ    Æ    “   ø ŗ    æĄĮĀĆ  ĘĒČ ŹĖĢĶĪĻŠŃŅ Ō   ŲŁŚŪ ŻŽ ąįāć  ęēč źėģķīļšńņ ",
     "ō   ųłśū żž’"]⟩,
   ⟨["iso-8859-14", "iso8859-14", "iso885914"],
    0xA0,
    [" Ḃḃ ĊċḊ Ẁ ẂḋỲ  ŸḞḟĠġṀṁ ṖẁṗẃṠỳẄẅṡ                Ŵ      Ṫ      Ŷ                 ŵ   ",
     "   ṫ      ŷ"]⟩,
   ⟨["csisolatin9", "iso-8859-15", "iso8859-15", "iso885915", "iso_8859-15", "l9"],
    0xA0,
    ["    € Š š           Ž   ž   ŒœŸ"]⟩,
   ⟨["iso-8859-16"],
    0xA0,
    [" ĄąŁ€„Š š Ș Ź źŻ  ČłŽ”  žčș ŒœŸż   Ă Ć          ĐŃ   Ő ŚŰ    ĘȚ    ă ć          đń  ",
     " ő śű    ęț"]⟩,
   ⟨["cskoi8r", "koi", "koi8", "koi8-r", "koi8_r"],
    0x80,
    ["─│┌┐└┘├┤┬┴┼▀▄█▌▐░▒▓⌠■∙√≈≤≥\u00A0⌡°²·÷═║╒ё╓╔╕╖╗╘╙╚╛╜╝╞╟╠╡Ё╢╣╤╥╦╧╨╩╪╫╬©юабцдефгхийклмн",
     "опярстужвьызшэщчъЮАБЦДЕФГХИЙКЛМНОПЯРСТУЖВЬЫЗШЭЩЧЪ"]⟩,
   ⟨["koi8-ru", "koi8-u"],
    0x80,
    ["─│┌┐└┘├┤┬┴┼▀▄█▌▐░▒▓⌠■∙√≈≤≥\u00A0⌡°²·÷═║╒ёє╔ії╗╘╙╚╛ґў╞╟╠╡ЁЄ╣ІЇ╦╧╨╩╪ҐЎ©юабцдефгхийклмн",
     "опярстужвьызшэщчъЮАБЦДЕФГХИЙКЛМНОПЯРСТУЖВЬЫЗШЭЩЧЪ"]⟩,
   ⟨["csmacintosh", "mac", "macintosh", "x-mac-roman"],
    0x80,
    ["ÄÅÇÉÑÖÜáàâäãåçéèêëíìîïñóòôöõúùûü†°  §•¶ß® ™´¨≠ÆØ∞ ≤≥¥ ∂∑∏π∫ªºΩæø¿¡¬√ƒ≈∆«»…\u00A0ÀÃÕŒ",
     "œ–—“”‘’÷◊ÿŸ⁄€‹›ﬁﬂ‡·‚„‰ÂÊÁËÈÍÎÏÌÓÔ\uF8FFÒÚÛÙıˆ˜¯˘˙˚¸˝˛ˇ"]⟩,
   ⟨["dos-874", "iso-8859-11", "iso8859-11", "iso885911", "tis-620", "windows-874"],
    0x80,
    ["€    …           ‘’“”•–—         กขฃคฅฆงจฉชซฌญฎฏฐฑฒณดตถทธนบปผฝพฟภมยรฤลฦวศษสหฬอฮฯะ",
     "\u0E31าำ\u0E34\u0E35\u0E36\u0E37\u0E38\u0E39\u0E3A\uFFFD\uFFFD\uFFFD\uFFFD฿เแโใไๅๆ",
     "\u0E47\u0E48\u0E49\u0E4A\u0E4B\u0E4C\u0E4D\u0E4E๏๐๑๒๓๔๕๖๗๘๙๚๛\uFFFD\uFFFD\uFFFD",
     "\uFFFD"]⟩,
   ⟨["cp1250", "windows-1250", "x-cp1250"],
    0x80,
    ["€ ‚ „…†‡ ‰Š‹ŚŤŽŹ ‘’“”•–— ™š›śťžź ˇ˘Ł Ą    Ş    Ż  ˛ł     ąş Ľ˝ľżŔ  Ă ĹĆ Č Ę Ě  ĎĐŃŇ ",
     " Ő  ŘŮ Ű  Ţ ŕ  ă ĺć č ę ě  ďđńň  ő  řů ű  ţ˙"]⟩,
   ⟨["cp1251", "windows-1251", "x-cp1251"],
    0x80,
    ["ЂЃ‚ѓ„…†‡€‰Љ‹ЊЌЋЏђ‘’“”•–— ™љ›њќћџ ЎўЈ Ґ  Ё Є    Ї  Ііґ   ё№є јЅѕїАБВГДЕЖЗИЙКЛМНОПРСТУ",
     "ФХЦЧШЩЪЫЬЭЮЯабвгдежзийклмнопрстуфхцчшщъыьэюя"]⟩,
   ⟨["cp1253", "windows-1253", "x-cp1253"],
    0x80,
    ["€ ‚ƒ„…†‡ ‰ ‹     ‘’“”•–— ™ ›     ΅Ά       \uFFFD    ―    ΄   ΈΉΊ Ό ΎΏΐΑΒΓΔΕΖΗΘΙΚΛΜΝΞ",
     "ΟΠΡ\uFFFDΣΤΥΦΧΨΩΪΫάέήίΰαβγδεζηθικλμνξοπρςστυφχψωϊϋόύώ\uFFFD"]⟩,
   ⟨["cp1254", "csisolatin5", "iso-8859-9", "iso-ir-148", "iso8859-9", "iso88599", "iso_8859-9",
     "iso_8859-9:1989", "l5", "latin5", "windows-1254", "x-cp1254"],
    0x80,
    ["€ ‚ƒ„…†‡ˆ‰Š‹Œ    ‘’“”•–—˜™š›œ  Ÿ                                                Ğ   ",
     "         İŞ                 ğ            ış"]⟩,
   ⟨["cp1255", "windows-1255", "x-cp1255"],
    0x80,
    ["€ ‚ƒ„…†‡ˆ‰ ‹     ‘’“”•–—˜™ ›        ₪     ×               ÷     \u05B0\u05B1\u05B2",
     "\u05B3\u05B4\u05B5\u05B6\u05B7\u05B8\u05B9\u05BA\u05BB\u05BC\u05BD־\u05BF׀\u05C1",
     "\u05C2׃װױײ׳״\uFFFD\uFFFD\uFFFD\uFFFD\uFFFD\uFFFD\uFFFDאבגדהוזחטיךכלםמןנסעףפץצקרשת",
     "\uFFFD\uFFFD\u200E\u200F\uFFFD"]⟩,
   ⟨["cp1256", "windows-1256", "x-cp1256"],
    0x80,
    ["€پ‚ƒ„…†‡ˆ‰ٹ‹Œچژڈگ‘’“”•–—ک™ڑ›œ\u200C\u200Dں ،        ھ               ؛    ؟ہءآأؤإئابة",
     "تثجحخدذرزسشصض طظعغـفقك ل منهو     ىي  \u064B\u064C\u064D\u064E \u064F\u0650 \u0651 ",
     "\u0652  \u200E\u200Fے"]⟩,
   ⟨["cp1257", "windows-1257", "x-cp1257"],
    0x80,
    ["€ ‚ „…†‡ ‰ ‹ ¨ˇ¸ ‘’“”•–— ™ › ¯˛  \uFFFD   \uFFFD  Ø Ŗ    Æ        ø ŗ    æĄĮĀĆ  ĘĒČ ",
     "ŹĖĢĶĪĻŠŃŅ Ō   ŲŁŚŪ ŻŽ ąįāć  ęēč źėģķīļšńņ ō   ųłśū żž˙"]⟩,
   ⟨["cp1258", "windows-1258", "x-cp1258"],
    0x80,
    ["€ ‚ƒ„…†‡ˆ‰ ‹Œ    ‘’“”•–—˜™ ›œ  Ÿ                                   Ă        \u0300  ",
     " Đ \u0309  Ơ       Ư\u0303    ă        \u0301   đ \u0323  ơ       ư₫"]⟩,
   ⟨["x-mac-cyrillic", "x-mac-ukrainian"],
    0x80,
    ["АБВГДЕЖЗИЙКЛМНОПРСТУФХЦЧШЩЪЫЬЭЮЯ†°Ґ §•¶І® ™Ђђ≠Ѓѓ∞ ≤≥і ґЈЄєЇїЉљЊњјЅ¬√ƒ≈∆«»…\u00A0ЋћЌќ",
     "ѕ–—“”‘’÷„ЎўЏџ№Ёёяабвгдежзийклмнопрстуфхцчшщъыьэю€"]⟩]

end DepositDirectory.Text
