import StyleImport.Disk.Fault

/-!
# Character sets

How the bytes of a file are read whose text is not in UTF-8. A character set is known by several
names. The bytes below 128 are ASCII in all sets.

## Main definitions

- `Charset`: character sets.
- `Charset.named?`: the character set of a name.
- `Charset.isTransform`: names of conversions that give no text.
- `Charset.decode`: the characters of bytes.
-/

namespace StyleImport

/-- A character set. -/
inductive Charset
  /-- One to four bytes for each character. -/
  | utf8
  /-- ASCII alone. -/
  | ascii
  /-- One byte for each character. Each stretch holds its first byte and the characters from there
  on, with a question mark for a byte that has none. Other bytes have the character of their own
  number. -/
  | table (stretches : List (Nat × String))
  /-- One or two bytes for each character. Only the ASCII part is known. -/
  | wide (name : String)

namespace Charset

/-- The character sets with their names, the main one first. -/
def all : List (List String × Charset) := [
  ⟨["utf_8", "cp65001", "u8", "utf", "utf8", "utf8_ucs2", "utf8_ucs4"],
    .utf8⟩,
  ⟨["ascii", "646", "ansi_x3.4_1968", "ansi_x3.4_1986", "ansi_x3_4_1968", "cp367", "csascii",
    "ibm367", "iso646_us", "iso_646.irv_1991", "iso_ir_6", "us", "us_ascii"],
    .ascii⟩,
  ⟨["latin_1", "8859", "cp819", "csisolatin1", "ibm819", "iso8859", "iso8859_1", "iso_8859_1",
    "iso_8859_1_1987", "iso_ir_100", "l1", "latin", "latin1"],
    .table []⟩,
  ⟨["iso8859_2", "csisolatin2", "iso_8859_2", "iso_8859_2_1987", "iso_ir_101", "l2", "latin2"],
    .table [
      (0xA1, "Ą˘Ł¤ĽŚ§¨ŠŞŤŹ\u00adŽŻ°ą˛ł´ľś\u02c7¸šşťź˝žżŔÁÂĂÄĹĆÇČÉĘËĚÍÎĎĐŃŇÓÔŐÖ×ŘŮÚŰÜÝŢßŕáâăä"),
      (0xE5, "ĺćçčéęëěíîďđńňóôőö÷řůúűüýţ˙")]⟩,
  ⟨["iso8859_3", "csisolatin3", "iso_8859_3", "iso_8859_3_1988", "iso_ir_109", "l3", "latin3"],
    .table [(0xA1, "Ħ˘£¤?Ĥ§¨İŞĞĴ\u00ad?Ż°ħ"), (0xB6, "ĥ·¸ışğĵ½?żÀÁÂ?ÄĊĈ"), (0xD0, "?"),
      (0xD5, "ĠÖ×Ĝ"), (0xDD, "ŬŜ"), (0xE3, "?äċĉ"), (0xF0, "?"), (0xF5, "ġö÷ĝ"), (0xFD, "ŭŝ˙")]⟩,
  ⟨["iso8859_4", "csisolatin4", "iso_8859_4", "iso_8859_4_1988", "iso_ir_110", "l4", "latin4"],
    .table [(0xA1, "ĄĸŖ¤ĨĻ§¨ŠĒĢŦ\u00adŽ¯°ą˛ŗ´ĩļ\u02c7¸šēģŧŊžŋĀ"), (0xC7, "ĮČÉĘËĖÍÎĪĐŅŌĶ"),
      (0xD9, "ŲÚÛÜŨŪßā"), (0xE7, "įčéęëėíîīđņōķ"), (0xF9, "ųúûüũū˙")]⟩,
  ⟨["iso8859_5", "csisolatincyrillic", "cyrillic", "iso_8859_5", "iso_8859_5_1988", "iso_ir_144"],
    .table [
      (0xA1, "ЁЂЃЄЅІЇЈЉЊЋЌ\u00adЎЏАБВГДЕЖЗИЙКЛМНОПРСТУФХЦЧШЩЪЫЬЭЮЯабвгдежзийклмнопрстуфхцчшщ"),
      (0xEA, "ъыьэюя№ёђѓєѕіїјљњћќ§ўџ")]⟩,
  ⟨["iso8859_6", "arabic", "asmo_708", "csisolatinarabic", "ecma_114", "iso_8859_6",
    "iso_8859_6_1987", "iso_ir_127"],
    .table [
      (0xA1, "???¤???????،\u00ad?????????????\u061b???\u061f?\u0621\u0622\u0623\u0624\u0625"),
      (0xC6, "\u0626\u0627\u0628\u0629\u062a\u062b\u062c\u062d\u062e\u062f\u0630\u0631\u0632"),
      (0xD3, "\u0633\u0634\u0635\u0636\u0637\u0638\u0639\u063a?????\u0640\u0641\u0642\u0643"),
      (0xE4, "\u0644\u0645\u0646\u0647\u0648\u0649\u064a\u064b\u064c\u064d\u064e\u064f\u0650"),
      (0xF1, "\u0651\u0652?????????????")]⟩,
  ⟨["iso8859_7", "csisolatingreek", "ecma_118", "elot_928", "greek", "greek8", "iso_8859_7",
    "iso_8859_7_1987", "iso_ir_126"],
    .table [(0xA1, "‘’£€₯"), (0xAA, "\u037a«¬\u00ad?―"),
      (0xB4, "΄΅Ά·ΈΉΊ»Ό½ΎΏΐΑΒΓΔΕΖΗΘΙΚΛΜΝΞΟΠΡ?ΣΤΥΦΧΨΩΪΫάέήίΰαβγδεζηθικλμνξοπρςστυφχψωϊϋόύώ?")]⟩,
  ⟨["iso8859_8", "csisolatinhebrew", "hebrew", "iso_8859_8", "iso_8859_8_1988", "iso_ir_138"],
    .table [(0xA1, "?"), (0xAA, "×"), (0xBA, "÷"),
      (0xBF, "????????????????????????????????‗\u05d0\u05d1\u05d2\u05d3\u05d4\u05d5\u05d6"),
      (0xE7, "\u05d7\u05d8\u05d9\u05da\u05db\u05dc\u05dd\u05de\u05df\u05e0\u05e1\u05e2\u05e3"),
      (0xF4, "\u05e4\u05e5\u05e6\u05e7\u05e8\u05e9\u05ea??\u200e\u200f?")]⟩,
  ⟨["iso8859_9", "csisolatin5", "iso_8859_9", "iso_8859_9_1989", "iso_ir_148", "l5", "latin5"],
    .table [(0xD0, "Ğ"), (0xDD, "İŞ"), (0xF0, "ğ"), (0xFD, "ış")]⟩,
  ⟨["iso8859_10", "csisolatin6", "iso_8859_10", "iso_8859_10_1992", "iso_ir_157", "l6", "latin6"],
    .table [(0xA1, "ĄĒĢĪĨĶ§ĻĐŠŦŽ\u00adŪŊ°ąēģīĩķ·ļđšŧž―ūŋĀ"), (0xC7, "ĮČÉĘËĖ"), (0xD1, "ŅŌ"),
      (0xD7, "ŨØŲ"), (0xE0, "ā"), (0xE7, "įčéęëė"), (0xF1, "ņō"), (0xF7, "ũøų"), (0xFF, "ĸ")]⟩,
  ⟨["iso8859_11", "iso_8859_11", "iso_8859_11_2001", "thai"],
    .table [(0xA1, "กขฃคฅฆงจฉชซฌญฎฏฐฑฒณดตถทธนบปผฝพฟภมยรฤลฦวศษสหฬอฮฯะ\u0e31าำ\u0e34\u0e35\u0e36"),
      (0xD7, "\u0e37\u0e38\u0e39\u0e3a????฿เแโใไๅ\u0e46\u0e47\u0e48\u0e49\u0e4a\u0e4b\u0e4c"),
      (0xED, "\u0e4d\u0e4e๏๐๑๒๓๔๕๖๗๘๙๚๛????")]⟩,
  ⟨["iso8859_13", "iso_8859_13", "l7", "latin7"],
    .table [(0xA1, "”¢£¤„¦§Ø©Ŗ"), (0xAF, "Æ"), (0xB4, "“µ¶·ø¹ŗ"),
      (0xBF, "æĄĮĀĆÄÅĘĒČÉŹĖĢĶĪĻŠŃŅÓŌÕÖ×ŲŁŚŪÜŻŽßąįāćäåęēčéźėģķīļšńņóōõö÷ųłśūüżž’")]⟩,
  ⟨["iso8859_14", "iso_8859_14", "iso_8859_14_1998", "iso_celtic", "iso_ir_199", "l8", "latin8"],
    .table [(0xA1, "Ḃḃ£ĊċḊ§Ẁ©ẂḋỲ\u00ad®ŸḞḟĠġṀṁ¶ṖẁṗẃṠỳẄẅṡ"), (0xD0, "Ŵ"), (0xD7, "Ṫ"), (0xDE, "Ŷ"),
      (0xF0, "ŵ"), (0xF7, "ṫ"), (0xFE, "ŷ")]⟩,
  ⟨["iso8859_15", "iso_8859_15", "l9", "latin9"],
    .table [(0xA4, "€¥Š§š"), (0xB4, "Žµ¶·ž¹º»ŒœŸ")]⟩,
  ⟨["iso8859_16", "iso_8859_16", "iso_8859_16_2001", "iso_ir_226", "l10", "latin10"],
    .table [(0xA1, "ĄąŁ€„Š§š©Ș«Ź\u00adźŻ°±ČłŽ”¶·žčș»ŒœŸżÀÁÂĂÄĆ"), (0xD0, "ĐŃÒÓÔŐÖŚŰ"),
      (0xDD, "ĘȚ"), (0xE3, "ăäć"), (0xF0, "đńòóôőöśű"), (0xFD, "ęț")]⟩,
  ⟨["cp1250", "1250", "windows_1250"],
    .table [(0x80, "€?‚?„…†‡?‰Š‹ŚŤŽŹ?‘’“”•–—?™š›śťžź\u00a0\u02c7˘Ł¤Ą"), (0xAA, "Ş"),
      (0xAF, "Ż°±˛ł"),
      (0xB9, "ąş»Ľ˝ľżŔÁÂĂÄĹĆÇČÉĘËĚÍÎĎĐŃŇÓÔŐÖ×ŘŮÚŰÜÝŢßŕáâăäĺćçčéęëěíîďđńňóôőö÷řůúűüýţ˙")]⟩,
  ⟨["cp1251", "1251", "windows_1251"],
    .table [(0x80, "ЂЃ‚ѓ„…†‡€‰Љ‹ЊЌЋЏђ‘’“”•–—?™љ›њќћџ\u00a0ЎўЈ¤Ґ¦§Ё©Є"),
      (0xAF, "Ї°±Ііґµ¶·ё№є»јЅѕїАБВГДЕЖЗИЙКЛМНОПРСТУФХЦЧШЩЪЫЬЭЮЯабвгдежзийклмнопрстуфхцчшщъыь"),
      (0xFD, "эюя")]⟩,
  ⟨["cp1252", "1252", "windows_1252"],
    .table [(0x80, "€?‚ƒ„…†‡\u02c6‰Š‹Œ?Ž??‘’“”•–—˜™š›œ?žŸ")]⟩,
  ⟨["cp1253", "1253", "windows_1253"],
    .table [(0x80, "€?‚ƒ„…†‡?‰?‹?????‘’“”•–—?™?›????\u00a0΅Ά"), (0xAA, "?"), (0xAF, "―"),
      (0xB4, "΄µ¶·ΈΉΊ»Ό½ΎΏΐΑΒΓΔΕΖΗΘΙΚΛΜΝΞΟΠΡ?ΣΤΥΦΧΨΩΪΫάέήίΰαβγδεζηθικλμνξοπρςστυφχψωϊϋόύώ?")]⟩,
  ⟨["cp1254", "1254", "windows_1254"],
    .table [(0x80, "€?‚ƒ„…†‡\u02c6‰Š‹Œ????‘’“”•–—˜™š›œ??Ÿ"), (0xD0, "Ğ"), (0xDD, "İŞ"),
      (0xF0, "ğ"), (0xFD, "ış")]⟩,
  ⟨["cp1255", "1255", "windows_1255"],
    .table [(0x80, "€?‚ƒ„…†‡\u02c6‰?‹?????‘’“”•–—˜™?›????"), (0xA4, "₪"), (0xAA, "×"), (0xBA, "÷"),
      (0xC0, "\u05b0\u05b1\u05b2\u05b3\u05b4\u05b5\u05b6\u05b7\u05b8\u05b9?\u05bb\u05bc"),
      (0xCD, "\u05bd\u05be\u05bf\u05c0\u05c1\u05c2\u05c3\u05f0\u05f1\u05f2\u05f3\u05f4??????"),
      (0xDF, "?\u05d0\u05d1\u05d2\u05d3\u05d4\u05d5\u05d6\u05d7\u05d8\u05d9\u05da\u05db"),
      (0xEC, "\u05dc\u05dd\u05de\u05df\u05e0\u05e1\u05e2\u05e3\u05e4\u05e5\u05e6\u05e7\u05e8"),
      (0xF9, "\u05e9\u05ea??\u200e\u200f?")]⟩,
  ⟨["cp1256", "1256", "windows_1256"],
    .table [(0x80, "€\u067e‚ƒ„…†‡\u02c6‰\u0679‹Œ\u0686\u0698\u0688\u06af‘’“”•–—\u06a9™\u0691›œ"),
      (0x9D, "\u200c\u200d\u06ba\u00a0،"), (0xAA, "\u06be"), (0xBA, "\u061b"),
      (0xBF, "\u061f\u06c1\u0621\u0622\u0623\u0624\u0625\u0626\u0627\u0628\u0629\u062a\u062b"),
      (0xCC, "\u062c\u062d\u062e\u062f\u0630\u0631\u0632\u0633\u0634\u0635\u0636×\u0637"),
      (0xD9, "\u0638\u0639\u063a\u0640\u0641\u0642\u0643à\u0644â\u0645\u0646\u0647\u0648"),
      (0xEC, "\u0649\u064aîï\u064b\u064c\u064d\u064eô\u064f\u0650÷\u0651ù\u0652ûü\u200e"),
      (0xFE, "\u200f\u06d2")]⟩,
  ⟨["cp1257", "1257", "windows_1257"],
    .table [(0x80, "€?‚?„…†‡?‰?‹?¨\u02c7¸?‘’“”•–—?™?›?¯˛?\u00a0?¢£¤?¦§Ø©Ŗ"), (0xAF, "Æ"),
      (0xB8, "ø¹ŗ"), (0xBF, "æĄĮĀĆÄÅĘĒČÉŹĖĢĶĪĻŠŃŅÓŌÕÖ×ŲŁŚŪÜŻŽßąįāćäåęēčéźėģķīļšńņóōõö÷ųłśūüżž˙")]⟩,
  ⟨["cp1258", "1258", "windows_1258"],
    .table [(0x80, "€?‚ƒ„…†‡\u02c6‰?‹Œ????‘’“”•–—˜™?›œ??Ÿ"), (0xC3, "Ă"),
      (0xCC, "\u0300ÍÎÏĐÑ\u0309ÓÔƠ"), (0xDD, "Ư\u0303"), (0xE3, "ă"),
      (0xEC, "\u0301íîïđñ\u0323óôơ"), (0xFD, "ư₫")]⟩,
  ⟨["koi8_r", "cskoi8r"],
    .table [
      (0x80, "─│┌┐└┘├┤┬┴┼▀▄█▌▐░▒▓⌠■∙√≈≤≥\u00a0⌡°²·÷═║╒ё╓╔╕╖╗╘╙╚╛╜╝╞╟╠╡Ё╢╣╤╥╦╧╨╩╪╫╬©юабцдефгх"),
      (0xC9, "ийклмнопярстужвьызшэщчъЮАБЦДЕФГХИЙКЛМНОПЯРСТУЖВЬЫЗШЭЩЧЪ")]⟩,
  ⟨["koi8_u"],
    .table [
      (0x80, "─│┌┐└┘├┤┬┴┼▀▄█▌▐░▒▓⌠■∙√≈≤≥\u00a0⌡°²·÷═║╒ёє╔ії╗╘╙╚╛ґ╝╞╟╠╡ЁЄ╣ІЇ╦╧╨╩╪Ґ╬©юабцдефгх"),
      (0xC9, "ийклмнопярстужвьызшэщчъЮАБЦДЕФГХИЙКЛМНОПЯРСТУЖВЬЫЗШЭЩЧЪ")]⟩,
  ⟨["cp437", "437", "cspc8codepage437", "ibm437"],
    .table [
      (0x80, "ÇüéâäàåçêëèïîìÄÅÉæÆôöòûùÿÖÜ¢£¥₧ƒáíóúñÑªº¿⌐¬½¼¡«»░▒▓│┤╡╢╖╕╣║╗╝╜╛┐└┴┬├─┼╞╟╚╔╩╦╠═"),
      (0xCE, "╬╧╨╤╥╙╘╒╓╫╪┘┌█▄▌▐▀αßΓπΣσµτΦΘΩδ∞φε∩≡±≥≤⌠⌡÷≈°∙·√\u207f²■\u00a0")]⟩,
  ⟨["cp850", "850", "cspc850multilingual", "ibm850"],
    .table [
      (0x80, "ÇüéâäàåçêëèïîìÄÅÉæÆôöòûùÿÖÜø£Ø×ƒáíóúñÑªº¿®¬½¼¡«»░▒▓│┤ÁÂÀ©╣║╗╝¢¥┐└┴┬├─┼ãÃ╚╔╩╦╠═"),
      (0xCE, "╬¤ðÐÊËÈıÍÎÏ┘┌█▄¦Ì▀ÓßÔÒõÕµþÞÚÛÙýÝ¯´\u00ad±‗¾¶§÷¸°¨·¹³²■\u00a0")]⟩,
  ⟨["cp852", "852", "cspcp852", "ibm852"],
    .table [
      (0x80, "ÇüéâäůćçłëŐőîŹÄĆÉĹĺôöĽľŚśÖÜŤťŁ×čáíóúĄąŽžĘę¬źČş«»░▒▓│┤ÁÂĚŞ╣║╗╝Żż┐└┴┬├─┼Ăă╚╔╩╦╠═"),
      (0xCE, "╬¤đĐĎËďŇÍÎě┘┌█▄ŢŮ▀ÓßÔŃńňŠšŔÚŕŰýÝţ´\u00ad˝˛\u02c7˘§÷¸°¨˙űŘř■\u00a0")]⟩,
  ⟨["cp858", "858", "csibm858", "ibm858"],
    .table [
      (0x80, "ÇüéâäàåçêëèïîìÄÅÉæÆôöòûùÿÖÜø£Ø×ƒáíóúñÑªº¿®¬½¼¡«»░▒▓│┤ÁÂÀ©╣║╗╝¢¥┐└┴┬├─┼ãÃ╚╔╩╦╠═"),
      (0xCE, "╬¤ðÐÊËÈ€ÍÎÏ┘┌█▄¦Ì▀ÓßÔÒõÕµþÞÚÛÙýÝ¯´\u00ad±‗¾¶§÷¸°¨·¹³²■\u00a0")]⟩,
  ⟨["cp866", "866", "csibm866", "ibm866"],
    .table [
      (0x80, "АБВГДЕЖЗИЙКЛМНОПРСТУФХЦЧШЩЪЫЬЭЮЯабвгдежзийклмноп░▒▓│┤╡╢╖╕╣║╗╝╜╛┐└┴┬├─┼╞╟╚╔╩╦╠═"),
      (0xCE, "╬╧╨╤╥╙╘╒╓╫╪┘┌█▄▌▐▀рстуфхцчшщъыьэюяЁёЄєЇїЎў°∙·√№¤■\u00a0")]⟩,
  ⟨["cp874"],
    .table [
      (0x80, "€????…???????????‘’“”•–—????????\u00a0กขฃคฅฆงจฉชซฌญฎฏฐฑฒณดตถทธนบปผฝพฟภมยรฤลฦวศ"),
      (0xC9, "ษสหฬอฮฯะ\u0e31าำ\u0e34\u0e35\u0e36\u0e37\u0e38\u0e39\u0e3a????฿เแโใไๅ\u0e46"),
      (0xE7, "\u0e47\u0e48\u0e49\u0e4a\u0e4b\u0e4c\u0e4d\u0e4e๏๐๑๒๓๔๕๖๗๘๙๚๛????")]⟩,
  ⟨["mac_roman", "macintosh", "macroman"],
    .table [(0x80, "ÄÅÇÉÑÖÜáàâäãåçéèêëíìîïñóòôöõúùûü†°¢£§•¶ß®©™´¨≠ÆØ∞±≤≥¥µ∂∑∏π∫ªºΩæø¿¡¬√ƒ≈∆«»…"),
      (0xCA, "\u00a0ÀÃÕŒœ–—“”‘’÷◊ÿŸ⁄€‹›ﬁﬂ‡·‚„‰ÂÊÁËÈÍÎÏÌÓÔ\uf8ffÒÚÛÙı\u02c6˜¯˘˙˚¸˝˛\u02c7")]⟩,
  ⟨["big5", "big5_tw", "csbig5", "x_mac_trad_chinese"],
    .wide "big5"⟩,
  ⟨["big5hkscs", "big5_hkscs", "hkscs"],
    .wide "big5hkscs"⟩,
  ⟨["cp932", "932", "ms932", "ms_kanji", "mskanji"],
    .wide "cp932"⟩,
  ⟨["cp949", "949", "ms949", "uhc"],
    .wide "cp949"⟩,
  ⟨["cp950", "950", "ms950"],
    .wide "cp950"⟩,
  ⟨["euc_jp", "eucjp", "u_jis", "ujis"],
    .wide "euc_jp"⟩,
  ⟨["euc_jis_2004", "euc_jis2004", "eucjis2004", "jisx0213"],
    .wide "euc_jis_2004"⟩,
  ⟨["euc_jisx0213", "eucjisx0213"],
    .wide "euc_jisx0213"⟩,
  ⟨["euc_kr", "euckr", "korean", "ks_c_5601", "ks_c_5601_1987", "ks_x_1001", "ksc5601", "ksx1001",
    "x_mac_korean"],
    .wide "euc_kr"⟩,
  ⟨["gb18030", "gb18030_2000"],
    .wide "gb18030"⟩,
  ⟨["gb2312", "chinese", "csiso58gb231280", "euc_cn", "euccn", "eucgb2312_cn", "gb2312_1980",
    "gb2312_80", "iso_ir_58", "x_mac_simp_chinese"],
    .wide "gb2312"⟩,
  ⟨["gbk", "936", "cp936", "ms936"],
    .wide "gbk"⟩,
  ⟨["johab", "cp1361", "ms1361"],
    .wide "johab"⟩,
  ⟨["shift_jis", "csshiftjis", "s_jis", "shiftjis", "sjis", "x_mac_japanese"],
    .wide "shift_jis"⟩,
  ⟨["shift_jis_2004", "s_jis_2004", "shiftjis2004", "sjis_2004"],
    .wide "shift_jis_2004"⟩,
  ⟨["shift_jisx0213", "s_jisx0213", "shiftjisx0213", "sjisx0213"],
    .wide "shift_jisx0213"⟩]

/-- The names of conversions between bytes, and between texts. -/
def transforms : List String := [
  "rot_13", "rot13", "hex_codec", "hex", "base64_codec", "base64", "base_64", "bz2_codec", "bz2",
  "zlib_codec", "zip", "zlib", "quopri_codec", "quopri", "quoted_printable", "quotedprintable",
  "uu_codec", "uu"]

/-- A name in small letters, with one underscore for each run of other characters than letters,
digits and points inside it. -/
def plainName (name : String) : String :=
  let mark (c : Char) : Char := if c.isAlphanum || c = '.' then c.toLower else '_'
  let kept := (name.toList.map mark).dropWhile (· = '_')
  String.ofList (squeeze kept)
where
  /-- Puts one underscore for each run of them, and none at the end. -/
  squeeze : List Char → List Char
    | [] => []
    | '_' :: '_' :: rest => squeeze ('_' :: rest)
    | ['_'] => []
    | c :: rest => c :: squeeze rest

/-- A name with underscores for points. -/
def pointless (name : String) : String :=
  String.ofList (name.toList.map fun c => if c = '.' then '_' else c)

/-- The character set of a name. Further names may be written with points for underscores. -/
def named? (name : String) : Option Charset :=
  let plain := plainName name
  (all.find? fun entry =>
    entry.1.contains plain || (entry.1.drop 1).contains (pointless plain)).map (·.2)

/-- Tells whether a name is that of a conversion that gives no text. -/
def isTransform (name : String) : Bool := transforms.contains (pointless (plainName name))

/-- What is wrong with bytes that a character set does not cover. -/
inductive Fault
  /-- They are no UTF-8. -/
  | utf8 (fault : Utf8.DecodeFault)
  /-- A byte at a position has no character. -/
  | unknown (codec : String) (byte : UInt8) (position : Nat) (reason : String)
deriving DecidableEq

/-- The wording of a fault. -/
def Fault.message : Fault → Text
  | utf8 fault => fault.message
  | unknown codec byte position reason =>
    "'" ++ Text.ofString codec ++ "' codec can't decode byte 0x" ++ Utf8.byteDigits byte
      ++ " in position " ++ Text.ofNat position ++ ": " ++ Text.ofString reason

/-- The character of a byte in a set of stretches. -/
def charOf? (stretches : List (Nat × String)) (b : UInt8) : Option Char :=
  let n := b.toNat
  match stretches.find? fun s => s.1 ≤ n && n < s.1 + s.2.length with
  | none => some (Char.ofNat n)
  | some (first, cs) => cs.toList[n - first]?.filter (· ≠ '?')

/-- The character of a byte, in a set with one byte for each character. -/
def byteChar? : Charset → UInt8 → Option Char
  | table stretches, b => charOf? stretches b
  | _, b => if b < 0x80 then some (Char.ofNat b.toNat) else none

/-- The fault of a byte at a position that has no character. -/
def unknownByte (set : Charset) (b : UInt8) (i : Nat) : Fault :=
  match set with
  | .wide name => .unknown name b i "illegal multibyte sequence"
  | .table _ => .unknown "charmap" b i "character maps to <undefined>"
  | _ => .unknown "ascii" b i "ordinal not in range(128)"

/-- The characters of bytes that are read one by one, the first of which has index `i`. -/
def decodeEach (set : Charset) (i : Nat) : List UInt8 → Except Fault (List Char)
  | [] => .ok []
  | b :: rest =>
    match set.byteChar? b with
    | some c => (decodeEach set (i + 1) rest).map (c :: ·)
    | none => .error (set.unknownByte b i)

/-- The characters of bytes. -/
def decode (set : Charset) (bytes : List UInt8) : Except Fault (List Char) :=
  match set with
  | .utf8 => (Utf8.decode bytes).mapError .utf8
  | set => decodeEach set 0 bytes

end Charset

end StyleImport
