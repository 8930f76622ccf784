import Stowage.Text.Coding

/-!
Code pages: codings of text in which every byte stands for a character of its own, or for nothing.

A page tells only of the bytes that do not stand for the character of their own number. Pages are
known by several names each.
-/

namespace Stowage

/-- A code page: runs of characters, each with the byte that its first character stands for. The
replacement character marks bytes that stand for nothing; a byte that no run tells of stands for the
character of its number. -/
abbrev CodePage := List (Nat × String)

namespace CodePage

/-- What a byte stands for. -/
def piece (page : CodePage) (b : Nat) : Text.Piece :=
  match page.findSome? fun run => if run.1 ≤ b then run.2.toList[b - run.1]? else none with
  | some c => if c = '\ufffd' then .bad else .char c
  | none => Text.Coding.ofPoint b

/-- The pages, each after its names. -/
def all : List (String × CodePage) := [
  ("cp037 037 csibm037 ebcdic_cp_ca ebcdic_cp_nl ebcdic_cp_us ebcdic_cp_wt ibm037 ibm039", [
    (0x04, "\u009c\x09\u0086\x7f\u0097\u008d\u008e"),
    (0x14, "\u009d\u0085\x08\u0087\x18\x19\u0092\u008f\x1c\x1d\x1e\x1f"),
    (0x20, "\u0080\u0081\u0082\u0083\u0084\n\x17\x1b\u0088\u0089\u008a\u008b\u008c\x05\x06\x07"),
    (0x30, "\u0090\u0091\x16\u0093\u0094\u0095\u0096\x04\u0098\u0099\u009a\u009b\x14\x15\u009e"),
    (0x3f, "\x1a"), (0x40, " \u00a0âäàáãåçñ¢.<(+|&éêëèíîïìß!$*);¬"),
    (0x60, "-/ÂÄÀÁÃÅÇÑ¦,%_>?øÉÊËÈÍÎÏÌ\x60:#@'=\""), (0x80, "Øabcdefghi«»ðýþ±°jklmnopqrªºæ¸Æ¤"),
    (0xa0, "µ~stuvwxyz¡¿ÐÝÞ®^£¥·©§¶¼½¾[]¯¨´×"),
    (0xc0, "\x7bABCDEFGHI\u00adôöòóõ\x7dJKLMNOPQR¹ûüùúÿ"),
    (0xe0, "\\÷STUVWXYZ²ÔÖÒÓÕ0123456789³ÛÜÙÚ\u009f")]),
  ("cp1006", [
    (0xa1, "۰۱۲۳۴۵۶۷۸۹،\u061b\u00ad\u061f\ufe81\ufe8d\ufe8e\ufe8e\ufe8f\ufe91\ufb56\ufb58\ufe93"),
    (0xb8, "\ufe95\ufe97\ufb66\ufb68\ufe99\ufe9b\ufe9d\ufe9f"),
    (0xc0, "\ufb7a\ufb7c\ufea1\ufea3\ufea5\ufea7\ufea9\ufb84\ufeab\ufead\ufb8c\ufeaf\ufb8a"),
    (0xcd, "\ufeb1\ufeb3\ufeb5\ufeb7\ufeb9\ufebb\ufebd\ufebf\ufec1\ufec5\ufec9\ufeca\ufecb"),
    (0xda, "\ufecc\ufecd\ufece\ufecf\ufed0\ufed1"),
    (0xe0, "\ufed3\ufed5\ufed7\ufed9\ufedb\ufb92\ufb94\ufedd\ufedf\ufee0\ufee1\ufee3\ufb9e"),
    (0xed, "\ufee5\ufee7\ufe85\ufeed\ufba6\ufba8\ufba9\ufbaa\ufe80\ufe89\ufe8a\ufe8b\ufef1"),
    (0xfa, "\ufef2\ufef3\ufbb0\ufbae\ufe7c\ufe7d")]),
  ("cp1026 1026 csibm1026 ibm1026", [(0x04, "\u009c\x09\u0086\x7f\u0097\u008d\u008e"),
    (0x14, "\u009d\u0085\x08\u0087\x18\x19\u0092\u008f\x1c\x1d\x1e\x1f"),
    (0x20, "\u0080\u0081\u0082\u0083\u0084\n\x17\x1b\u0088\u0089\u008a\u008b\u008c\x05\x06\x07"),
    (0x30, "\u0090\u0091\x16\u0093\u0094\u0095\u0096\x04\u0098\u0099\u009a\u009b\x14\x15\u009e"),
    (0x3f, "\x1a"), (0x40, " \u00a0âäàáãå\x7bñÇ.<(+!&éêëèíîïìßĞİ*);^"),
    (0x60, "-/ÂÄÀÁÃÅ[Ñş,%_>?øÉÊËÈÍÎÏÌı:ÖŞ'=Ü"), (0x80, "Øabcdefghi«»\x7d\x60¦±°jklmnopqrªºæ¸Æ¤"),
    (0xa0, "µöstuvwxyz¡¿]$@®¢£¥·©§¶¼½¾¬|¯¨´×"), (0xc0, "çABCDEFGHI\u00adô~òóõğJKLMNOPQR¹û\\ùúÿ"),
    (0xe0, "ü÷STUVWXYZ²Ô#ÒÓÕ0123456789³Û\"ÙÚ\u009f")]),
  ("cp1125 1125 cp866u ibm1125 ruscii", [(0x80, "АБВГДЕЖЗИЙКЛМНОПРСТУФХЦЧШЩЪЫЬЭЮЯ"),
    (0xa0, "абвгдежзийклмноп░▒▓│┤╡╢╖╕╣║╗╝╜╛┐"), (0xc0, "└┴┬├─┼╞╟╚╔╩╦╠═╬╧╨╤╥╙╘╒╓╫╪┘┌█▄▌▐▀"),
    (0xe0, "рстуфхцчшщъыьэюяЁёҐґЄєІіЇї·√№¤■\u00a0")]),
  ("cp1140 1140 ibm1140", [(0x04, "\u009c\x09\u0086\x7f\u0097\u008d\u008e"),
    (0x14, "\u009d\u0085\x08\u0087\x18\x19\u0092\u008f\x1c\x1d\x1e\x1f"),
    (0x20, "\u0080\u0081\u0082\u0083\u0084\n\x17\x1b\u0088\u0089\u008a\u008b\u008c\x05\x06\x07"),
    (0x30, "\u0090\u0091\x16\u0093\u0094\u0095\u0096\x04\u0098\u0099\u009a\u009b\x14\x15\u009e"),
    (0x3f, "\x1a"), (0x40, " \u00a0âäàáãåçñ¢.<(+|&éêëèíîïìß!$*);¬"),
    (0x60, "-/ÂÄÀÁÃÅÇÑ¦,%_>?øÉÊËÈÍÎÏÌ\x60:#@'=\""), (0x80, "Øabcdefghi«»ðýþ±°jklmnopqrªºæ¸Æ€"),
    (0xa0, "µ~stuvwxyz¡¿ÐÝÞ®^£¥·©§¶¼½¾[]¯¨´×"),
    (0xc0, "\x7bABCDEFGHI\u00adôöòóõ\x7dJKLMNOPQR¹ûüùúÿ"),
    (0xe0, "\\÷STUVWXYZ²ÔÖÒÓÕ0123456789³ÛÜÙÚ\u009f")]),
  ("cp1250 1250 windows_1250", [
    (0x80, "€\ufffd‚\ufffd„…†‡\ufffd‰Š‹ŚŤŽŹ\ufffd‘’“”•–—\ufffd™š›śťžź"),
    (0xa0, "\u00a0ˇ˘Ł¤Ą¦§¨©Ş«¬\u00ad®Ż°±˛ł´µ¶·¸ąş»Ľ˝ľż"),
    (0xc0, "ŔÁÂĂÄĹĆÇČÉĘËĚÍÎĎĐŃŇÓÔŐÖ×ŘŮÚŰÜÝŢß"), (0xe0, "ŕáâăäĺćçčéęëěíîďđńňóôőö÷řůúűüýţ˙")]),
  ("cp1251 1251 windows_1251", [(0x80, "ЂЃ‚ѓ„…†‡€‰Љ‹ЊЌЋЏђ‘’“”•–—\ufffd™љ›њќћџ"),
    (0xa0, "\u00a0ЎўЈ¤Ґ¦§Ё©Є«¬\u00ad®Ї°±Ііґµ¶·ё№є»јЅѕї"),
    (0xc0, "АБВГДЕЖЗИЙКЛМНОПРСТУФХЦЧШЩЪЫЬЭЮЯ"), (0xe0, "абвгдежзийклмнопрстуфхцчшщъыьэюя")]),
  ("cp1252 1252 windows_1252", [
    (0x80, "€\ufffd‚ƒ„…†‡ˆ‰Š‹Œ\ufffdŽ\ufffd\ufffd‘’“”•–—˜™š›œ\ufffdžŸ")]),
  ("cp1253 1253 windows_1253", [
    (0x80, "€\ufffd‚ƒ„…†‡\ufffd‰\ufffd‹\ufffd\ufffd\ufffd\ufffd\ufffd‘’“”•–—\ufffd™\ufffd›"),
    (0x9c, "\ufffd\ufffd\ufffd\ufffd"), (0xa0, "\u00a0΅Ά"),
    (0xaa, "\ufffd«¬\u00ad®―°±²³΄µ¶·ΈΉΊ»Ό½ΎΏ"), (0xc0, "ΐΑΒΓΔΕΖΗΘΙΚΛΜΝΞΟΠΡ\ufffdΣΤΥΦΧΨΩΪΫάέήί"),
    (0xe0, "ΰαβγδεζηθικλμνξοπρςστυφχψωϊϋόύώ\ufffd")]),
  ("cp1254 1254 windows_1254", [
    (0x80, "€\ufffd‚ƒ„…†‡ˆ‰Š‹Œ\ufffd\ufffd\ufffd\ufffd‘’“”•–—˜™š›œ\ufffd\ufffdŸ"), (0xd0, "Ğ"),
    (0xdd, "İŞ"), (0xf0, "ğ"), (0xfd, "ış")]),
  ("cp1255 1255 windows_1255", [
    (0x80, "€\ufffd‚ƒ„…†‡ˆ‰\ufffd‹\ufffd\ufffd\ufffd\ufffd\ufffd‘’“”•–—˜™\ufffd›\ufffd\ufffd"),
    (0x9e, "\ufffd\ufffd"), (0xa0, "\u00a0¡¢£₪¥¦§¨©×"), (0xba, "÷»¼½¾¿"),
    (0xc0, "\u05b0\u05b1\u05b2\u05b3\u05b4\u05b5\u05b6\u05b7\u05b8\u05b9\ufffd\u05bb\u05bc"),
    (0xcd, "\u05bd\u05be\u05bf\u05c0\u05c1\u05c2\u05c3\u05f0\u05f1\u05f2\u05f3\u05f4\ufffd"),
    (0xda, "\ufffd\ufffd\ufffd\ufffd\ufffd\ufffd"),
    (0xe0, "\u05d0\u05d1\u05d2\u05d3\u05d4\u05d5\u05d6\u05d7\u05d8\u05d9\u05da\u05db\u05dc"),
    (0xed, "\u05dd\u05de\u05df\u05e0\u05e1\u05e2\u05e3\u05e4\u05e5\u05e6\u05e7\u05e8\u05e9"),
    (0xfa, "\u05ea\ufffd\ufffd\u200e\u200f\ufffd")]),
  ("cp1256 1256 windows_1256", [
    (0x80, "€\u067e‚ƒ„…†‡ˆ‰\u0679‹Œ\u0686\u0698\u0688\u06af‘’“”•–—\u06a9™\u0691›œ\u200c\u200d"),
    (0x9f, "\u06ba"), (0xa0, "\u00a0،"), (0xaa, "\u06be"), (0xba, "\u061b»¼½¾\u061f"),
    (0xc0, "\u06c1\u0621\u0622\u0623\u0624\u0625\u0626\u0627\u0628\u0629\u062a\u062b\u062c"),
    (0xcd, "\u062d\u062e\u062f\u0630\u0631\u0632\u0633\u0634\u0635\u0636×\u0637\u0638\u0639"),
    (0xdb, "\u063a\u0640\u0641\u0642\u0643"),
    (0xe0, "à\u0644â\u0645\u0646\u0647\u0648çèéêë\u0649\u064aîï\u064b\u064c\u064d\u064eô\u064f"),
    (0xf6, "\u0650÷\u0651ù\u0652ûü\u200e\u200f\u06d2")]),
  ("cp1257 1257 windows_1257", [
    (0x80, "€\ufffd‚\ufffd„…†‡\ufffd‰\ufffd‹\ufffd¨ˇ¸\ufffd‘’“”•–—\ufffd™\ufffd›\ufffd¯˛\ufffd"),
    (0xa0, "\u00a0\ufffd¢£¤\ufffd¦§Ø©Ŗ«¬\u00ad®Æ"), (0xb8, "ø¹ŗ»¼½¾æ"),
    (0xc0, "ĄĮĀĆÄÅĘĒČÉŹĖĢĶĪĻŠŃŅÓŌÕÖ×ŲŁŚŪÜŻŽß"), (0xe0, "ąįāćäåęēčéźėģķīļšńņóōõö÷ųłśūüżž˙")]),
  ("cp1258 1258 windows_1258", [
    (0x80, "€\ufffd‚ƒ„…†‡ˆ‰\ufffd‹Œ\ufffd\ufffd\ufffd\ufffd‘’“”•–—˜™\ufffd›œ\ufffd\ufffdŸ"),
    (0xc3, "Ă"), (0xcc, "\u0300ÍÎÏĐÑ\u0309ÓÔƠ"), (0xdd, "Ư\u0303ß"), (0xe0, "àáâă"),
    (0xec, "\u0301íîïđñ\u0323óôơ"), (0xfd, "ư₫")]),
  ("cp273 273 csibm273 ibm273", [(0x04, "\u009c\x09\u0086\x7f\u0097\u008d\u008e"),
    (0x14, "\u009d\u0085\x08\u0087\x18\x19\u0092\u008f\x1c\x1d\x1e\x1f"),
    (0x20, "\u0080\u0081\u0082\u0083\u0084\n\x17\x1b\u0088\u0089\u008a\u008b\u008c\x05\x06\x07"),
    (0x30, "\u0090\u0091\x16\u0093\u0094\u0095\u0096\x04\u0098\u0099\u009a\u009b\x14\x15\u009e"),
    (0x3f, "\x1a"), (0x40, " \u00a0â\x7bàáãåçñÄ.<(+!&éêëèíîïì~Ü$*);^"),
    (0x60, "-/Â[ÀÁÃÅÇÑö,%_>?øÉÊËÈÍÎÏÌ\x60:#§'=\""), (0x80, "Øabcdefghi«»ðýþ±°jklmnopqrªºæ¸Æ¤"),
    (0xa0, "µßstuvwxyz¡¿ÐÝÞ®¢£¥·©@¶¼½¾¬|‾¨´×"),
    (0xc0, "äABCDEFGHI\u00adô¦òóõüJKLMNOPQR¹û\x7dùúÿ"),
    (0xe0, "Ö÷STUVWXYZ²Ô\\ÒÓÕ0123456789³Û]ÙÚ\u009f")]),
  ("cp424 424 csibm424 ebcdic_cp_he ibm424", [(0x04, "\u009c\x09\u0086\x7f\u0097\u008d\u008e"),
    (0x14, "\u009d\u0085\x08\u0087\x18\x19\u0092\u008f\x1c\x1d\x1e\x1f"),
    (0x20, "\u0080\u0081\u0082\u0083\u0084\n\x17\x1b\u0088\u0089\u008a\u008b\u008c\x05\x06\x07"),
    (0x30, "\u0090\u0091\x16\u0093\u0094\u0095\u0096\x04\u0098\u0099\u009a\u009b\x14\x15\u009e"),
    (0x3f, "\x1a"),
    (0x40, " \u05d0\u05d1\u05d2\u05d3\u05d4\u05d5\u05d6\u05d7\u05d8¢.<(+|&\u05d9\u05da\u05db"),
    (0x54, "\u05dc\u05dd\u05de\u05df\u05e0\u05e1!$*);¬"),
    (0x60, "-/\u05e2\u05e3\u05e4\u05e5\u05e6\u05e7\u05e8\u05e9¦,%_>?\ufffd\u05ea\ufffd\ufffd"),
    (0x74, "\u00a0\ufffd\ufffd\ufffd‗\x60:#@'=\""),
    (0x80, "\ufffdabcdefghi«»\ufffd\ufffd\ufffd±°jklmnopqr\ufffd\ufffd\ufffd¸\ufffd¤"),
    (0xa0, "µ~stuvwxyz\ufffd\ufffd\ufffd\ufffd\ufffd®^£¥·©§¶¼½¾[]¯¨´×"),
    (0xc0, "\x7bABCDEFGHI\u00ad\ufffd\ufffd\ufffd\ufffd\ufffd\x7dJKLMNOPQR¹\ufffd\ufffd\ufffd"),
    (0xde, "\ufffd\ufffd"),
    (0xe0, "\\÷STUVWXYZ²\ufffd\ufffd\ufffd\ufffd\ufffd0123456789³\ufffd\ufffd\ufffd\ufffd\u009f")]),
  ("cp437 437 cspc8codepage437 ibm437", [(0x80, "ÇüéâäàåçêëèïîìÄÅÉæÆôöòûùÿÖÜ¢£¥₧ƒ"),
    (0xa0, "áíóúñÑªº¿⌐¬½¼¡«»░▒▓│┤╡╢╖╕╣║╗╝╜╛┐"), (0xc0, "└┴┬├─┼╞╟╚╔╩╦╠═╬╧╨╤╥╙╘╒╓╫╪┘┌█▄▌▐▀"),
    (0xe0, "αßΓπΣσµτΦΘΩδ∞φε∩≡±≥≤⌠⌡÷≈°∙·√ⁿ²■\u00a0")]),
  ("cp500 500 csibm500 ebcdic_cp_be ebcdic_cp_ch ibm500", [
    (0x04, "\u009c\x09\u0086\x7f\u0097\u008d\u008e"),
    (0x14, "\u009d\u0085\x08\u0087\x18\x19\u0092\u008f\x1c\x1d\x1e\x1f"),
    (0x20, "\u0080\u0081\u0082\u0083\u0084\n\x17\x1b\u0088\u0089\u008a\u008b\u008c\x05\x06\x07"),
    (0x30, "\u0090\u0091\x16\u0093\u0094\u0095\u0096\x04\u0098\u0099\u009a\u009b\x14\x15\u009e"),
    (0x3f, "\x1a"), (0x40, " \u00a0âäàáãåçñ[.<(+!&éêëèíîïìß]$*);^"),
    (0x60, "-/ÂÄÀÁÃÅÇÑ¦,%_>?øÉÊËÈÍÎÏÌ\x60:#@'=\""), (0x80, "Øabcdefghi«»ðýþ±°jklmnopqrªºæ¸Æ¤"),
    (0xa0, "µ~stuvwxyz¡¿ÐÝÞ®¢£¥·©§¶¼½¾¬|¯¨´×"),
    (0xc0, "\x7bABCDEFGHI\u00adôöòóõ\x7dJKLMNOPQR¹ûüùúÿ"),
    (0xe0, "\\÷STUVWXYZ²ÔÖÒÓÕ0123456789³ÛÜÙÚ\u009f")]),
  ("cp720", [
    (0x82, "éâ\u0084à\u0086çêëèïî\u008d\u008e\u008f\u0090\u0651\u0652ô¤\u0640ûù\u0621\u0622"),
    (0x9a, "\u0623\u0624£\u0625\u0626\u0627"),
    (0xa0, "\u0628\u0629\u062a\u062b\u062c\u062d\u062e\u062f\u0630\u0631\u0632\u0633\u0634"),
    (0xad, "\u0635«»░▒▓│┤╡╢╖╕╣║╗╝╜╛┐"), (0xc0, "└┴┬├─┼╞╟╚╔╩╦╠═╬╧╨╤╥╙╘╒╓╫╪┘┌█▄▌▐▀"),
    (0xe0, "\u0636\u0637\u0638\u0639\u063a\u0641µ\u0642\u0643\u0644\u0645\u0646\u0647\u0648"),
    (0xee, "\u0649\u064a≡\u064b\u064c\u064d\u064e\u064f\u0650≈°∙·√ⁿ²■\u00a0")]),
  ("cp737", [(0x80, "ΑΒΓΔΕΖΗΘΙΚΛΜΝΞΟΠΡΣΤΥΦΧΨΩαβγδεζηθ"),
    (0xa0, "ικλμνξοπρσςτυφχψ░▒▓│┤╡╢╖╕╣║╗╝╜╛┐"), (0xc0, "└┴┬├─┼╞╟╚╔╩╦╠═╬╧╨╤╥╙╘╒╓╫╪┘┌█▄▌▐▀"),
    (0xe0, "ωάέήϊίόύϋώΆΈΉΊΌΎΏ±≥≤ΪΫ÷≈°∙·√ⁿ²■\u00a0")]),
  ("cp775 775 cspc775baltic ibm775", [(0x80, "ĆüéāäģåćłēŖŗīŹÄÅÉæÆōöĢ¢ŚśÖÜø£Ø×¤"),
    (0xa0, "ĀĪóŻżź”¦©®¬½¼Ł«»░▒▓│┤ĄČĘĖ╣║╗╝ĮŠ┐"), (0xc0, "└┴┬├─┼ŲŪ╚╔╩╦╠═╬Žąčęėįšųūž┘┌█▄▌▐▀"),
    (0xe0, "ÓßŌŃõÕµńĶķĻļņĒŅ’\u00ad±“¾¶§÷„°∙·¹³²■\u00a0")]),
  ("cp850 850 cspc850multilingual ibm850", [(0x80, "ÇüéâäàåçêëèïîìÄÅÉæÆôöòûùÿÖÜø£Ø×ƒ"),
    (0xa0, "áíóúñÑªº¿®¬½¼¡«»░▒▓│┤ÁÂÀ©╣║╗╝¢¥┐"), (0xc0, "└┴┬├─┼ãÃ╚╔╩╦╠═╬¤ðÐÊËÈıÍÎÏ┘┌█▄¦Ì▀"),
    (0xe0, "ÓßÔÒõÕµþÞÚÛÙýÝ¯´\u00ad±‗¾¶§÷¸°¨·¹³²■\u00a0")]),
  ("cp852 852 cspcp852 ibm852", [(0x80, "ÇüéâäůćçłëŐőîŹÄĆÉĹĺôöĽľŚśÖÜŤťŁ×č"),
    (0xa0, "áíóúĄąŽžĘę¬źČş«»░▒▓│┤ÁÂĚŞ╣║╗╝Żż┐"), (0xc0, "└┴┬├─┼Ăă╚╔╩╦╠═╬¤đĐĎËďŇÍÎě┘┌█▄ŢŮ▀"),
    (0xe0, "ÓßÔŃńňŠšŔÚŕŰýÝţ´\u00ad˝˛ˇ˘§÷¸°¨˙űŘř■\u00a0")]),
  ("cp855 855 csibm855 ibm855", [(0x80, "ђЂѓЃёЁєЄѕЅіІїЇјЈљЉњЊћЋќЌўЎџЏюЮъЪ"),
    (0xa0, "аАбБцЦдДеЕфФгГ«»░▒▓│┤хХиИ╣║╗╝йЙ┐"), (0xc0, "└┴┬├─┼кК╚╔╩╦╠═╬¤лЛмМнНоОп┘┌█▄Пя▀"),
    (0xe0, "ЯрРсСтТуУжЖвВьЬ№\u00adыЫзЗшШэЭщЩчЧ§■\u00a0")]),
  ("cp856", [
    (0x80, "\u05d0\u05d1\u05d2\u05d3\u05d4\u05d5\u05d6\u05d7\u05d8\u05d9\u05da\u05db\u05dc"),
    (0x8d, "\u05dd\u05de\u05df\u05e0\u05e1\u05e2\u05e3\u05e4\u05e5\u05e6\u05e7\u05e8\u05e9"),
    (0x9a, "\u05ea\ufffd£\ufffd×\ufffd"),
    (0xa0, "\ufffd\ufffd\ufffd\ufffd\ufffd\ufffd\ufffd\ufffd\ufffd®¬½¼\ufffd«»░▒▓│┤\ufffd\ufffd"),
    (0xb7, "\ufffd©╣║╗╝¢¥┐"),
    (0xc0, "└┴┬├─┼\ufffd\ufffd╚╔╩╦╠═╬¤\ufffd\ufffd\ufffd\ufffd\ufffd\ufffd\ufffd\ufffd\ufffd┘┌█"),
    (0xdc, "▄¦\ufffd▀"),
    (0xe0, "\ufffd\ufffd\ufffd\ufffd\ufffd\ufffdµ\ufffd\ufffd\ufffd\ufffd\ufffd\ufffd\ufffd¯´"),
    (0xf0, "\u00ad±‗¾¶§÷¸°¨·¹³²■\u00a0")]),
  ("cp857 857 csibm857 ibm857", [(0x80, "ÇüéâäàåçêëèïîıÄÅÉæÆôöòûùİÖÜø£ØŞş"),
    (0xa0, "áíóúñÑĞğ¿®¬½¼¡«»░▒▓│┤ÁÂÀ©╣║╗╝¢¥┐"), (0xc0, "└┴┬├─┼ãÃ╚╔╩╦╠═╬¤ºªÊËÈ\ufffdÍÎÏ┘┌█▄¦Ì▀"),
    (0xe0, "ÓßÔÒõÕµ\ufffd×ÚÛÙìÿ¯´\u00ad±\ufffd¾¶§÷¸°¨·¹³²■\u00a0")]),
  ("cp858 858 csibm858 ibm858", [(0x80, "ÇüéâäàåçêëèïîìÄÅÉæÆôöòûùÿÖÜø£Ø×ƒ"),
    (0xa0, "áíóúñÑªº¿®¬½¼¡«»░▒▓│┤ÁÂÀ©╣║╗╝¢¥┐"), (0xc0, "└┴┬├─┼ãÃ╚╔╩╦╠═╬¤ðÐÊËÈ€ÍÎÏ┘┌█▄¦Ì▀"),
    (0xe0, "ÓßÔÒõÕµþÞÚÛÙýÝ¯´\u00ad±‗¾¶§÷¸°¨·¹³²■\u00a0")]),
  ("cp860 860 csibm860 ibm860", [(0x80, "ÇüéâãàÁçêÊèÍÔìÃÂÉÀÈôõòÚùÌÕÜ¢£Ù₧Ó"),
    (0xa0, "áíóúñÑªº¿Ò¬½¼¡«»░▒▓│┤╡╢╖╕╣║╗╝╜╛┐"), (0xc0, "└┴┬├─┼╞╟╚╔╩╦╠═╬╧╨╤╥╙╘╒╓╫╪┘┌█▄▌▐▀"),
    (0xe0, "αßΓπΣσµτΦΘΩδ∞φε∩≡±≥≤⌠⌡÷≈°∙·√ⁿ²■\u00a0")]),
  ("cp861 861 cp_is csibm861 ibm861", [(0x80, "ÇüéâäàåçêëèÐðÞÄÅÉæÆôöþûÝýÖÜø£Ø₧ƒ"),
    (0xa0, "áíóúÁÍÓÚ¿⌐¬½¼¡«»░▒▓│┤╡╢╖╕╣║╗╝╜╛┐"), (0xc0, "└┴┬├─┼╞╟╚╔╩╦╠═╬╧╨╤╥╙╘╒╓╫╪┘┌█▄▌▐▀"),
    (0xe0, "αßΓπΣσµτΦΘΩδ∞φε∩≡±≥≤⌠⌡÷≈°∙·√ⁿ²■\u00a0")]),
  ("cp862 862 cspc862latinhebrew ibm862", [
    (0x80, "\u05d0\u05d1\u05d2\u05d3\u05d4\u05d5\u05d6\u05d7\u05d8\u05d9\u05da\u05db\u05dc"),
    (0x8d, "\u05dd\u05de\u05df\u05e0\u05e1\u05e2\u05e3\u05e4\u05e5\u05e6\u05e7\u05e8\u05e9"),
    (0x9a, "\u05ea¢£¥₧ƒ"), (0xa0, "áíóúñÑªº¿⌐¬½¼¡«»░▒▓│┤╡╢╖╕╣║╗╝╜╛┐"),
    (0xc0, "└┴┬├─┼╞╟╚╔╩╦╠═╬╧╨╤╥╙╘╒╓╫╪┘┌█▄▌▐▀"), (0xe0, "αßΓπΣσµτΦΘΩδ∞φε∩≡±≥≤⌠⌡÷≈°∙·√ⁿ²■\u00a0")]),
  ("cp863 863 csibm863 ibm863", [(0x80, "ÇüéâÂà¶çêëèïî‗À§ÉÈÊôËÏûù¤ÔÜ¢£ÙÛƒ"),
    (0xa0, "¦´óú¨¸³¯Î⌐¬½¼¾«»░▒▓│┤╡╢╖╕╣║╗╝╜╛┐"), (0xc0, "└┴┬├─┼╞╟╚╔╩╦╠═╬╧╨╤╥╙╘╒╓╫╪┘┌█▄▌▐▀"),
    (0xe0, "αßΓπΣσµτΦΘΩδ∞φε∩≡±≥≤⌠⌡÷≈°∙·√ⁿ²■\u00a0")]),
  ("cp864 864 csibm864 ibm864", [(0x25, "٪"),
    (0x80, "°·∙√▒─│┼┤┬├┴┐┌└┘β∞φ±½¼≈«»\ufef7\ufef8\ufffd\ufffd\ufefb\ufefc\ufffd"),
    (0xa0, "\u00a0\u00ad\ufe82£¤\ufe84\ufffd\ufffd\ufe8e\ufe8f\ufe95\ufe99،\ufe9d\ufea1\ufea5"),
    (0xb0, "\u0660\u0661\u0662\u0663\u0664\u0665\u0666\u0667\u0668\u0669\ufed1\u061b\ufeb1"),
    (0xbd, "\ufeb5\ufeb9\u061f"),
    (0xc0, "¢\ufe80\ufe81\ufe83\ufe85\ufeca\ufe8b\ufe8d\ufe91\ufe93\ufe97\ufe9b\ufe9f\ufea3"),
    (0xce, "\ufea7\ufea9\ufeab\ufead\ufeaf\ufeb3\ufeb7\ufebb\ufebf\ufec1\ufec5\ufecb\ufecf¦¬÷×"),
    (0xdf, "\ufec9"),
    (0xe0, "\u0640\ufed3\ufed7\ufedb\ufedf\ufee3\ufee7\ufeeb\ufeed\ufeef\ufef3\ufebd\ufecc"),
    (0xed, "\ufece\ufecd\ufee1\ufe7d\u0651\ufee5\ufee9\ufeec\ufef0\ufef2\ufed0\ufed5\ufef5"),
    (0xfa, "\ufef6\ufedd\ufed9\ufef1■\ufffd")]),
  ("cp865 865 csibm865 ibm865", [(0x80, "ÇüéâäàåçêëèïîìÄÅÉæÆôöòûùÿÖÜø£Ø₧ƒ"),
    (0xa0, "áíóúñÑªº¿⌐¬½¼¡«¤░▒▓│┤╡╢╖╕╣║╗╝╜╛┐"), (0xc0, "└┴┬├─┼╞╟╚╔╩╦╠═╬╧╨╤╥╙╘╒╓╫╪┘┌█▄▌▐▀"),
    (0xe0, "αßΓπΣσµτΦΘΩδ∞φε∩≡±≥≤⌠⌡÷≈°∙·√ⁿ²■\u00a0")]),
  ("cp866 866 csibm866 ibm866", [(0x80, "АБВГДЕЖЗИЙКЛМНОПРСТУФХЦЧШЩЪЫЬЭЮЯ"),
    (0xa0, "абвгдежзийклмноп░▒▓│┤╡╢╖╕╣║╗╝╜╛┐"), (0xc0, "└┴┬├─┼╞╟╚╔╩╦╠═╬╧╨╤╥╙╘╒╓╫╪┘┌█▄▌▐▀"),
    (0xe0, "рстуфхцчшщъыьэюяЁёЄєЇїЎў°∙·√№¤■\u00a0")]),
  ("cp869 869 cp_gr csibm869 ibm869", [
    (0x80, "\ufffd\ufffd\ufffd\ufffd\ufffd\ufffdΆ\ufffd·¬¦‘’Έ―ΉΊΪΌ\ufffd\ufffdΎΫ©Ώ²³ά£έήί"),
    (0xa0, "ϊΐόύΑΒΓΔΕΖΗ½ΘΙ«»░▒▓│┤ΚΛΜΝ╣║╗╝ΞΟ┐"), (0xc0, "└┴┬├─┼ΠΡ╚╔╩╦╠═╬ΣΤΥΦΧΨΩαβγ┘┌█▄δε▀"),
    (0xe0, "ζηθικλμνξοπρσςτ΄\u00ad±υφχ§ψ΅°¨ωϋΰώ■\u00a0")]),
  ("cp874", [
    (0x80, "€\ufffd\ufffd\ufffd\ufffd…\ufffd\ufffd\ufffd\ufffd\ufffd\ufffd\ufffd\ufffd\ufffd"),
    (0x8f, "\ufffd\ufffd‘’“”•–—\ufffd\ufffd\ufffd\ufffd\ufffd\ufffd\ufffd\ufffd"),
    (0xa0, "\u00a0กขฃคฅฆงจฉชซฌญฎฏฐฑฒณดตถทธนบปผฝพฟ"),
    (0xc0, "ภมยรฤลฦวศษสหฬอฮฯะ\u0e31าำ\u0e34\u0e35\u0e36\u0e37\u0e38\u0e39\u0e3a\ufffd\ufffd"),
    (0xdd, "\ufffd\ufffd฿"),
    (0xe0, "เแโใไๅๆ\u0e47\u0e48\u0e49\u0e4a\u0e4b\u0e4c\u0e4d\u0e4e๏๐๑๒๓๔๕๖๗๘๙๚๛\ufffd\ufffd"),
    (0xfe, "\ufffd\ufffd")]),
  ("cp875", [(0x04, "\u009c\x09\u0086\x7f\u0097\u008d\u008e"),
    (0x14, "\u009d\u0085\x08\u0087\x18\x19\u0092\u008f\x1c\x1d\x1e\x1f"),
    (0x20, "\u0080\u0081\u0082\u0083\u0084\n\x17\x1b\u0088\u0089\u008a\u008b\u008c\x05\x06\x07"),
    (0x30, "\u0090\u0091\x16\u0093\u0094\u0095\u0096\x04\u0098\u0099\u009a\u009b\x14\x15\u009e"),
    (0x3f, "\x1a"), (0x40, " ΑΒΓΔΕΖΗΘΙ[.<(+!&ΚΛΜΝΞΟΠΡΣ]$*);^"),
    (0x60, "-/ΤΥΦΧΨΩΪΫ|,%_>?¨ΆΈΉ\u00a0ΊΌΎΏ\x60:#@'=\""),
    (0x80, "΅abcdefghiαβγδεζ°jklmnopqrηθικλμ"), (0xa0, "´~stuvwxyzνξοπρσ£άέήϊίόύϋώςτυφχψ"),
    (0xc0, "\x7bABCDEFGHI\u00adωΐΰ‘―\x7dJKLMNOPQR±½\x1a·’¦"),
    (0xe0, "\\\x1aSTUVWXYZ²§\x1a\x1a«¬0123456789³©\x1a\x1a»\u009f")]),
  ("hp_roman8 cp1051 csHPRoman8 ibm1051 r8 roman8", [(0xa1, "ÀÂÈÊËÎÏ´ˋˆ¨˜ÙÛ₤¯Ýý°ÇçÑñ¡¿¤£¥§ƒ¢"),
    (0xc0, "âêôûáéóúàèòùäëöüÅîØÆåíøæÄìÖÜÉïßÔ"), (0xe0, "ÁÃãÐðÍÌÓÒÕõŠšÚŸÿÞþ·µ¶¾—¼½ªº«■»±\ufffd")]),
  ("iso8859_10 csisolatin6 iso_8859_10 iso_8859_10_1992 iso_ir_157 l6 latin6", [
    (0xa1, "ĄĒĢĪĨĶ§ĻĐŠŦŽ\u00adŪŊ°ąēģīĩķ·ļđšŧž―ūŋ"), (0xc0, "Ā"), (0xc7, "ĮČÉĘËĖÍÎÏÐŅŌÓÔÕÖŨØŲ"),
    (0xe0, "ā"), (0xe7, "įčéęëėíîïðņōóôõöũøųúûüýþĸ")]),
  ("iso8859_11 iso_8859_11 iso_8859_11_2001 thai", [(0xa1, "กขฃคฅฆงจฉชซฌญฎฏฐฑฒณดตถทธนบปผฝพฟ"),
    (0xc0, "ภมยรฤลฦวศษสหฬอฮฯะ\u0e31าำ\u0e34\u0e35\u0e36\u0e37\u0e38\u0e39\u0e3a\ufffd\ufffd"),
    (0xdd, "\ufffd\ufffd฿"),
    (0xe0, "เแโใไๅๆ\u0e47\u0e48\u0e49\u0e4a\u0e4b\u0e4c\u0e4d\u0e4e๏๐๑๒๓๔๕๖๗๘๙๚๛\ufffd\ufffd"),
    (0xfe, "\ufffd\ufffd")]),
  ("iso8859_13 iso_8859_13 l7 latin7", [(0xa1, "”¢£¤„¦§Ø©Ŗ«¬\u00ad®Æ°±²³“µ¶·ø¹ŗ»¼½¾æ"),
    (0xc0, "ĄĮĀĆÄÅĘĒČÉŹĖĢĶĪĻŠŃŅÓŌÕÖ×ŲŁŚŪÜŻŽß"), (0xe0, "ąįāćäåęēčéźėģķīļšńņóōõö÷ųłśūüżž’")]),
  ("iso8859_14 iso_8859_14 iso_8859_14_1998 iso_celtic iso_ir_199 l8 latin8", [
    (0xa1, "Ḃḃ£ĊċḊ§Ẁ©ẂḋỲ\u00ad®ŸḞḟĠġṀṁ¶ṖẁṗẃṠỳẄẅṡ"), (0xd0, "Ŵ"), (0xd7, "Ṫ"), (0xde, "Ŷ"),
    (0xf0, "ŵ"), (0xf7, "ṫ"), (0xfe, "ŷ")]),
  ("iso8859_15 iso_8859_15 l9 latin9", [(0xa4, "€¥Š§š"), (0xb4, "Žµ¶·ž¹º»ŒœŸ")]),
  ("iso8859_16 iso_8859_16 iso_8859_16_2001 iso_ir_226 l10 latin10", [
    (0xa1, "ĄąŁ€„Š§š©Ș«Ź\u00adźŻ°±ČłŽ”¶·žčș»ŒœŸż"), (0xc0, "ÀÁÂĂÄĆ"), (0xd0, "ĐŃÒÓÔŐÖŚŰÙÚÛÜĘȚß"),
    (0xe0, "àáâăäć"), (0xf0, "đńòóôőöśűùúûüęț")]),
  ("iso8859_2 csisolatin2 iso_8859_2 iso_8859_2_1987 iso_ir_101 l2 latin2", [
    (0xa1, "Ą˘Ł¤ĽŚ§¨ŠŞŤŹ\u00adŽŻ°ą˛ł´ľśˇ¸šşťź˝žż"), (0xc0, "ŔÁÂĂÄĹĆÇČÉĘËĚÍÎĎĐŃŇÓÔŐÖ×ŘŮÚŰÜÝŢß"),
    (0xe0, "ŕáâăäĺćçčéęëěíîďđńňóôőö÷řůúűüýţ˙")]),
  ("iso8859_3 csisolatin3 iso_8859_3 iso_8859_3_1988 iso_ir_109 l3 latin3", [
    (0xa1, "Ħ˘£¤\ufffdĤ§¨İŞĞĴ\u00ad\ufffdŻ°ħ²³´µĥ·¸ışğĵ½\ufffdż"), (0xc0, "ÀÁÂ\ufffdÄĊĈ"),
    (0xd0, "\ufffdÑÒÓÔĠÖ×ĜÙÚÛÜŬŜß"), (0xe0, "àáâ\ufffdäċĉ"), (0xf0, "\ufffdñòóôġö÷ĝùúûüŭŝ˙")]),
  ("iso8859_4 csisolatin4 iso_8859_4 iso_8859_4_1988 iso_ir_110 l4 latin4", [
    (0xa1, "ĄĸŖ¤ĨĻ§¨ŠĒĢŦ\u00adŽ¯°ą˛ŗ´ĩļˇ¸šēģŧŊžŋ"), (0xc0, "Ā"),
    (0xc7, "ĮČÉĘËĖÍÎĪĐŅŌĶÔÕÖ×ØŲÚÛÜŨŪß"), (0xe0, "ā"), (0xe7, "įčéęëėíîīđņōķôõö÷øųúûüũū˙")]),
  ("iso8859_5 csisolatincyrillic cyrillic iso_8859_5 iso_8859_5_1988 iso_ir_144", [
    (0xa1, "ЁЂЃЄЅІЇЈЉЊЋЌ\u00adЎЏАБВГДЕЖЗИЙКЛМНОП"), (0xc0, "РСТУФХЦЧШЩЪЫЬЭЮЯабвгдежзийклмноп"),
    (0xe0, "рстуфхцчшщъыьэюя№ёђѓєѕіїјљњћќ§ўџ")]),
  ("iso8859_6 arabic asmo_708 csisolatinarabic ecma_114 iso_8859_6 iso_8859_6_1987" ++
    " iso_ir_127", [
    (0xa1, "\ufffd\ufffd\ufffd¤\ufffd\ufffd\ufffd\ufffd\ufffd\ufffd\ufffd،\u00ad\ufffd\ufffd"),
    (0xb0, "\ufffd\ufffd\ufffd\ufffd\ufffd\ufffd\ufffd\ufffd\ufffd\ufffd\ufffd\u061b\ufffd"),
    (0xbd, "\ufffd\ufffd\u061f"),
    (0xc0, "\ufffd\u0621\u0622\u0623\u0624\u0625\u0626\u0627\u0628\u0629\u062a\u062b\u062c"),
    (0xcd, "\u062d\u062e\u062f\u0630\u0631\u0632\u0633\u0634\u0635\u0636\u0637\u0638\u0639"),
    (0xda, "\u063a\ufffd\ufffd\ufffd\ufffd\ufffd"),
    (0xe0, "\u0640\u0641\u0642\u0643\u0644\u0645\u0646\u0647\u0648\u0649\u064a\u064b\u064c"),
    (0xed, "\u064d\u064e\u064f\u0650\u0651\u0652\ufffd\ufffd\ufffd\ufffd\ufffd\ufffd\ufffd"),
    (0xfa, "\ufffd\ufffd\ufffd\ufffd\ufffd\ufffd")]),
  ("iso8859_7 csisolatingreek ecma_118 elot_928 greek greek8 iso_8859_7 iso_8859_7_1987" ++
    " iso_ir_126", [(0xa1, "‘’£€₯¦§¨©ͺ«¬\u00ad\ufffd―°±²³΄΅Ά·ΈΉΊ»Ό½ΎΏ"),
    (0xc0, "ΐΑΒΓΔΕΖΗΘΙΚΛΜΝΞΟΠΡ\ufffdΣΤΥΦΧΨΩΪΫάέήί"),
    (0xe0, "ΰαβγδεζηθικλμνξοπρςστυφχψωϊϋόύώ\ufffd")]),
  ("iso8859_8 csisolatinhebrew hebrew iso_8859_8 iso_8859_8_1988 iso_ir_138", [(0xa1, "\ufffd"),
    (0xaa, "×"), (0xba, "÷»¼½¾\ufffd"),
    (0xc0, "\ufffd\ufffd\ufffd\ufffd\ufffd\ufffd\ufffd\ufffd\ufffd\ufffd\ufffd\ufffd\ufffd"),
    (0xcd, "\ufffd\ufffd\ufffd\ufffd\ufffd\ufffd\ufffd\ufffd\ufffd\ufffd\ufffd\ufffd\ufffd"),
    (0xda, "\ufffd\ufffd\ufffd\ufffd\ufffd‗"),
    (0xe0, "\u05d0\u05d1\u05d2\u05d3\u05d4\u05d5\u05d6\u05d7\u05d8\u05d9\u05da\u05db\u05dc"),
    (0xed, "\u05dd\u05de\u05df\u05e0\u05e1\u05e2\u05e3\u05e4\u05e5\u05e6\u05e7\u05e8\u05e9"),
    (0xfa, "\u05ea\ufffd\ufffd\u200e\u200f\ufffd")]),
  ("iso8859_9 csisolatin5 iso_8859_9 iso_8859_9_1989 iso_ir_148 l5 latin5", [(0xd0, "Ğ"),
    (0xdd, "İŞ"), (0xf0, "ğ"), (0xfd, "ış")]),
  ("koi8_r cskoi8r", [(0x80, "─│┌┐└┘├┤┬┴┼▀▄█▌▐░▒▓⌠■∙√≈≤≥\u00a0⌡°²·÷"),
    (0xa0, "═║╒ё╓╔╕╖╗╘╙╚╛╜╝╞╟╠╡Ё╢╣╤╥╦╧╨╩╪╫╬©"), (0xc0, "юабцдефгхийклмнопярстужвьызшэщчъ"),
    (0xe0, "ЮАБЦДЕФГХИЙКЛМНОПЯРСТУЖВЬЫЗШЭЩЧЪ")]),
  ("koi8_t", [(0x80, "қғ‚Ғ„…†‡\ufffd‰ҳ‹ҲҷҶ\ufffdҚ‘’“”•–—\ufffd™\ufffd›\ufffd\ufffd\ufffd\ufffd"),
    (0xa0, "\ufffdӯӮё¤ӣ¦§\ufffd\ufffd\ufffd«¬\u00ad®\ufffd°±²Ё\ufffdӢ¶·\ufffd№\ufffd»\ufffd"),
    (0xbd, "\ufffd\ufffd©"), (0xc0, "юабцдефгхийклмнопярстужвьызшэщчъ"),
    (0xe0, "ЮАБЦДЕФГХИЙКЛМНОПЯРСТУЖВЬЫЗШЭЩЧЪ")]),
  ("koi8_u", [(0x80, "─│┌┐└┘├┤┬┴┼▀▄█▌▐░▒▓⌠■∙√≈≤≥\u00a0⌡°²·÷"),
    (0xa0, "═║╒ёє╔ії╗╘╙╚╛ґ╝╞╟╠╡ЁЄ╣ІЇ╦╧╨╩╪Ґ╬©"), (0xc0, "юабцдефгхийклмнопярстужвьызшэщчъ"),
    (0xe0, "ЮАБЦДЕФГХИЙКЛМНОПЯРСТУЖВЬЫЗШЭЩЧЪ")]),
  ("kz1048 kz_1048 rk1048 strk1048_2002", [(0x80, "ЂЃ‚ѓ„…†‡€‰Љ‹ЊҚҺЏђ‘’“”•–—\ufffd™љ›њқһџ"),
    (0xa0, "\u00a0ҰұӘ¤Ө¦§Ё©Ғ«¬\u00ad®Ү°±Ііөµ¶·ё№ғ»әҢңү"),
    (0xc0, "АБВГДЕЖЗИЙКЛМНОПРСТУФХЦЧШЩЪЫЬЭЮЯ"), (0xe0, "абвгдежзийклмнопрстуфхцчшщъыьэюя")]),
  ("mac_arabic", [(0x80, "Ä\u00a0ÇÉÑÖÜáàâä\u06ba«çéèêëí…îïñó»ôö÷úùûü"),
    (0xa0, " !\"#$٪&'()*+،-./\u0660\u0661\u0662\u0663\u0664\u0665\u0666\u0667\u0668\u0669:"),
    (0xbb, "\u061b<=>\u061f"),
    (0xc0, "❊\u0621\u0622\u0623\u0624\u0625\u0626\u0627\u0628\u0629\u062a\u062b\u062c\u062d"),
    (0xce, "\u062e\u062f\u0630\u0631\u0632\u0633\u0634\u0635\u0636\u0637\u0638\u0639\u063a[\\]^"),
    (0xdf, "_"),
    (0xe0, "\u0640\u0641\u0642\u0643\u0644\u0645\u0646\u0647\u0648\u0649\u064a\u064b\u064c"),
    (0xed, "\u064d\u064e\u064f\u0650\u0651\u0652\u067e\u0679\u0686\u06d5\u06a4\u06af\u0688"),
    (0xfa, "\u0691\x7b|\x7d\u0698\u06d2")]),
  ("mac_croatian", [(0x80, "ÄÅÇÉÑÖÜáàâäãåçéèêëíìîïñóòôöõúùûü"),
    (0xa0, "†°¢£§•¶ß®Š™´¨≠ŽØ∞±≤≥∆µ∂∑∏š∫ªºΩžø"),
    (0xc0, "¿¡¬√ƒ≈Ć«Č…\u00a0ÀÃÕŒœĐ—“”‘’÷◊\uf8ff©⁄€‹›Æ»"),
    (0xe0, "–·‚„‰ÂćÁčÈÍÎÏÌÓÔđÒÚÛÙıˆ˜¯πË˚¸Êæˇ")]),
  ("mac_cyrillic maccyrillic", [(0x80, "АБВГДЕЖЗИЙКЛМНОПРСТУФХЦЧШЩЪЫЬЭЮЯ"),
    (0xa0, "†°Ґ£§•¶І®©™Ђђ≠Ѓѓ∞±≤≥іµґЈЄєЇїЉљЊњ"), (0xc0, "јЅ¬√ƒ≈∆«»…\u00a0ЋћЌќѕ–—“”‘’÷„ЎўЏџ№Ёёя"),
    (0xe0, "абвгдежзийклмнопрстуфхцчшщъыьэю€")]),
  ("mac_farsi", [(0x80, "Ä\u00a0ÇÉÑÖÜáàâä\u06ba«çéèêëí…îïñó»ôö÷úùûü"),
    (0xa0, " !\"#$٪&'()*+،-./۰۱۲۳۴۵۶۷۸۹:\u061b<=>\u061f"),
    (0xc0, "❊\u0621\u0622\u0623\u0624\u0625\u0626\u0627\u0628\u0629\u062a\u062b\u062c\u062d"),
    (0xce, "\u062e\u062f\u0630\u0631\u0632\u0633\u0634\u0635\u0636\u0637\u0638\u0639\u063a[\\]^"),
    (0xdf, "_"),
    (0xe0, "\u0640\u0641\u0642\u0643\u0644\u0645\u0646\u0647\u0648\u0649\u064a\u064b\u064c"),
    (0xed, "\u064d\u064e\u064f\u0650\u0651\u0652\u067e\u0679\u0686\u06d5\u06a4\u06af\u0688"),
    (0xfa, "\u0691\x7b|\x7d\u0698\u06d2")]),
  ("mac_greek macgreek", [(0x80, "Ä¹²É³ÖÜ΅àâä΄¨çéèêë£™îï•½‰ôö¦€ùûü"),
    (0xa0, "†ΓΔΘΛΞΠß®©ΣΪ§≠°·Α±≤≥¥ΒΕΖΗΙΚΜΦΫΨΩ"), (0xc0, "άΝ¬ΟΡ≈Τ«»…\u00a0ΥΧΆΈœ–―“”‘’÷ΉΊΌΎέήίόΏ"),
    (0xe0, "ύαβψδεφγηιξκλμνοπώρστθωςχυζϊϋΐΰ\u00ad")]),
  ("mac_iceland maciceland", [(0x80, "ÄÅÇÉÑÖÜáàâäãåçéèêëíìîïñóòôöõúùûü"),
    (0xa0, "Ý°¢£§•¶ß®©™´¨≠ÆØ∞±≤≥¥µ∂∑∏π∫ªºΩæø"), (0xc0, "¿¡¬√ƒ≈∆«»…\u00a0ÀÃÕŒœ–—“”‘’÷◊ÿŸ⁄€ÐðÞþ"),
    (0xe0, "ý·‚„‰ÂÊÁËÈÍÎÏÌÓÔ\uf8ffÒÚÛÙıˆ˜¯˘˙˚¸˝˛ˇ")]),
  ("mac_latin2 mac_centeuro maccentraleurope maclatin2", [
    (0x80, "ÄĀāÉĄÖÜáąČäčĆćéŹźĎíďĒēĖóėôöõúĚěü"), (0xa0, "†°Ę£§•¶ß®©™ę¨≠ģĮįĪ≤≥īĶ∂∑łĻļĽľĹĺŅ"),
    (0xc0, "ņŃ¬√ńŇ∆«»…\u00a0ňŐÕőŌ–—“”‘’÷◊ōŔŕŘ‹›řŖ"), (0xe0, "ŗŠ‚„šŚśÁŤťÍŽžŪÓÔūŮÚůŰűŲųÝýķŻŁżĢˇ")]),
  ("mac_roman macintosh macroman", [(0x80, "ÄÅÇÉÑÖÜáàâäãåçéèêëíìîïñóòôöõúùûü"),
    (0xa0, "†°¢£§•¶ß®©™´¨≠ÆØ∞±≤≥¥µ∂∑∏π∫ªºΩæø"),
    (0xc0, "¿¡¬√ƒ≈∆«»…\u00a0ÀÃÕŒœ–—“”‘’÷◊ÿŸ⁄€‹›\ufb01\ufb02"),
    (0xe0, "‡·‚„‰ÂÊÁËÈÍÎÏÌÓÔ\uf8ffÒÚÛÙıˆ˜¯˘˙˚¸˝˛ˇ")]),
  ("mac_romanian", [(0x80, "ÄÅÇÉÑÖÜáàâäãåçéèêëíìîïñóòôöõúùûü"),
    (0xa0, "†°¢£§•¶ß®©™´¨≠ĂȘ∞±≤≥¥µ∂∑∏π∫ªºΩăș"), (0xc0, "¿¡¬√ƒ≈∆«»…\u00a0ÀÃÕŒœ–—“”‘’÷◊ÿŸ⁄€‹›Țț"),
    (0xe0, "‡·‚„‰ÂÊÁËÈÍÎÏÌÓÔ\uf8ffÒÚÛÙıˆ˜¯˘˙˚¸˝˛ˇ")]),
  ("mac_turkish macturkish", [(0x80, "ÄÅÇÉÑÖÜáàâäãåçéèêëíìîïñóòôöõúùûü"),
    (0xa0, "†°¢£§•¶ß®©™´¨≠ÆØ∞±≤≥¥µ∂∑∏π∫ªºΩæø"), (0xc0, "¿¡¬√ƒ≈∆«»…\u00a0ÀÃÕŒœ–—“”‘’÷◊ÿŸĞğİıŞş"),
    (0xe0, "‡·‚„‰ÂÊÁËÈÍÎÏÌÓÔ\uf8ffÒÚÛÙ\uf8a0ˆ˜¯˘˙˚¸˝˛ˇ")]),
  ("palmos", [(0x80, "€\u0081‚ƒ„…†‡ˆ‰Š‹Œ♦♣♥♠‘’“”•–—˜™š\u009bœ\u009d\u009eŸ")]),
  ("ptcp154 cp154 csptcp154 cyrillic_asian pt154", [(0x80, "ҖҒӮғ„…ҶҮҲүҠӢҢҚҺҸҗ‘’“”•–—ҳҷҡӣңқһҹ"),
    (0xa0, "\u00a0ЎўЈӨҘҰ§Ё©Ә«¬ӯ®Ҝ°ұІіҙө¶·ё№ә»јҪҫҝ"), (0xc0, "АБВГДЕЖЗИЙКЛМНОПРСТУФХЦЧШЩЪЫЬЭЮЯ"),
    (0xe0, "абвгдежзийклмнопрстуфхцчшщъыьэюя")]),
  ("tis_620 iso_ir_166 tis620 tis_620_0 tis_620_2529_0 tis_620_2529_1", [
    (0xa0, "\ufffdกขฃคฅฆงจฉชซฌญฎฏฐฑฒณดตถทธนบปผฝพฟ"),
    (0xc0, "ภมยรฤลฦวศษสหฬอฮฯะ\u0e31าำ\u0e34\u0e35\u0e36\u0e37\u0e38\u0e39\u0e3a\ufffd\ufffd"),
    (0xdd, "\ufffd\ufffd฿"),
    (0xe0, "เแโใไๅๆ\u0e47\u0e48\u0e49\u0e4a\u0e4b\u0e4c\u0e4d\u0e4e๏๐๑๒๓๔๕๖๗๘๙๚๛\ufffd\ufffd"),
    (0xfe, "\ufffd\ufffd")])]

end CodePage

end Stowage
