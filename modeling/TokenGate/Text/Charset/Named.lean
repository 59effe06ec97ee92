import TokenGate.Text.Charset.Dos
import TokenGate.Text.Charset.Ebcdic
import TokenGate.Text.Charset.Escaped
import TokenGate.Text.Charset.Macintosh
import TokenGate.Text.Charset.Punycode
import TokenGate.Text.Charset.Regional
import TokenGate.Text.Charset.Switched
import TokenGate.Text.Charset.Utf7
import TokenGate.Text.Charset.Windows
import TokenGate.Text.Capital
import TokenGate.Text.Wide

/-! The names of charsets. Case does not count in a name, and neither does what stands between its
letters and digits, if anything does. -/

set_option autoImplicit false

namespace TokenGate.Charset

def utf8Marked (bytes : Bytes) : List Char :=
  match bytes with
  | 0xef :: 0xbb :: 0xbf :: rest => Utf8.decodeLossy rest
  | _ => Utf8.decodeLossy bytes

def utf16 (order : Option Wide.Order) (bytes : Bytes) : List Char :=
  let (shown, rest) := Wide.markedOrder16 bytes
  match order with
  | some order => Wide.lossy (Wide.read16 order bytes)
  | none => Wide.lossy (Wide.read16 shown rest)

def utf32 (order : Option Wide.Order) (bytes : Bytes) : List Char :=
  let (shown, rest) := Wide.markedOrder32 bytes
  match order with
  | some order => Wide.lossy (Wide.read32 order bytes)
  | none => Wide.lossy (Wide.read32 shown rest)

abbrev Reader := Bytes → Except Refusal (List CodePoint)

def always (read : Bytes → List Char) : Reader := fun bytes => .ok ((read bytes).map .char)

/-- A reader that also makes halves of pairs out of octets. -/
def loosely (read : Bytes → List CodePoint) : Reader := fun bytes => .ok (read bytes)

def unlessRefused (read : Bytes → Except Refusal (List Char)) : Reader :=
  fun bytes => (read bytes).map fun cs => cs.map .char

def never : Reader := fun _ => .error .unreadable

structure Named where
  name : String
  others : List String
  read : Reader

def all : List Named :=
  [⟨"ascii", ["646", "ansi_x3.4_1968", "ansi_x3_4_1968", "ansi_x3.4_1986", "cp367", "csascii",
     "ibm367", "iso646_us", "iso_646.irv_1991", "iso_ir_6", "us", "us_ascii"],
     always Octets.ascii.read⟩,
   ⟨"big5", ["big5_tw", "csbig5", "x_mac_trad_chinese"], always traditional.read⟩,
   ⟨"big5hkscs", ["big5_hkscs", "hkscs"], always hongKongTraditional.read⟩,
   ⟨"charmap", [], always Octets.latin.read⟩,
   ⟨"cp037", ["037", "csibm037", "ebcdic_cp_ca", "ebcdic_cp_nl", "ebcdic_cp_us", "ebcdic_cp_wt",
     "ibm037", "ibm039"], always ebcdic037.read⟩,
   ⟨"cp1006", [], always urdu.read⟩,
   ⟨"cp1026", ["1026", "csibm1026", "ibm1026"], always ebcdic1026.read⟩,
   ⟨"cp1125", ["1125", "ibm1125", "cp866u", "ruscii"], always dos1125.read⟩,
   ⟨"cp1140", ["1140", "ibm1140"], always ebcdic1140.read⟩,
   ⟨"cp1250", ["1250", "windows_1250"], always windows1250.read⟩,
   ⟨"cp1251", ["1251", "windows_1251"], always windows1251.read⟩,
   ⟨"cp1252", ["1252", "windows_1252"], always windows1252.read⟩,
   ⟨"cp1253", ["1253", "windows_1253"], always windows1253.read⟩,
   ⟨"cp1254", ["1254", "windows_1254"], always windows1254.read⟩,
   ⟨"cp1255", ["1255", "windows_1255"], always windows1255.read⟩,
   ⟨"cp1256", ["1256", "windows_1256"], always windows1256.read⟩,
   ⟨"cp1257", ["1257", "windows_1257"], always windows1257.read⟩,
   ⟨"cp1258", ["1258", "windows_1258"], always windows1258.read⟩,
   ⟨"cp273", ["273", "ibm273", "csibm273"], always ebcdic273.read⟩,
   ⟨"cp424", ["424", "csibm424", "ebcdic_cp_he", "ibm424"], always ebcdic424.read⟩,
   ⟨"cp437", ["437", "cspc8codepage437", "ibm437"], always dos437.read⟩,
   ⟨"cp500", ["500", "csibm500", "ebcdic_cp_be", "ebcdic_cp_ch", "ibm500"], always ebcdic500.read⟩,
   ⟨"cp720", [], always dos720.read⟩,
   ⟨"cp737", [], always dos737.read⟩,
   ⟨"cp775", ["775", "cspc775baltic", "ibm775"], always dos775.read⟩,
   ⟨"cp850", ["850", "cspc850multilingual", "ibm850"], always dos850.read⟩,
   ⟨"cp852", ["852", "cspcp852", "ibm852"], always dos852.read⟩,
   ⟨"cp855", ["855", "csibm855", "ibm855"], always dos855.read⟩,
   ⟨"cp856", [], always dos856.read⟩,
   ⟨"cp857", ["857", "csibm857", "ibm857"], always dos857.read⟩,
   ⟨"cp858", ["858", "csibm858", "ibm858"], always dos858.read⟩,
   ⟨"cp860", ["860", "csibm860", "ibm860"], always dos860.read⟩,
   ⟨"cp861", ["861", "cp_is", "csibm861", "ibm861"], always dos861.read⟩,
   ⟨"cp862", ["862", "cspc862latinhebrew", "ibm862"], always dos862.read⟩,
   ⟨"cp863", ["863", "csibm863", "ibm863"], always dos863.read⟩,
   ⟨"cp864", ["864", "csibm864", "ibm864"], always dos864.read⟩,
   ⟨"cp865", ["865", "csibm865", "ibm865"], always dos865.read⟩,
   ⟨"cp866", ["866", "csibm866", "ibm866"], always dos866.read⟩,
   ⟨"cp869", ["869", "cp_gr", "csibm869", "ibm869"], always dos869.read⟩,
   ⟨"cp874", [], always windows874.read⟩,
   ⟨"cp875", [], always ebcdic875.read⟩,
   ⟨"cp932", ["932", "ms932", "mskanji", "ms_kanji"], always vendorJis.read⟩,
   ⟨"cp949", ["949", "ms949", "uhc"], always unifiedKorean.read⟩,
   ⟨"cp950", ["950", "ms950"], always vendorTraditional.read⟩,
   ⟨"euc_jis_2004", ["jisx0213", "eucjis2004", "euc_jis2004"],
     always (extendedJis0213 .second).read⟩,
   ⟨"euc_jisx0213", ["eucjisx0213"], always (extendedJis0213 .first).read⟩,
   ⟨"euc_jp", ["eucjp", "ujis", "u_jis"], always extendedJis.read⟩,
   ⟨"euc_kr", ["euckr", "korean", "ksc5601", "ks_c_5601", "ks_c_5601_1987", "ksx1001",
     "ks_x_1001", "x_mac_korean"], always korean⟩,
   ⟨"gb18030", ["gb18030_2000"], always national⟩,
   ⟨"gb2312", ["chinese", "csiso58gb231280", "euc_cn", "euccn", "eucgb2312_cn", "gb2312_1980",
     "gb2312_80", "iso_ir_58", "x_mac_simp_chinese"], always simplified.read⟩,
   ⟨"gbk", ["936", "cp936", "ms936"], always extendedSimplified.read⟩,
   ⟨"hp_roman8", ["roman8", "r8", "csHPRoman8", "cp1051", "ibm1051"], always roman8.read⟩,
   ⟨"hz", ["hzgb", "hz_gb", "hz_gb_2312"], always simplifiedTilde⟩,
   ⟨"idna", [], never⟩,
   ⟨"iso2022_jp", ["csiso2022jp", "iso2022jp", "iso_2022_jp"], unlessRefused switchedJis.read⟩,
   ⟨"iso2022_jp_1", ["iso2022jp_1", "iso_2022_jp_1"], unlessRefused switchedJis1.read⟩,
   ⟨"iso2022_jp_2", ["iso2022jp_2", "iso_2022_jp_2"], unlessRefused switchedJis2.read⟩,
   ⟨"iso2022_jp_2004", ["iso_2022_jp_2004", "iso2022jp_2004"], unlessRefused switchedJis2004.read⟩,
   ⟨"iso2022_jp_3", ["iso2022jp_3", "iso_2022_jp_3"], unlessRefused switchedJis3.read⟩,
   ⟨"iso2022_jp_ext", ["iso2022jp_ext", "iso_2022_jp_ext"], unlessRefused switchedJisWithKana.read⟩,
   ⟨"iso2022_kr", ["csiso2022kr", "iso2022kr", "iso_2022_kr"], unlessRefused switchedKorean.read⟩,
   ⟨"iso8859_1", [], always Octets.latin.read⟩,
   ⟨"iso8859_10", ["csisolatin6", "iso_8859_10", "iso_8859_10_1992", "iso_ir_157", "l6", "latin6"],
     always iso10.read⟩,
   ⟨"iso8859_11", ["thai", "iso_8859_11", "iso_8859_11_2001"], always iso11.read⟩,
   ⟨"iso8859_13", ["iso_8859_13", "l7", "latin7"], always iso13.read⟩,
   ⟨"iso8859_14", ["iso_8859_14", "iso_8859_14_1998", "iso_celtic", "iso_ir_199", "l8", "latin8"],
     always iso14.read⟩,
   ⟨"iso8859_15", ["iso_8859_15", "l9", "latin9"], always iso15.read⟩,
   ⟨"iso8859_16", ["iso_8859_16", "iso_8859_16_2001", "iso_ir_226", "l10", "latin10"],
     always iso16.read⟩,
   ⟨"iso8859_2", ["csisolatin2", "iso_8859_2", "iso_8859_2_1987", "iso_ir_101", "l2", "latin2"],
     always iso2.read⟩,
   ⟨"iso8859_3", ["csisolatin3", "iso_8859_3", "iso_8859_3_1988", "iso_ir_109", "l3", "latin3"],
     always iso3.read⟩,
   ⟨"iso8859_4", ["csisolatin4", "iso_8859_4", "iso_8859_4_1988", "iso_ir_110", "l4", "latin4"],
     always iso4.read⟩,
   ⟨"iso8859_5", ["csisolatincyrillic", "cyrillic", "iso_8859_5", "iso_8859_5_1988", "iso_ir_144"],
     always iso5.read⟩,
   ⟨"iso8859_6", ["arabic", "asmo_708", "csisolatinarabic", "ecma_114", "iso_8859_6",
     "iso_8859_6_1987", "iso_ir_127"], always iso6.read⟩,
   ⟨"iso8859_7", ["csisolatingreek", "ecma_118", "elot_928", "greek", "greek8", "iso_8859_7",
     "iso_8859_7_1987", "iso_ir_126"], always iso7.read⟩,
   ⟨"iso8859_8", ["csisolatinhebrew", "hebrew", "iso_8859_8", "iso_8859_8_1988", "iso_ir_138"],
     always iso8.read⟩,
   ⟨"iso8859_9", ["csisolatin5", "iso_8859_9", "iso_8859_9_1989", "iso_ir_148", "l5", "latin5"],
     always iso9.read⟩,
   ⟨"johab", ["cp1361", "ms1361"], always combinedKorean.read⟩,
   ⟨"koi8_r", ["cskoi8r"], always koi8R.read⟩,
   ⟨"koi8_t", [], always koi8T.read⟩,
   ⟨"koi8_u", [], always koi8U.read⟩,
   ⟨"kz1048", ["kz_1048", "rk1048", "strk1048_2002"], always kazakh.read⟩,
   ⟨"latin_1", ["8859", "cp819", "csisolatin1", "ibm819", "iso8859", "iso8859_1", "iso_8859_1",
     "iso_8859_1_1987", "iso_ir_100", "l1", "latin", "latin1"], always Octets.latin.read⟩,
   ⟨"mac_arabic", [], always macArabic.read⟩,
   ⟨"mac_croatian", [], always macCroatian.read⟩,
   ⟨"mac_cyrillic", ["maccyrillic"], always macCyrillic.read⟩,
   ⟨"mac_farsi", [], always macFarsi.read⟩,
   ⟨"mac_greek", ["macgreek"], always macGreek.read⟩,
   ⟨"mac_iceland", ["maciceland"], always macIceland.read⟩,
   ⟨"mac_latin2", ["maccentraleurope", "mac_centeuro", "maclatin2"], always macLatin2.read⟩,
   ⟨"mac_roman", ["macintosh", "macroman"], always macRoman.read⟩,
   ⟨"mac_romanian", [], always macRomanian.read⟩,
   ⟨"mac_turkish", ["macturkish"], always macTurkish.read⟩,
   ⟨"palmos", [], always handheld.read⟩,
   ⟨"ptcp154", ["csptcp154", "pt154", "cp154", "cyrillic_asian"], always cyrillicAsian.read⟩,
   ⟨"punycode", [], Punycode.read⟩,
   ⟨"raw_unicode_escape", [], loosely Escaped.readPlain⟩,
   ⟨"shift_jis", ["csshiftjis", "shiftjis", "sjis", "s_jis", "x_mac_japanese"],
     always shiftedJis.read⟩,
   ⟨"shift_jis_2004", ["shiftjis2004", "sjis_2004", "s_jis_2004"],
     always (shiftedJis0213 .second).read⟩,
   ⟨"shift_jisx0213", ["shiftjisx0213", "sjisx0213", "s_jisx0213"],
     always (shiftedJis0213 .first).read⟩,
   ⟨"tis_620", ["tis620", "tis_620_0", "tis_620_2529_0", "tis_620_2529_1", "iso_ir_166"],
     always thai.read⟩,
   ⟨"undefined", [], never⟩,
   ⟨"unicode_escape", [], loosely Escaped.readFull⟩,
   ⟨"utf_16", ["u16", "utf16"], always (utf16 none)⟩,
   ⟨"utf_16_be", ["unicodebigunmarked", "utf_16be"], always (utf16 (some .big))⟩,
   ⟨"utf_16_le", ["unicodelittleunmarked", "utf_16le"], always (utf16 (some .little))⟩,
   ⟨"utf_32", ["u32", "utf32"], always (utf32 none)⟩,
   ⟨"utf_32_be", ["utf_32be"], always (utf32 (some .big))⟩,
   ⟨"utf_32_le", ["utf_32le"], always (utf32 (some .little))⟩,
   ⟨"utf_7", ["u7", "utf7", "unicode_1_1_utf_7"], loosely Utf7.read⟩,
   ⟨"utf_8", ["u8", "utf", "utf8", "utf8_ucs2", "utf8_ucs4", "cp65001"], always Utf8.decodeLossy⟩,
   ⟨"utf_8_sig", [], always utf8Marked⟩]

/-- Letters and digits in small letters and points, with one underscore for all that stands between
them. -/
def plainName (cs : List Char) : List Char :=
  go false (Text.smalls cs)
where
  isPart (c : Char) : Bool := (c.isAlphanum && c.toNat < 0x80) || c == '.'
  go (isGap : Bool) : List Char → List Char
    | [] => []
    | c :: rest =>
      if !isPart c then go true rest
      else if isGap then '_' :: c :: go false rest
      else c :: go false rest

/-- The charset of a name. In other names than its own a point may stand for an underscore. -/
def named? (name : String) : Option Named :=
  let plain := (plainName name.toList).dropWhile (· == '_')
  let pointless := plain.map fun c => if c = '.' then '_' else c
  let other (cs : List Char) : Option Named :=
    all.find? fun n => n.others.contains (String.ofList cs)
  ((other plain).or (other pointless)).or (all.find? fun n => n.name == String.ofList plain)

end TokenGate.Charset
