import Herald.Text.Utf8
import Herald.Text.Charset.Chinese
import Herald.Text.Charset.Japanese
import Herald.Text.Charset.Korean
import Herald.Text.Charset.UpperHalf
import Herald.Text.Charset.Utf16

/-!
# Character sets

A label names a set of characters, whatever its case and with blanks around it. `decode` is the text
of bytes in a set, in which U+FFFD stands for bytes without a character, and `decodeMarked` lets a
byte order mark at the start decide over the label.
-/

namespace Herald.Text

/-- The sets that texts are decoded from. -/
inductive Charset where
  | utf8
  | utf16 (bigEndian : Bool)
  | singleByte (upper : Charset.UpperHalf)
  | shiftJis
  | eucJp
  | iso2022Jp
  | gb18030
  | big5
  | eucKr
  /-- The bytes from 128 on are characters for private use. -/
  | userDefined
  /-- Sets that are not safe to read: any bytes at all are one character that is none. -/
  | unreadable

namespace Charset

/-- The labels of the sets that have more than single bytes, and of those that have no characters of
their own. -/
def labels : List (Charset × List String) := [
  (.utf8, ["unicode-1-1-utf-8", "unicode11utf8", "unicode20utf8", "utf-8", "utf8",
    "x-unicode20utf8"]),
  (.utf16 false, ["csunicode", "iso-10646-ucs-2", "ucs-2", "unicode", "unicodefeff", "utf-16",
    "utf-16le"]),
  (.utf16 true, ["unicodefffe", "utf-16be"]),
  (.shiftJis, ["csshiftjis", "ms932", "ms_kanji", "shift-jis", "shift_jis", "sjis", "windows-31j",
    "x-sjis"]),
  (.eucJp, ["cseucpkdfmtjapanese", "euc-jp", "x-euc-jp"]),
  (.iso2022Jp, ["csiso2022jp", "iso-2022-jp"]),
  (.gb18030, ["chinese", "csgb2312", "csiso58gb231280", "gb18030", "gb2312", "gb_2312",
    "gb_2312-80", "gbk", "iso-ir-58", "x-gbk"]),
  (.big5, ["big5", "big5-hkscs", "cn-big5", "csbig5", "x-x-big5"]),
  (.eucKr, ["cseuckr", "csksc56011987", "euc-kr", "iso-ir-149", "korean", "ks_c_5601-1987",
    "ks_c_5601-1989", "ksc5601", "ksc_5601", "windows-949"]),
  (.userDefined, ["x-user-defined"]),
  (.unreadable, ["csiso2022kr", "hz-gb-2312", "iso-2022-cn", "iso-2022-cn-ext", "iso-2022-kr",
    "replacement"])]

/-- A space, a tab, or another ASCII character that ends a line or a page. -/
def isLabelBlank (c : Char) : Bool :=
  c = ' ' || c = '\t' || c = '\n' || c = '\x0c' || c = '\r'

/-- The set that a label names. -/
def ofLabel? (label : String) : Option Charset :=
  let inner := ((label.toList.dropWhile isLabelBlank).reverse.dropWhile isLabelBlank).reverse
  let name := String.ofList (inner.map Char.toLower)
  match labels.find? (·.2.contains name) with
  | some (charset, _) => some charset
  | none => (upperHalves.find? (·.labels.contains name)).map .singleByte

/-- The text of bytes of which those from 128 on stand for the given characters. -/
def ofSingleBytes (upper : Nat → Char) (bytes : List UInt8) : List Char :=
  bytes.map fun b => if b < 0x80 then ascii b else upper (b.toNat - 0x80)

/-- The text of bytes in a set. -/
def decode : Charset → List UInt8 → List Char
  | .utf8, bytes => Utf8.decodeLossy bytes
  | .utf16 bigEndian, bytes => ofUtf16 bigEndian bytes
  | .singleByte upper, bytes =>
    let chars := upper.chars.toList.toArray
    ofSingleBytes (fun n => chars.getD n missing) bytes
  | .shiftJis, bytes => ofShiftJis bytes
  | .eucJp, bytes => ofEucJp bytes
  | .iso2022Jp, bytes => ofIso2022Jp .ascii false bytes
  | .gb18030, bytes => ofGb18030 bytes
  | .big5, bytes => ofBig5 bytes
  | .eucKr, bytes => ofEucKr bytes
  | .userDefined, bytes => ofSingleBytes (fun n => Char.ofNat (0xF780 + n)) bytes
  | .unreadable, bytes => if bytes.isEmpty then [] else [missing]

/-- The text of bytes in a set, unless a byte order mark tells another. -/
def decodeMarked (charset : Charset) : List UInt8 → List Char
  | 0xEF :: 0xBB :: 0xBF :: rest => decode .utf8 rest
  | 0xFE :: 0xFF :: rest => decode (.utf16 true) rest
  | 0xFF :: 0xFE :: rest => decode (.utf16 false) rest
  | bytes => decode charset bytes

end Charset

end Herald.Text
