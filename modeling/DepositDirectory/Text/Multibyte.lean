import DepositDirectory.Text.Multibyte.Chinese
import DepositDirectory.Text.Multibyte.Japanese
import DepositDirectory.Text.Multibyte.Korean

/-!
# Sets with several bytes a character

The sets of Chinese, Japanese and Korean that answers can be written in, with their labels.
-/

namespace DepositDirectory.Text

/-- A set with several bytes a character. -/
inductive Multibyte where
  | big5
  | gb18030
  | eucJp
  | iso2022Jp
  | shiftJis
  | eucKr
  deriving DecidableEq

namespace Multibyte

def all : List Multibyte :=
  [big5, gb18030, eucJp, iso2022Jp, shiftJis, eucKr]

/-- The labels of a set; those of smaller sets of Chinese are read as the largest. -/
def labels : Multibyte → List String
  | big5 => ["big5", "big5-hkscs", "cn-big5", "csbig5", "x-x-big5"]
  | gb18030 =>
      ["gb18030", "chinese", "csgb2312", "csiso58gb231280", "gb2312", "gb_2312", "gb_2312-80",
        "gbk", "iso-ir-58", "x-gbk"]
  | eucJp => ["cseucpkdfmtjapanese", "euc-jp", "x-euc-jp"]
  | iso2022Jp => ["csiso2022jp", "iso-2022-jp"]
  | shiftJis =>
      ["csshiftjis", "ms932", "ms_kanji", "shift-jis", "shift_jis", "sjis", "windows-31j", "x-sjis"]
  | eucKr =>
      ["cseuckr", "csksc56011987", "euc-kr", "iso-ir-149", "korean", "ks_c_5601-1987",
        "ks_c_5601-1989", "ksc5601", "ksc_5601", "windows-949"]

def ofLabel? (label : String) : Option Multibyte :=
  all.find? (·.labels.contains label)

def read : Multibyte → List UInt8 → List Char
  | big5 => readBy takeBig5
  | gb18030 => readBy takeGb18030
  | eucJp => readBy takeEucJp
  | iso2022Jp => readDesignated .ascii false
  | shiftJis => readBy takeShiftJis
  | eucKr => readBy takeHangul

end Multibyte

end DepositDirectory.Text
