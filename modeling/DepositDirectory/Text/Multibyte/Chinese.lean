import DepositDirectory.Text.Chart.Big5
import DepositDirectory.Text.Chart.Gbk
import DepositDirectory.Text.Multibyte.Taken

/-!
# Chinese bytes

Big5 has a pair of bytes for each character of its chart.  GB 18030 has pairs for those of GBK, and
four bytes for every other code point, of which the second and the fourth are digits.
-/

namespace DepositDirectory.Text

/-! ## Big5 -/

def big5Text? (lead trail : UInt8) : Option (List Char) :=
  if isWithin 0x40 0x7E trail || isWithin 0xA1 0xFE trail then
    let place :=
      (lead.toNat - 0x81) * 157 + (trail.toNat - if trail < 0x7F then 0x40 else 0x62)
    match place with
    | 1133 => some ['Ê', '\u0304']
    | 1135 => some ['Ê', '\u030C']
    | 1164 => some ['ê', '\u0304']
    | 1166 => some ['ê', '\u030C']
    | place => (big5.char? place).map ([·])
  else none

def takeBig5 (byte : UInt8) (rest : List UInt8) : Taken :=
  if byte < 0x80 then .single (asciiChar byte)
  else if isWithin 0x81 0xFE byte then .pair big5Text? byte rest
  else .broken 0

/-! ## GB 18030 -/

/--
The code points of four bytes.  They follow those that have pairs, in order, but for one at place
7457, which changed places with the sign that has its pair now.
-/
def quadruples : List Run :=
  [⟨0, 35, 0x80⟩, ⟨36, 37, 0xA5⟩, ⟨38, 44, 0xA9⟩, ⟨45, 49, 0xB2⟩, ⟨50, 80, 0xB8⟩, ⟨81, 88, 0xD8⟩,
   ⟨89, 94, 0xE2⟩, ⟨95, 95, 0xEB⟩, ⟨96, 99, 0xEE⟩, ⟨100, 102, 0xF4⟩, ⟨103, 103, 0xF8⟩,
   ⟨104, 104, 0xFB⟩, ⟨105, 108, 0xFD⟩, ⟨109, 125, 0x102⟩, ⟨126, 132, 0x114⟩, ⟨133, 147, 0x11C⟩,
   ⟨148, 171, 0x12C⟩, ⟨172, 174, 0x145⟩, ⟨175, 178, 0x149⟩, ⟨179, 207, 0x14E⟩, ⟨208, 305, 0x16C⟩,
   ⟨306, 306, 0x1CF⟩, ⟨307, 307, 0x1D1⟩, ⟨308, 308, 0x1D3⟩, ⟨309, 309, 0x1D5⟩, ⟨310, 310, 0x1D7⟩,
   ⟨311, 311, 0x1D9⟩, ⟨312, 312, 0x1DB⟩, ⟨313, 340, 0x1DD⟩, ⟨341, 427, 0x1FA⟩, ⟨428, 442, 0x252⟩,
   ⟨443, 543, 0x262⟩, ⟨544, 544, 0x2C8⟩, ⟨545, 557, 0x2CC⟩, ⟨558, 740, 0x2DA⟩, ⟨741, 741, 0x3A2⟩,
   ⟨742, 748, 0x3AA⟩, ⟨749, 749, 0x3C2⟩, ⟨750, 804, 0x3CA⟩, ⟨805, 818, 0x402⟩, ⟨819, 819, 0x450⟩,
   ⟨820, 7456, 0x452⟩, ⟨7457, 7457, 0xE7C7⟩, ⟨7458, 7921, 0x1E40⟩, ⟨7922, 7923, 0x2011⟩,
   ⟨7924, 7924, 0x2017⟩, ⟨7925, 7926, 0x201A⟩, ⟨7927, 7933, 0x201E⟩, ⟨7934, 7942, 0x2027⟩,
   ⟨7943, 7943, 0x2031⟩, ⟨7944, 7944, 0x2034⟩, ⟨7945, 7949, 0x2036⟩, ⟨7950, 8061, 0x203C⟩,
   ⟨8062, 8147, 0x20AD⟩, ⟨8148, 8148, 0x2104⟩, ⟨8149, 8151, 0x2106⟩, ⟨8152, 8163, 0x210A⟩,
   ⟨8164, 8173, 0x2117⟩, ⟨8174, 8235, 0x2122⟩, ⟨8236, 8239, 0x216C⟩, ⟨8240, 8261, 0x217A⟩,
   ⟨8262, 8263, 0x2194⟩, ⟨8264, 8373, 0x219A⟩, ⟨8374, 8379, 0x2209⟩, ⟨8380, 8380, 0x2210⟩,
   ⟨8381, 8383, 0x2212⟩, ⟨8384, 8387, 0x2216⟩, ⟨8388, 8389, 0x221B⟩, ⟨8390, 8391, 0x2221⟩,
   ⟨8392, 8392, 0x2224⟩, ⟨8393, 8393, 0x2226⟩, ⟨8394, 8395, 0x222C⟩, ⟨8396, 8400, 0x222F⟩,
   ⟨8401, 8405, 0x2238⟩, ⟨8406, 8415, 0x223E⟩, ⟨8416, 8418, 0x2249⟩, ⟨8419, 8423, 0x224D⟩,
   ⟨8424, 8436, 0x2253⟩, ⟨8437, 8438, 0x2262⟩, ⟨8439, 8444, 0x2268⟩, ⟨8445, 8481, 0x2270⟩,
   ⟨8482, 8484, 0x2296⟩, ⟨8485, 8495, 0x229A⟩, ⟨8496, 8520, 0x22A6⟩, ⟨8521, 8602, 0x22C0⟩,
   ⟨8603, 8935, 0x2313⟩, ⟨8936, 8945, 0x246A⟩, ⟨8946, 9045, 0x249C⟩, ⟨9046, 9049, 0x254C⟩,
   ⟨9050, 9062, 0x2574⟩, ⟨9063, 9065, 0x2590⟩, ⟨9066, 9075, 0x2596⟩, ⟨9076, 9091, 0x25A2⟩,
   ⟨9092, 9099, 0x25B4⟩, ⟨9100, 9107, 0x25BE⟩, ⟨9108, 9110, 0x25C8⟩, ⟨9111, 9112, 0x25CC⟩,
   ⟨9113, 9130, 0x25D0⟩, ⟨9131, 9161, 0x25E6⟩, ⟨9162, 9163, 0x2607⟩, ⟨9164, 9217, 0x260A⟩,
   ⟨9218, 9218, 0x2641⟩, ⟨9219, 11328, 0x2643⟩, ⟨11329, 11330, 0x2E82⟩, ⟨11331, 11333, 0x2E85⟩,
   ⟨11334, 11335, 0x2E89⟩, ⟨11336, 11345, 0x2E8D⟩, ⟨11346, 11360, 0x2E98⟩, ⟨11361, 11362, 0x2EA8⟩,
   ⟨11363, 11365, 0x2EAB⟩, ⟨11366, 11369, 0x2EAF⟩, ⟨11370, 11371, 0x2EB4⟩, ⟨11372, 11374, 0x2EB8⟩,
   ⟨11375, 11388, 0x2EBC⟩, ⟨11389, 11681, 0x2ECB⟩, ⟨11682, 11685, 0x2FFC⟩, ⟨11686, 11686, 0x3004⟩,
   ⟨11687, 11691, 0x3018⟩, ⟨11692, 11693, 0x301F⟩, ⟨11694, 11713, 0x302A⟩, ⟨11714, 11715, 0x303F⟩,
   ⟨11716, 11722, 0x3094⟩, ⟨11723, 11724, 0x309F⟩, ⟨11725, 11729, 0x30F7⟩, ⟨11730, 11735, 0x30FF⟩,
   ⟨11736, 11981, 0x312A⟩, ⟨11982, 11988, 0x322A⟩, ⟨11989, 12101, 0x3232⟩, ⟨12102, 12335, 0x32A4⟩,
   ⟨12336, 12347, 0x3390⟩, ⟨12348, 12349, 0x339F⟩, ⟨12350, 12383, 0x33A2⟩, ⟨12384, 12392, 0x33C5⟩,
   ⟨12393, 12394, 0x33CF⟩, ⟨12395, 12396, 0x33D3⟩, ⟨12397, 12509, 0x33D6⟩, ⟨12510, 12552, 0x3448⟩,
   ⟨12553, 12850, 0x3474⟩, ⟨12851, 12961, 0x359F⟩, ⟨12962, 12972, 0x360F⟩, ⟨12973, 13737, 0x361B⟩,
   ⟨13738, 13822, 0x3919⟩, ⟨13823, 13918, 0x396F⟩, ⟨13919, 13932, 0x39D1⟩, ⟨13933, 14079, 0x39E0⟩,
   ⟨14080, 14297, 0x3A74⟩, ⟨14298, 14584, 0x3B4F⟩, ⟨14585, 14697, 0x3C6F⟩, ⟨14698, 15582, 0x3CE1⟩,
   ⟨15583, 15846, 0x4057⟩, ⟨15847, 16317, 0x4160⟩, ⟨16318, 16433, 0x4338⟩, ⟨16434, 16437, 0x43AD⟩,
   ⟨16438, 16480, 0x43B2⟩, ⟨16481, 16728, 0x43DE⟩, ⟨16729, 17101, 0x44D7⟩, ⟨17102, 17121, 0x464D⟩,
   ⟨17122, 17314, 0x4662⟩, ⟨17315, 17319, 0x4724⟩, ⟨17320, 17401, 0x472A⟩, ⟨17402, 17417, 0x477D⟩,
   ⟨17418, 17858, 0x478E⟩, ⟨17859, 17908, 0x4948⟩, ⟨17909, 17910, 0x497B⟩, ⟨17911, 17914, 0x497E⟩,
   ⟨17915, 17915, 0x4984⟩, ⟨17916, 17935, 0x4987⟩, ⟨17936, 17938, 0x499C⟩, ⟨17939, 17960, 0x49A0⟩,
   ⟨17961, 18663, 0x49B8⟩, ⟨18664, 18702, 0x4C78⟩, ⟨18703, 18813, 0x4CA4⟩, ⟨18814, 18961, 0x4D1A⟩,
   ⟨18962, 19042, 0x4DAF⟩, ⟨19043, 33468, 0x9FA6⟩, ⟨33469, 33469, 0xE76C⟩, ⟨33470, 33470, 0xE7C8⟩,
   ⟨33471, 33483, 0xE7E7⟩, ⟨33484, 33484, 0xE815⟩, ⟨33485, 33489, 0xE819⟩, ⟨33490, 33496, 0xE81F⟩,
   ⟨33497, 33500, 0xE827⟩, ⟨33501, 33504, 0xE82D⟩, ⟨33505, 33512, 0xE833⟩, ⟨33513, 33519, 0xE83C⟩,
   ⟨33520, 33535, 0xE844⟩, ⟨33536, 33549, 0xE856⟩, ⟨33550, 37844, 0xE865⟩, ⟨37845, 37920, 0xF92D⟩,
   ⟨37921, 37947, 0xF97A⟩, ⟨37948, 38028, 0xF996⟩, ⟨38029, 38037, 0xF9E8⟩, ⟨38038, 38063, 0xF9F2⟩,
   ⟨38064, 38064, 0xFA10⟩, ⟨38065, 38065, 0xFA12⟩, ⟨38066, 38068, 0xFA15⟩, ⟨38069, 38074, 0xFA19⟩,
   ⟨38075, 38075, 0xFA22⟩, ⟨38076, 38077, 0xFA25⟩, ⟨38078, 39107, 0xFA2A⟩, ⟨39108, 39108, 0xFE32⟩,
   ⟨39109, 39112, 0xFE45⟩, ⟨39113, 39113, 0xFE53⟩, ⟨39114, 39114, 0xFE58⟩, ⟨39115, 39115, 0xFE67⟩,
   ⟨39116, 39264, 0xFE6C⟩, ⟨39265, 39393, 0xFF5F⟩, ⟨39394, 39419, 0xFFE6⟩,
   ⟨189000, 1237575, 0x10000⟩]

def gbkText? (lead trail : UInt8) : Option (List Char) :=
  if isWithin 0x40 0x7E trail || isWithin 0x80 0xFE trail then
    let place :=
      (lead.toNat - 0x81) * 190 + (trail.toNat - if trail < 0x7F then 0x40 else 0x41)
    (gbk.char? place).map ([·])
  else none

def quadruple? (first second third fourth : UInt8) : Option Char :=
  Run.char? quadruples
    ((((first.toNat - 0x81) * 10 + (second.toNat - 0x30)) * 126 + (third.toNat - 0x81)) * 10 +
      (fourth.toNat - 0x30))

/-- What is taken at two bytes that begin four; if these are not four, only the first is taken. -/
def takeQuadruple (first second : UInt8) : List UInt8 → Taken
  | [] => .broken 1
  | [third] => .broken (if isWithin 0x81 0xFE third then 2 else 0)
  | third :: fourth :: _ =>
      if isWithin 0x81 0xFE third && isWithin 0x30 0x39 fourth then
        ⟨[(quadruple? first second third fourth).getD replacement], 3⟩
      else .broken 0

def takeGb18030 (byte : UInt8) (rest : List UInt8) : Taken :=
  if byte < 0x80 then .single (asciiChar byte)
  else if byte = 0x80 then .single '€'
  else if byte = 0xFF then .broken 0
  else
    match rest with
    | second :: after =>
        if isWithin 0x30 0x39 second then takeQuadruple byte second after
        else .pair gbkText? byte rest
    | [] => .broken 0

end DepositDirectory.Text
