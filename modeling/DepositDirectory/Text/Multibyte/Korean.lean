import DepositDirectory.Text.Chart.Uhc
import DepositDirectory.Text.Multibyte.Taken

/-!
# Korean bytes

A character is an ASCII byte or a pair of bytes, with two rows of the chart for each lead byte.
-/

namespace DepositDirectory.Text

def hangulText? (lead trail : UInt8) : Option (List Char) :=
  if isWithin 0x41 0xFE trail then
    (uhc.char? ((lead.toNat - 0x81) * 190 + (trail.toNat - 0x41))).map ([·])
  else none

/-- What is taken at a byte of extended EUC-KR. -/
def takeHangul (byte : UInt8) (rest : List UInt8) : Taken :=
  if byte < 0x80 then .single (asciiChar byte)
  else if isWithin 0x81 0xFE byte then .pair hangulText? byte rest
  else .broken 0

end DepositDirectory.Text
