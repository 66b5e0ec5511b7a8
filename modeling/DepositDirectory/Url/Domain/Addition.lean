import DepositDirectory.Text.Range

/-!
# Additions

Domains take characters as soon as they are assigned, also those that other texts still show as
escapes.
-/

namespace DepositDirectory.Url.Domain

open Text (Range)

def additionRanges : List Range :=
  [⟨0x558, 0x558⟩, ⟨0x5C8, 0x5C9⟩, ⟨0xB53, 0xB54⟩, ⟨0x1ADE, 0x1ADF⟩, ⟨0x1AEC, 0x1AF0⟩,
   ⟨0x208F, 0x208F⟩, ⟨0x209D, 0x209F⟩, ⟨0x20C2, 0x20C4⟩, ⟨0xA7DD, 0xA7E2⟩, ⟨0xAB6C, 0xAB6C⟩,
   ⟨0x107BB, 0x107BE⟩, ⟨0x10ECB, 0x10ECF⟩, ⟨0x10EF0, 0x10EF9⟩, ⟨0x11B0A, 0x11B0A⟩,
   ⟨0x12475, 0x1247F⟩, ⟨0x12550, 0x12686⟩, ⟨0x16D80, 0x16D9D⟩, ⟨0x16DA0, 0x16DA9⟩,
   ⟨0x18E00, 0x19191⟩, ⟨0x191A0, 0x191D2⟩, ⟨0x1CEF1, 0x1CEFF⟩, ⟨0x1D127, 0x1D128⟩,
   ⟨0x1D6A6, 0x1D6A6⟩, ⟨0x1F1AE, 0x1F1AE⟩, ⟨0x1F6D9, 0x1F6D9⟩, ⟨0x1F7FF, 0x1F7FF⟩,
   ⟨0x1FA8B, 0x1FA8D⟩, ⟨0x1FACB, 0x1FACC⟩, ⟨0x1FADD, 0x1FADD⟩, ⟨0x1FAEB, 0x1FAEB⟩,
   ⟨0x1FAF9, 0x1FAFA⟩, ⟨0x3D000, 0x3FC3F⟩]

/-- Whether a character is one that domains take though it is not shown yet. -/
def isAddition (c : Char) : Bool :=
  Range.anyHolds additionRanges c

end DepositDirectory.Url.Domain
