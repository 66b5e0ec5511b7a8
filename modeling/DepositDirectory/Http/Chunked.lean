import DepositDirectory.Http.Exchange

/-!
# Bodies in chunks

A body whose length is not known ahead comes in chunks.  Each begins with a line that gives its size
in hexadecimal, and ends with an empty line; one of size zero is the last.  Lines may follow it, and
an empty line ends the body.
-/

namespace DepositDirectory.Http.Chunked

def sizeOf (digits : List UInt8) : Nat :=
  digits.foldl (fun size digit => size * 16 + (Url.hexByte? digit).getD 0) 0

def afterLineEnd? : List UInt8 → Option (List UInt8)
  | 0x0D :: 0x0A :: rest => some rest
  | _ => none

def afterSize? (bytes : List UInt8) : Option (List UInt8) :=
  match bytes.dropWhile isHeaderBlank with
  | 0x3B :: rest =>
      let extension := rest.takeWhile (· ≠ 0x0D)
      if extension.contains 0x0A then none else afterLineEnd? (rest.drop extension.length)
  | rest => afterLineEnd? rest

/-- Whether lines and an empty line follow; a carriage return is part of the end of a line only. -/
def endsBody : (allowance : Nat) → List UInt8 → Bool
  | 0, _ => false
  | _, 0x0D :: rest => rest.head? = some 0x0A
  | allowance + 1, bytes =>
      match afterLineEnd? (bytes.dropWhile (· ≠ 0x0D)) with
      | some rest => endsBody allowance rest
      | none => false

def readChunks? : (allowance : Nat) → List UInt8 → Option (List UInt8)
  | 0, _ => none
  | allowance + 1, bytes => do
      let digits := bytes.takeWhile (Url.hexByte? · |>.isSome)
      let size := sizeOf digits
      if digits = [] ∨ Nat.pow 2 64 ≤ size then none
      else
        let rest ← afterSize? (bytes.drop digits.length)
        if size = 0 then if endsBody (rest.length + 1) rest then some [] else none
        else
          let after ← afterLineEnd? (rest.drop size)
          return rest.take size ++ (← readChunks? allowance after)

/-- The body that comes in chunks; none where it breaks off or is no such body. -/
def read? (bytes : List UInt8) : Option (List UInt8) :=
  readChunks? (bytes.length + 1) bytes

end DepositDirectory.Http.Chunked
