/-!
# Shortest decimal text of a binary fraction

A double stands for the reals that round to it: the interval between the midpoints to its
neighbours.  The shortest decimal is the one with the fewest digits in that interval and, of those,
the nearest to the double.  Everything is decided in exact arithmetic on the mantissa and the
exponent.
-/

namespace DepositDirectory.Decimal

/-- A positive double `mantissa · 2 ^ exponent`; at a power of two the gap below is half as wide. -/
structure Binary where
  mantissa : Nat
  exponent : Int
  lowGapHalved : Bool

structure Scaled where
  digits : Nat
  exponent : Int
  deriving DecidableEq

def Binary.ofBits (bits : Nat) : Binary :=
  let field : Nat := bits / Nat.pow 2 52 % 2048
  let low : Nat := bits % Nat.pow 2 52
  if field = 0 then ⟨low, -1074, false⟩
  else ⟨Nat.pow 2 52 + low, (field : Int) - 1075, low = 0 && 1 < field⟩

namespace Binary

def powerAbove (base : Nat) (exponent : Int) : Nat := base.pow exponent.toNat

def powerBelow (base : Nat) (exponent : Int) : Nat := base.pow (-exponent).toNat

def inUnits (x : Binary) (quarters : Nat) (scale : Int) : Nat × Nat :=
  (quarters * powerAbove 2 x.exponent * powerBelow 10 scale,
    4 * powerBelow 2 x.exponent * powerAbove 10 scale)

/--
Whether `candidate · 10 ^ scale` rounds to the double; the ends count when the mantissa is even.
-/
def holds (x : Binary) (candidate : Nat) (scale : Int) : Bool :=
  let (low, bar) := x.inUnits (4 * x.mantissa - (if x.lowGapHalved then 1 else 2)) scale
  let (high, _) := x.inUnits (4 * x.mantissa + 2) scale
  if x.mantissa % 2 = 0 then low ≤ candidate * bar && candidate * bar ≤ high
  else low < candidate * bar && candidate * bar < high

def onGrid? (x : Binary) (scale : Int) : Option Scaled :=
  let (value, bar) := x.inUnits (4 * x.mantissa) scale
  let below := value / bar
  let aboveNearer := value % bar * 2 > bar || (value % bar * 2 = bar && below % 2 = 1)
  match x.holds below scale, x.holds (below + 1) scale with
  | true, true => some ⟨if aboveNearer then below + 1 else below, scale⟩
  | true, false => some ⟨below, scale⟩
  | false, true => some ⟨below + 1, scale⟩
  | false, false => none

def searchGrids (x : Binary) : Nat → Int → Scaled
  | 0, scale => ⟨0, scale⟩
  | steps + 1, scale =>
      match x.onGrid? scale with
      | some found => found
      | none => searchGrids x steps (scale - 1)

/-- The shortest decimal; the search starts on a grid wider than any double. -/
def shortest (x : Binary) : Scaled :=
  x.searchGrids 700 309

end Binary

def zeros (count : Nat) : String :=
  String.ofList (List.replicate count '0')

/--
The text of a decimal that is not zero.  Positional from `0.00001` up to sixteen places before the
point, with a `.0` where no fraction is left; else one digit before the point and an exponent with
its sign.
-/
def Scaled.text (d : Scaled) : String :=
  let digits := d.digits.repr
  let leading : Int := d.exponent + digits.length - 1
  if leading < -5 || 15 < leading then
    let fraction := (digits.drop 1).toString
    let mantissa := (digits.take 1).toString ++ (if fraction = "" then "" else "." ++ fraction)
    mantissa ++ "e" ++ (if leading < 0 then "-" else "+") ++ leading.natAbs.repr
  else if 0 ≤ d.exponent then
    digits ++ zeros d.exponent.toNat ++ ".0"
  else if leading < 0 then
    "0." ++ zeros (-leading - 1).toNat ++ digits
  else
    (digits.take (leading + 1).toNat).toString ++ "." ++ (digits.drop (leading + 1).toNat).toString

def floatText (x : Float) : String :=
  let bits := x.toBits.toNat
  let sign := if bits / Nat.pow 2 63 = 1 then "-" else ""
  let magnitude := bits % Nat.pow 2 63
  if magnitude = 0 then sign ++ "0.0"
  else sign ++ (Binary.ofBits magnitude).shortest.text

end DepositDirectory.Decimal
