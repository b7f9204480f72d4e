/-!
# Binary floating-point numbers

A floating-point number is kept as its bits: a sign, an exponent and a fraction. What a conversion
needs of it is exact arithmetic: `Format.ofRatio` gives the bits of the number nearest to a fraction
of natural numbers, and of two that are equally near the one with the even last bit.
-/

namespace FramedAvro.BinaryFloat

/-- How many bits the fraction and the exponent have. -/
structure Format where
  fractionBits : Nat
  exponentBits : Nat
deriving DecidableEq, Repr

/-- Numbers in 32 bits. -/
def single : Format := ⟨23, 8⟩

/-- Numbers in 64 bits. -/
def double : Format := ⟨52, 11⟩

/-- The integer power of two as a fraction. -/
def powerOfTwo (e : Int) : Nat × Nat :=
  if 0 ≤ e then (1 <<< e.toNat, 1) else (1, 1 <<< (-e).toNat)

/-- The quotient rounded to the nearest natural number, a half to the even neighbour. -/
def roundQuotient (num den : Nat) : Nat :=
  let quotient := num / den
  let twice := 2 * (num % den)
  if twice < den then quotient
  else if den < twice then quotient + 1
  else if quotient % 2 = 0 then quotient
  else quotient + 1

/-- The largest power of two that does not exceed a positive fraction. -/
def floorLog (num den : Nat) : Int :=
  let guess : Int := (num.log2 : Int) - (den.log2 : Int)
  let (n, d) := powerOfTwo guess
  if den * n ≤ num * d then guess else guess - 1

namespace Format

/-- The weight of the last bit of the smallest numbers, as a power of two. -/
def leastUnit (format : Format) : Int :=
  2 - ((1 <<< (format.exponentBits - 1) : Nat) : Int) - (format.fractionBits : Int)

/-- The bits of infinity, which are also the first that belong to no finite number. -/
def infinity (format : Format) : Nat :=
  ((1 <<< format.exponentBits) - 1) <<< format.fractionBits

/-- The bit of the sign. -/
def signBit (format : Format) : Nat :=
  1 <<< (format.exponentBits + format.fractionBits)

/-- The sign in front of the other bits. -/
def signed (format : Format) (negative : Bool) (bits : Nat) : Nat :=
  if negative then format.signBit + bits else bits

/-- The bits of the number nearest to a fraction. -/
def ofRatio (format : Format) (negative : Bool) (num den : Nat) : Nat :=
  if num = 0 then format.signed negative 0
  else
    let unit := max format.leastUnit (floorLog num den - format.fractionBits)
    let (n, d) := powerOfTwo unit
    let significand := roundQuotient (num * d) (den * n)
    let bits := ((unit - format.leastUnit).toNat <<< format.fractionBits) + significand
    format.signed negative (min bits format.infinity)

/-- The bits of the number nearest to an integer. -/
def ofInt (format : Format) (i : Int) : Nat :=
  format.ofRatio (decide (i < 0)) i.natAbs 1

/-- Whether the sign is negative. -/
def isNegative (format : Format) (bits : Nat) : Bool :=
  format.signBit ≤ bits

/-- The bits after the sign. -/
def magnitude (format : Format) (bits : Nat) : Nat :=
  bits % format.signBit

/-- The bits of a number of one format in another: those of the nearest number, and for what is not
a number those that are left of the fraction, of which the first is set. In its own format a number
keeps its bits. -/
def convert (source target : Format) (bits : Nat) : Nat :=
  let rest := source.magnitude bits
  let negative := source.isNegative bits
  if source = target then bits
  else if rest < source.infinity then
    let biased := rest >>> source.fractionBits
    let fraction := rest % (1 <<< source.fractionBits)
    let significand := if biased = 0 then fraction else fraction + (1 <<< source.fractionBits)
    let (n, d) := powerOfTwo (source.leastUnit + ((biased - 1 : Nat) : Int))
    target.ofRatio negative (significand * n) d
  else if rest = source.infinity then target.signed negative target.infinity
  else
    let payload := rest - source.infinity
    let moved := (payload <<< target.fractionBits) >>> source.fractionBits
    let quiet := 1 <<< (target.fractionBits - 1)
    let moved := if moved < quiet then moved + quiet else moved
    target.signed negative (target.infinity + moved)

/-- The bits of a number that is none. -/
def notANumber (format : Format) : Nat :=
  format.infinity + (1 <<< (format.fractionBits - 1))

/-- Digits that stand more than this many places before or after the point make a number of any of
the formats infinite or zero. -/
def farthestPlace : Int := 400

/-- The bits of the number nearest to `digits * 10 ^ exponent`. -/
def ofDecimal (format : Format) (negative : Bool) (digits : Nat) (exponent : Int) : Nat :=
  let leading : Int := exponent + (Nat.toDigits 10 digits).length
  if digits = 0 then format.signed negative 0
  else if farthestPlace < leading then format.signed negative format.infinity
  else if leading < -farthestPlace then format.signed negative 0
  else if 0 ≤ exponent then format.ofRatio negative (digits * Nat.pow 10 exponent.toNat) 1
  else format.ofRatio negative digits (Nat.pow 10 (-exponent).toNat)

end Format

end FramedAvro.BinaryFloat
