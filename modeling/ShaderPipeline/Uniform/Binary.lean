namespace ShaderPipeline.Uniform

/-- `precision` counts the significant bits, the leading one among them. -/
structure Format where
  precision : Nat
  exponentBits : Nat
  deriving DecidableEq, Repr

namespace Format

def single : Format := ⟨24, 8⟩
def double : Format := ⟨53, 11⟩

def bias (f : Format) : Nat := Nat.pow 2 (f.exponentBits - 1) - 1

def leastPlace (f : Format) : Nat := f.bias + f.precision - 2

def infinity (f : Format) : Nat := (Nat.pow 2 f.exponentBits - 1) * Nat.pow 2 (f.precision - 1)

def nan (f : Format) : Nat := f.infinity + Nat.pow 2 (f.precision - 2)

def signBit (f : Format) : Nat := Nat.pow 2 (f.precision - 1 + f.exponentBits)

end Format

/-- A finite number is a sign and a quotient of natural numbers, so that it can be written in any
format with one rounding. -/
inductive Number where
  | nan
  | infinite (negative : Bool)
  | finite (negative : Bool) (num den : Nat)
  deriving DecidableEq, Repr

def roundHalfEven (num den : Nat) : Nat :=
  let q := num / den
  if 2 * (num % den) < den ∨ (2 * (num % den) = den ∧ q % 2 = 0) then q else q + 1

def scaled (num den : Nat) (k : Int) : Nat × Nat :=
  (num * Nat.pow 2 k.toNat, den * Nat.pow 2 (-k).toNat)

def floorLog2 (num den : Nat) : Int :=
  let guess : Int := (Nat.log2 num : Int) - Nat.log2 den
  let (n, d) := scaled num den (-guess)
  if d ≤ n then guess else guess - 1

namespace Format

/-- Rounding up to the next power of two carries into the exponent, and past the largest finite
number gives infinity. -/
def ofQuotient (f : Format) (num den : Nat) : Nat :=
  if num = 0 then 0
  else
    let place : Int := max (floorLog2 num den - (f.precision - 1)) (-f.leastPlace)
    let (n, d) := scaled num den (-place)
    min f.infinity ((place + f.leastPlace).toNat * Nat.pow 2 (f.precision - 1) + roundHalfEven n d)

def withSign (f : Format) (negative : Bool) (bits : Nat) : Nat :=
  if negative then f.signBit + bits else bits

def encode (f : Format) : Number → Nat
  | .nan => f.nan
  | .infinite negative => f.withSign negative f.infinity
  | .finite negative num den => f.withSign negative (f.ofQuotient num den)

def decode (f : Format) (bits : Nat) : Number :=
  let negative := decide (f.signBit ≤ bits)
  let magnitude := bits % f.signBit
  if f.infinity < magnitude then .nan
  else if magnitude = f.infinity then .infinite negative
  else
    let unit := Nat.pow 2 (f.precision - 1)
    let exponent := magnitude / unit
    let mantissa := if exponent = 0 then magnitude else magnitude % unit + unit
    let (num, den) := scaled mantissa 1 ((max exponent 1 : Nat) - 1 - (f.leastPlace : Int))
    .finite negative num den

end Format

namespace Number

def ofInt (n : Int) : Number := .finite (n < 0) n.natAbs 1

def ofDecimal (negative : Bool) (digits : Nat) (exponent : Int) : Number :=
  .finite negative (digits * Nat.pow 10 exponent.toNat) (Nat.pow 10 (-exponent).toNat)

def round (f : Format) (x : Number) : Number := f.decode (f.encode x)

def whole? : Number → Option Int
  | .finite negative num den =>
    some (if negative then -((num / den : Nat) : Int) else (num / den : Nat))
  | _ => none

/-- The whole part of a number that is finite. -/
def truncate (x : Number) : Int := x.whole?.getD 0

end Number

end ShaderPipeline.Uniform
