import ShaderPipeline.Uniform.Array

namespace ShaderPipeline.Uniform

def littleEndian : (width : Nat) → Nat → List UInt8
  | 0, _ => []
  | width + 1, n => UInt8.ofNat (n % 256) :: littleEndian width (n / 256)

namespace Scalar

def toNumber : Scalar → Number
  | whole n => .ofInt n
  | binary x => x

def wrapped (width : Nat) (n : Int) : Nat := (n % (Nat.pow 2 width : Nat)).toNat

/-- The bits of a number cast to a whole number of `width` bits; what does not fit becomes the least
number of that width. -/
def cast (width : Nat) (x : Number) : Nat :=
  let half : Int := (Nat.pow 2 (width - 1) : Nat)
  match x.whole? with
  | some n => wrapped width (if -half ≤ n ∧ n < half then n else -half)
  | none => wrapped width (-half)

/-- Casts to unsigned elements go by way of 64 bits. -/
def bits : Element → Scalar → Nat
  | .float, s => Format.single.encode s.toNumber
  | .double, s => Format.double.encode s.toNumber
  | .int, whole n => wrapped 32 n
  | .int, binary x => cast 32 x
  | .uint, whole n => wrapped 32 n
  | .uint, binary x => cast 64 x % Nat.pow 2 32

def casts : Conversion := fun e s => littleEndian e.width (s.bits e)

end Scalar

end ShaderPipeline.Uniform
