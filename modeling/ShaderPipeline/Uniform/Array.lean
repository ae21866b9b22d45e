import ShaderPipeline.Text.Basic
import ShaderPipeline.Uniform.Binary

namespace ShaderPipeline.Uniform

open Text

inductive Element where
  | float
  | int
  | uint
  | double
  deriving DecidableEq, Repr

namespace Element

def name : Element → Text
  | float => "f4".toList
  | int => "i4".toList
  | uint => "u4".toList
  | double => "f8".toList

def unsignedWords : List Text := ["uint".toList, "uvec".toList]

def signedWords : List Text := [
  "int".toList, "ivec".toList, "bool".toList, "bvec".toList, "sampler".toList, "isampler".toList,
  "usampler".toList]

def doubleWords : List Text := ["double".toList, "dvec".toList, "dmat".toList]

/-- By how the name of the type begins; whatever is not known is single precision. -/
def ofType (type : Text) : Element :=
  if unsignedWords.any (·.isPrefixOf type) then uint
  else if signedWords.any (·.isPrefixOf type) then int
  else if doubleWords.any (·.isPrefixOf type) then double
  else float

def width : Element → Nat
  | double => 8
  | _ => 4

end Element

inductive Scalar where
  | whole (n : Int)
  | binary (x : Number)
  deriving DecidableEq, Repr

abbrev Conversion := Element → Scalar → List UInt8

/-- The cells are in row-major order: the last index runs fastest. -/
structure NumberArray where
  shape : List Nat
  cells : List Scalar
  deriving DecidableEq, Repr

namespace NumberArray

def byColumns (rows columns : Nat) (cells : List Scalar) : List Scalar :=
  (List.range columns).flatMap fun j =>
    (List.range rows).filterMap fun i => cells[i * columns + j]?

def stored (a : NumberArray) : List Scalar :=
  match a.shape with
  | [rows, columns] => byColumns rows columns a.cells
  | _ => a.cells

def bytes (convert : Conversion) (e : Element) (a : NumberArray) : List UInt8 :=
  a.stored.flatMap (convert e)

end NumberArray

end ShaderPipeline.Uniform
