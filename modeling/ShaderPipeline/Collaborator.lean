import ShaderPipeline.Act
import ShaderPipeline.Uniform.Casts

namespace ShaderPipeline

/-- Handles are numbers of the service's choice. -/
structure Compiler (W : Type) where
  create : (token : Nat) → Act W Int
  setSource : (handle : Int) → Text → Act W Unit
  compile : (handle : Int) → Act W Bool
  infoLog : (handle : Int) → Act W Text
  delete : (handle : Int) → Act W Unit

abbrev Resolver (W : Type) := Text → Act W Text

/-- The texts to be linked; `others` holds those of the later stages that have one. Varyings are
captured only when the program ends with its vertex stage. -/
structure LinkArgs where
  vertex : Text
  others : List (Stage × Text)
  varyings : Option (List Text)
  deriving DecidableEq, Repr

abbrev Context (W P : Type) := LinkArgs → Act W P

/-- What can be done with a linked program; `V` are the values that are passed on as they are. -/
structure Device (W P V : Type) where
  convert : Uniform.Conversion := Uniform.Scalar.casts
  exposes : P → (uniform : Text) → Bool
  write : P → (uniform : Text) → List UInt8 → Act W Unit
  assign : P → (uniform : Text) → V → Act W Unit
  release : P → Act W Unit

end ShaderPipeline
