import ShaderPipeline.Collaborator

namespace ShaderPipeline.OpenGl

open Text

def trueValue : Int := 1
def compileStatus : Int := 35713

/-- A driver may give no log, a text, or bytes that are meant to be UTF-8. -/
inductive Log where
  | missing
  | text (t : Text)
  | bytes (bs : List UInt8)
  deriving DecidableEq, Repr

def Log.read : Log → Text
  | .missing => []
  | .text t => t
  | .bytes bs => Utf8.decodeLoose bs

structure Functions (W : Type) where
  createShader : (token : Nat) → Act W Int
  shaderSource : (handle : Int) → Text → Act W Unit
  compileShader : (handle : Int) → Act W Unit
  getShaderiv : (handle name : Int) → Act W Int
  getShaderInfoLog : (handle : Int) → Act W Log
  deleteShader : (handle : Int) → Act W Unit

def compiler {W : Type} (gl : Functions W) : Compiler W where
  create := gl.createShader
  setSource := gl.shaderSource
  compile handle := do
    gl.compileShader handle
    return (← gl.getShaderiv handle compileStatus) == trueValue
  infoLog handle := do return (← gl.getShaderInfoLog handle).read
  delete := gl.deleteShader

end ShaderPipeline.OpenGl
