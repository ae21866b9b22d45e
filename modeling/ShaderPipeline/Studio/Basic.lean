import ShaderPipeline.Bin
import ShaderPipeline.Channel
import ShaderPipeline.Collaborator
import ShaderPipeline.Diagnostic
import ShaderPipeline.Glsl.Declaration
import ShaderPipeline.Settings

namespace ShaderPipeline

open Text Glsl

inductive Property where
  | code
  | handle
  deriving DecidableEq, Repr

structure Change where
  stage : Stage
  property : Property
  deriving DecidableEq, Repr

/-- One stage. The handle is zero while it is not compiled, `compiledText` is what was handed to
the compiler for the handle, `verdict` the outcome of the last attempt on this code, and `scanned`
the interface found last with the text it was found in. -/
structure Shader (W : Type) where
  code : Text := []
  handle : Int := 0
  compiledText : Text := []
  diagnostics : List Diagnostic := []
  verdict : Option Bool := none
  scanned : Option (Text × Interface) := none
  compiler : Option (Compiler W) := none
  resolver : Option (Resolver W) := none
  settings : Settings := {}
  channel : Channel Change := {}

structure Studio (W P : Type) where
  shaders : PerStage (Shader W) := .all {}
  bin : Bin P := {}
  program : Option P := none
  linkDiagnostics : List Diagnostic := []
  context : Option (Context W P) := none

namespace Studio

variable {W P α : Type}

def updateShader (k : Stage) (f : Shader W → Shader W) (s : Studio W P) : Studio W P :=
  { s with shaders := s.shaders.update k f }

def diagnostics (s : Studio W P) : List Diagnostic :=
  Stage.all.flatMap (fun k => (s.shaders.get k).diagnostics) ++ s.linkDiagnostics

def diagnosticsFor (k : Stage) (s : Studio W P) : List Diagnostic :=
  s.diagnostics.filter (·.stage == some k)

def shader (k : Stage) : Act (Studio W P × W) (Shader W) := do
  return (← Act.own).shaders.get k

def changeShader (k : Stage) (f : Shader W → Shader W) : Act (Studio W P × W) Unit :=
  Act.change (updateShader k f)

def withBin (a : Act (Bin P × W) α) : Act (Studio W P × W) α :=
  a.within (fun s => (s.1.bin, s.2)) fun b s => ({ s.1 with bin := b.1 }, b.2)

end Studio

end ShaderPipeline
