import ShaderPipeline.Studio.Stages

namespace ShaderPipeline.Studio

open Text Glsl

variable {W P V : Type} (call : Text → Change → Act (Studio W P × W) Unit)

def laterStages : List Stage := [.fragment, .geometry, .tessControl, .tessEvaluation]

/-- What to link: the vertex stage, or the feedback stage where there is none. Without either
there is nothing to run. -/
def linkArgs? (s : Studio W P) : Option LinkArgs :=
  let others := (laterStages.map fun k => (k, (s.shaders.get k).compiledText)).filter (·.2 != [])
  let vertex := s.shaders.get .vertex
  let feedback := s.shaders.get .feedbackVertex
  if !allBlank vertex.code then some ⟨vertex.compiledText, others, none⟩
  else if !allBlank feedback.code then
    some ⟨feedback.compiledText, others, some (outputNames feedback.code)⟩
  else none

def explainLink (text : Text) : Act (Studio W P × W) Unit :=
  (lines text).forM fun line => do
    if !allBlank line then
      let d ← Act.ofExcept (Diagnostic.ofLine line none)
      Act.change fun s => { s with linkDiagnostics := s.linkDiagnostics ++ [d] }

section

variable [Records W]

def linkWith (context : Context W P) (args : LinkArgs) : Act (Studio W P × W) Bool := do
  match ← (Act.outside (context args)).attempt with
  | .ok p =>
    Act.change fun s => { s with program := some p }
    report .debug "Program linked".toList
    return true
  | .error fault =>
    if fault.family = .link then
      explainLink fault.message
      let count := (← Act.own).linkDiagnostics.length
      report .warning ("Program link failed (".toList ++ ofNat count ++ " diagnostic(s))".toList)
      return false
    else throw fault

/-- Compile every stage, then link, unless a program is there already or nothing links. -/
def compileProgram : Act (Studio W P × W) Bool := do
  Act.change fun s => { s with linkDiagnostics := [] }
  let verdicts ← Stage.all.mapM (compile call)
  if verdicts.all id then
    let s ← Act.own
    match s.program, s.context, linkArgs? s with
    | none, some context, some args => linkWith context args
    | _, _, _ => return true
  else return false

def toLegacyPair : Act (Studio W P × W) (Text × Text) := do
  let vertex ← toLegacy .vertex
  let fragment ← toLegacy .fragment
  return (vertex, fragment)

def drain (delete : Int → Act W Unit) (release : P → Act W Unit) :
    Act (Studio W P × W) (List Int) :=
  withBin (Bin.drain (fun handle => Act.outside (delete handle)) (fun p => Act.outside (release p)) 0)

end

/-- The interfaces of all stages as one; of several declarations of a name the first counts. -/
def mergedInterface : Act (Studio W P × W) Interface :=
  Interface.merge <$> Stage.all.mapM interface

inductive Value (V : Type) where
  | numbers (a : Uniform.NumberArray)
  | bytes (bs : List UInt8)
  | other (v : V)

def elementOf (i : Interface) (name : Text) : Uniform.Element :=
  match i.uniforms.find? (·.name == name) with
  | some u => .ofType u.type
  | none => .float

/-- Write a uniform of the linked program; false if there is none of that name. -/
def setUniform (device : Device W P V) (name : Text) (value : Value V) :
    Act (Studio W P × W) Bool := do
  match (← Act.own).program with
  | none => return false
  | some p =>
    if device.exposes p name then
      match value with
      | .numbers a =>
        let i ← mergedInterface
        Act.outside (device.write p name (a.bytes device.convert (elementOf i name)))
      | .bytes bs => Act.outside (device.write p name bs)
      | .other v => Act.outside (device.assign p name v)
      return true
    else return false

def release : Act (Studio W P × W) Unit := do
  Stage.all.forM (reset call)
  retireProgram

end ShaderPipeline.Studio
