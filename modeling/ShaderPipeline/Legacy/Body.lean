import ShaderPipeline.Glsl.Declaration
import ShaderPipeline.Settings

namespace ShaderPipeline.Legacy

open Text Glsl

def versionDirective : Text := "#version".toList
def varyingWord : Text := "varying".toList

/-- What the lines so far have established. `output` is the name to be replaced. -/
structure Progress where
  output : Option Text := none
  declared : Bool := false
  inBlock : Bool := false
  deriving DecidableEq, Repr

/-- What becomes of a line; `unnamed` is an output declaration that names nothing. -/
inductive Outcome where
  | keep (line : Text)
  | drop
  | unnamed (declaration : Text)
  deriving DecidableEq, Repr

inductive Layout where
  | comment (staysOpen : Bool)
  | version
  | blank
  | code
  deriving DecidableEq, Repr

def layout (trimmed : Text) : Layout :=
  if (after? versionDirective trimmed).isSome then .version
  else if (after? lineMark trimmed).isSome then .comment false
  else match (after? openMark trimmed).map (cut? closeMark) with
    | some none => .comment true
    | some (some (_, [])) => .comment false
    | _ => if trimmed = [] then .blank else .code

/-- The part of a line of code that stays in the body: declarations of uniforms, attributes and
located inputs do not, for they are written out in the header. -/
def bodyPart? (trimmed : Text) : Option Text :=
  if startsWithWord layoutWord trimmed then
    match pastLayout? trimmed with
    | none => none
    | some rest => if (splitQualifier rest).1 = some .output then some rest else none
  else if startsWithWord attributeWord trimmed || startsWithWord uniformWord trimmed then none
  else some trimmed

def recastCode (stage : Stage) (p : Progress) (line trimmed : Text) :
    Except Fault (Outcome × Progress) :=
  match bodyPart? trimmed with
  | none => .ok (.drop, p)
  | some part =>
    match qualified? part with
    | none => .ok (.keep line, p)
    | some (storage, declaration) =>
      if storage = .output ∧ stage = .fragment then
        if p.declared then .error (.secondOutput part)
        else match variableName? declaration with
          | none => .ok (.unnamed part, { p with declared := true })
          | some name => .ok (.drop, { p with declared := true, output := some name })
      else .ok (.keep (indent line ++ varyingWord ++ declaration), p)

def renameOutput (settings : Settings) (p : Progress) (line : Text) : Except Fault Text :=
  match p.output with
  | none => .ok line
  | some name =>
    match Template.parse settings.outputTemplate with
    | .ok pieces => .ok (replaceWord name (Template.fill name pieces) line)
    | .error flaw => .error (.template flaw)

def recastLine (settings : Settings) (stage : Stage) (p : Progress) (raw : Text) :
    Except Fault (Outcome × Progress) := do
  let line ← renameOutput settings p (trimEnd raw)
  let trimmed := trim line
  if p.inBlock then
    return (.keep line, { p with inBlock := !contains closeMark trimmed })
  else match layout trimmed with
    | .version => return (.drop, p)
    | .comment staysOpen => return (.keep line, { p with inBlock := staysOpen })
    | .blank => return (.keep [], p)
    | .code => recastCode stage p line trimmed

/-- The recast lines, the output declarations that name nothing, and the fault that ended the
work early, if any. -/
structure Body where
  lines : List Text := []
  unnamed : List Text := []
  fault : Option Fault := none
  deriving DecidableEq, Repr

def Body.put : Outcome → Body → Body
  | .keep line, b => { b with lines := line :: b.lines }
  | .drop, b => b
  | .unnamed declaration, b => { b with unnamed := declaration :: b.unnamed }

def recastFrom (settings : Settings) (stage : Stage) (p : Progress) : List Text → Body
  | [] => {}
  | raw :: rest =>
    match recastLine settings stage p raw with
    | .error fault => { fault := some fault }
    | .ok (outcome, p) => (recastFrom settings stage p rest).put outcome

def recast (settings : Settings) (stage : Stage) (lines : List Text) : Body :=
  recastFrom settings stage {} lines

end ShaderPipeline.Legacy
