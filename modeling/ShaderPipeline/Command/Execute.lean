import ShaderPipeline.Command.Host
import ShaderPipeline.Command.Path
import ShaderPipeline.Command.Plan
import ShaderPipeline.Legacy.Expand

namespace ShaderPipeline.Command

open Text Glsl

variable {W : Type}

/-- Carriage returns, alone or before a line feed, end a line too. -/
def unixLines : Text → Text
  | [] => []
  | '\r' :: '\n' :: t => '\n' :: unixLines t
  | c :: t => (if c = '\r' then '\n' else c) :: unixLines t

def checkedPath (path : Text) : Program W Text :=
  if path.elem '\x00' then throw .nullInPath else return Path.normal path

def readText (path : Text) : Program W Text := do
  let bytes ← ask (.readFile (← checkedPath path))
  match Utf8.decode bytes with
  | .ok t => return unixLines t
  | .error flaw => throw (.undecodable flaw)

def writeText (path text : Text) : Program W Unit := do
  ask (.writeFile (← checkedPath path) (Utf8.encode text))

def printLine (line : Text) : Program W Unit := ask (.print (line ++ ['\n']))

def uniformReport (u : Uniform) : Text :=
  "uniform    ".toList ++ u.type ++ ' ' :: u.name
    ++ if u.length = 0 then [] else '[' :: ofNat u.length ++ [']']

def attributeReport (a : Attribute) : Text :=
  "attribute  ".toList ++ a.type ++ ' ' :: a.name ++ " @".toList
    ++ match a.location with
      | none => ['-']
      | some location => ofNat location

def scanFile (file : Text) : Program W Unit := do
  let i ← MonadExcept.ofExcept (scan (← readText file))
  i.uniforms.forM fun u => printLine (uniformReport u)
  i.attributes.forM fun a => printLine (attributeReport a)

def stageFor (file : Text) (spoken : Option Text) : Except Fault Stage :=
  match spoken with
  | some spoken =>
    match Stage.ofName spoken with
    | .ok stage => .ok stage
    | .error _ => .error (.unknownStageOption spoken)
  | none =>
    match Stage.ofPath? file with
    | some stage => .ok stage
    | none => .error (.unclearStage file)

def convertFile (file : Text) (spoken output : Option Text) : Program W Unit := do
  let settings : Settings := {}
  let stage ← MonadExcept.ofExcept (stageFor file spoken)
  let code ← readText file
  let expand := Glslify.resolver (fun command input => ask (.run command input)) settings.expander
  let text ← Legacy.convertAndExpand settings stage none (some expand) code
  match output with
  | some path =>
    writeText path (text ++ ['\n'])
    note .info ("Wrote ".toList ++ path)
  | none => printLine text

def perform : Task → Program W Unit
  | .scan file => scanFile file
  | .convert file stage output => convertFile file stage output

def statusFor : Family → Option Nat
  | .operation => some 2
  | .expansion => some 2
  | .general => some 2
  | .system => some 1
  | _ => none

/-- Faults of shaders and files are reported, all others end the program. -/
def reported (fault : Fault) : Program W Nat :=
  match statusFor fault.family with
  | some status => do
    note .error fault.message
    return status
  | none => throw fault

inductive Ending where
  | misused (u : Usage)
  | exit (status : Nat)
  deriving DecidableEq, Repr

def execute (args : List Text) : Program W Ending :=
  match Plan.ofArgs args with
  | .error u => return .misused u
  | .ok plan => do
    ask (.logFrom (if plan.verbose then .debug else .info))
    let status ← tryCatch (do perform plan.task; return 0) reported
    return .exit status

end ShaderPipeline.Command
