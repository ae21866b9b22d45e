import ShaderPipeline.Command.Arguments

namespace ShaderPipeline.Command

open Text

/-- An empty stage or output counts as none. -/
inductive Task where
  | scan (file : Text)
  | convert (file : Text) (stage output : Option Text)
  deriving DecidableEq, Repr

structure Plan where
  verbose : Bool
  task : Task
  deriving DecidableEq, Repr

def helpSwitch : Switch := ⟨["-h".toList, "--help".toList], .help⟩
def verboseSwitch : Switch := ⟨["-v".toList, "--verbose".toList], .flag⟩
def stageSwitch : Switch := ⟨["--stage".toList], .value⟩
def outputSwitch : Switch := ⟨["-o".toList, "--output".toList], .value⟩

def mainGrammar : Grammar :=
  ⟨"shaderlab".toList, [helpSwitch, verboseSwitch], "command".toList, true⟩

def scanGrammar : Grammar := ⟨"shaderlab scan".toList, [helpSwitch], "file".toList, false⟩

def convertGrammar : Grammar :=
  ⟨"shaderlab webgl".toList, [helpSwitch, stageSwitch, outputSwitch], "file".toList, false⟩

def Parsed.value? (p : Parsed) (s : Switch) : Option Text :=
  match (p.switches.reverse.lookup s).join with
  | some [] => none
  | found => found

def Parsed.file (p : Parsed) : Text := (p.positional.bind List.head?).getD []

def unknownCommand (name : Text) : Usage :=
  .wrong mainGrammar.program ("argument command: invalid choice: ".toList ++ quoted name
    ++ " (choose from 'scan', 'webgl')".toList)

def taskOf : List Text → Except Usage (Task × List Text)
  | [] => .error (unknownCommand [])
  | name :: args =>
    if name = "scan".toList then do
      let p ← scanGrammar.parse args
      return (.scan p.file, p.extras)
    else if name = "webgl".toList then do
      let p ← convertGrammar.parse args
      return (.convert p.file (p.value? stageSwitch) (p.value? outputSwitch), p.extras)
    else .error (unknownCommand name)

def Plan.ofArgs (args : List Text) : Except Usage Plan := do
  let p ← mainGrammar.parse args
  let (task, more) ← taskOf (p.positional.getD [])
  let extras := p.extras ++ more
  if extras = [] then return ⟨p.switches.any (·.1 == verboseSwitch), task⟩
  else .error (.wrong mainGrammar.program
    ("unrecognized arguments: ".toList ++ joined [' '] extras))

end ShaderPipeline.Command
