import ShaderPipeline.Command.Execute

namespace ShaderPipeline.Command

open Text

def string (t : Text) : String := String.ofList t

/-- The code for a component that is no folder; some calls give it negated. -/
def isNotDirectoryCode (code : UInt32) : Bool := code == 20 || code == 0 - 20

def fileFault (path : Text) : IO.Error → Fault
  | .noFileOrDirectory .. => .file .missing path
  | .inappropriateType _ code _ =>
    .file (if isNotDirectoryCode code then .notDirectory else .isDirectory) path
  | e => .raised .system e.toString.toList

def fileAct {α : Type} (path : Text) (act : IO α) : IO (Except Fault α) := do
  try return .ok (← act) catch e => return .error (fileFault path e)

def notFound (command : List Text) : Text :=
  Fault.fileProblemText .missing ++ quoted (command.headD [])

def onMachine {α : Type} : (level : Level) → Program Unit α → IO (Except Fault α)
  | _, .done a => return .ok a
  | _, .fail fault => return .error fault
  | level, .touch _ next => onMachine level (next ())
  | level, .ask (.readFile path) next => do
    let bytes ← fileAct path (IO.FS.readBinFile (string path))
    onMachine level (next (bytes.map ByteArray.toList))
  | level, .ask (.writeFile path bytes) next => do
    let done ← fileAct path (IO.FS.writeBinFile (string path) ⟨bytes.toArray⟩)
    onMachine level (next done)
  | level, .ask (.print text) next => do
    (← IO.getStdout).putStr (string text)
    onMachine level (next (.ok ()))
  | _, .ask (.logFrom level) next => onMachine level (next (.ok ()))
  | level, .ask (.log reported text) next => do
    if levelRank level ≤ levelRank reported then
      (← IO.getStderr).putStrLn (string (logLine reported text))
    onMachine level (next (.ok ()))
  | level, .ask (.run command _) next =>
    onMachine level (next (.ok (.notStarted (notFound command))))

end ShaderPipeline.Command

open ShaderPipeline.Command

def main (args : List String) : IO UInt32 := do
  match ← onMachine .info (execute (args.map String.toList)) with
  | .ok (.exit status) => return status.toUInt32
  | .ok (.misused u) =>
    IO.print (string (u.help?.getD []))
    IO.eprint (string u.complaint)
    return u.status.toUInt32
  | .error fault =>
    IO.eprintln (string fault.message)
    return 1
