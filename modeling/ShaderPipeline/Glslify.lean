import ShaderPipeline.Act

namespace ShaderPipeline.Glslify

open Text

inductive Run where
  | notStarted (reason : Text)
  | finished (status : Int) (stdout stderr : Text)
  deriving DecidableEq, Repr

variable {m : Type → Type} [Monad m] [MonadExcept Fault m]

def program (command : List Text) : m Text :=
  match command with
  | [] => throw .noCommand
  | program :: _ => return program

/-- A failure is explained by what the command wrote, or else by its name. -/
def failure (command : List Text) (stderr : Text) : m Text :=
  match trim stderr with
  | [] => do return (← program command) ++ " failed".toList
  | message => return message

def resolver [Journal m] (run : (command : List Text) → (input : Text) → m Run)
    (command : List Text) (source : Text) : m Text := do
  match ← run command source with
  | .notStarted reason =>
    let fault := Fault.cannotRun (← program command) reason
    note .error fault.message
    throw fault
  | .finished status stdout stderr =>
    if status ≠ 0 then
      let message ← failure command stderr
      note .error ("Macro expansion failed: ".toList ++ message)
      throw (.notExpanded message)
    else return stdout

end ShaderPipeline.Glslify
