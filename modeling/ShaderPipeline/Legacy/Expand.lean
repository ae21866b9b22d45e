import ShaderPipeline.Act
import ShaderPipeline.Legacy.Convert

namespace ShaderPipeline.Legacy

open Text Glsl

variable {m : Type → Type} [Monad m] [MonadExcept Fault m]

def expandLeft (settings : Settings) (resolver : Option (Text → m Text)) (text : Text) : m Text :=
  if contains settings.macroToken text then
    match resolver with
    | none => throw .macrosLeft
    | some expand => expand text
  else return text

def convertAndExpand [Journal m] (settings : Settings) (stage : Stage) (i : Option Interface)
    (resolver : Option (Text → m Text)) (code : Text) : m Text := do
  let body := convert settings stage i code
  body.unnamed.forM fun declaration => note .warning (unnamedReport declaration)
  expandLeft settings resolver (← MonadExcept.ofExcept body.text)

end ShaderPipeline.Legacy
