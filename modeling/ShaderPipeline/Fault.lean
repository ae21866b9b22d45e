import ShaderPipeline.Legacy.Template
import ShaderPipeline.Stage
import ShaderPipeline.Text.Utf8

namespace ShaderPipeline

open Text

/-- Who may handle a fault: failed expansions become diagnostics of a stage, failed links
diagnostics of the program, and the command line reports what is wrong with shaders and files. -/
inductive Family where
  | operation
  | expansion
  | general
  | runtime
  | value
  | lookup
  | system
  | index
  | template
  | link
  | decoding
  deriving DecidableEq, Repr

def Family.name : Family → Text
  | operation => "InvalidShaderOperation".toList
  | expansion => "MacroExpansionError".toList
  | general => "ShaderLabError".toList
  | runtime => "RuntimeError".toList
  | value => "ValueError".toList
  | lookup => "KeyError".toList
  | system => "OSError".toList
  | index => "IndexError".toList
  | template => "error".toList
  | link => "Error".toList
  | decoding => "UnicodeDecodeError".toList

theorem Family.not_allBlank_name (f : Family) : allBlank f.name = false := by
  cases f <;> decide

/-- What a collaborator calls its fault, and who may handle it. -/
structure FaultKind where
  family : Family
  name : Text := family.name
  visible : allBlank name = false := by exact family.not_allBlank_name
  deriving DecidableEq, Repr

instance : Coe Family FaultKind := ⟨fun family => { family := family }⟩

def FaultKind.runtime : FaultKind := Family.runtime
def FaultKind.link : FaultKind := Family.link
def FaultKind.system : FaultKind := Family.system

inductive FileProblem where
  | missing
  | notDirectory
  | isDirectory
  deriving DecidableEq, Repr

inductive Fault where
  | notConvertible (stage : Stage)
  | secondOutput (declaration : Text)
  | noCompiler (stage : Stage) (handle : Int)
  | noResolver
  | macrosLeft
  | cannotRun (program reason : Text)
  | notExpanded (message : Text)
  | noCommand
  | unknownStage (key : Text)
  | unknownStageOption (spoken : Text)
  | unclearStage (path : Text)
  | numeralTooLong (digits : Nat)
  | numberTooLarge
  | template (flaw : Legacy.Template.Flaw)
  | undecodable (flaw : Utf8.Flaw)
  | file (problem : FileProblem) (path : Text)
  | nullInPath
  | budgetSpent
  /-- A collaborator's own fault, in its own words. -/
  | raised (kind : FaultKind) (message : Text)
  deriving DecidableEq, Repr

namespace Fault

def family : Fault → Family
  | notConvertible _ => .operation
  | secondOutput _ => .operation
  | noCompiler _ _ => .operation
  | noResolver => .expansion
  | macrosLeft => .expansion
  | cannotRun _ _ => .expansion
  | notExpanded _ => .expansion
  | noCommand => .index
  | unknownStage _ => .lookup
  | unknownStageOption _ => .general
  | unclearStage _ => .general
  | numeralTooLong _ => .value
  | numberTooLarge => .value
  | template ⟨_, .noSuchName _, _⟩ => .index
  | template _ => .template
  | undecodable _ => .decoding
  | file _ _ => .system
  | nullInPath => .value
  | budgetSpent => .runtime
  | raised kind _ => kind.family

def kind : Fault → FaultKind
  | raised kind _ => kind
  | fault => fault.family

def shaderLabel (stage : Stage) (handle : Int) : Text :=
  "ShaderSource(".toList ++ stage.name ++ ", handle=".toList ++ ofInt handle ++ [')']

def fileProblemText : FileProblem → Text
  | .missing => "[Errno 2] No such file or directory: ".toList
  | .notDirectory => "[Errno 20] Not a directory: ".toList
  | .isDirectory => "[Errno 21] Is a directory: ".toList

def message : Fault → Text
  | notConvertible stage =>
    "Only vertex and fragment shaders can be converted to WebGL 1.0, got ".toList ++ stage.title
  | secondOutput declaration =>
    "WebGL 1.0 fragment shaders support a single output, found another in: ".toList ++ declaration
  | noCompiler stage handle => shaderLabel stage handle ++ " has no compiler attached".toList
  | noResolver => "No macro resolver configured".toList
  | macrosLeft => "Converted source has macro directives but no resolver is configured".toList
  | cannotRun program reason => "Could not run ".toList ++ program ++ ": ".toList ++ reason
  | notExpanded message => message
  | noCommand => "tuple index out of range".toList
  | unknownStage key => quoted key
  | unknownStageOption spoken => "Unknown stage '".toList ++ spoken ++ ['\'']
  | unclearStage path =>
    "Cannot tell the stage of ".toList ++ path ++ "; pass --stage vertex|fragment".toList
  | numeralTooLong digits =>
    "Exceeds the limit (4300 digits) for integer string conversion: value has ".toList
      ++ ofNat digits ++ " digits; use sys.set_int_max_str_digits() to increase the limit".toList
  | numberTooLarge =>
    "Exceeds the limit (4300 digits) for integer string conversion; ".toList
      ++ "use sys.set_int_max_str_digits() to increase the limit".toList
  | template flaw => flaw.message
  | undecodable flaw => flaw.message
  | file problem path => fileProblemText problem ++ quoted path
  | nullInPath => "embedded null byte".toList
  | budgetSpent => "nested too deeply".toList
  | raised _ message => message

/-- A fault without a message is explained by its name. -/
def explanation (fault : Fault) : Text :=
  if fault.message = [] then fault.kind.name else fault.message

end Fault

def readNumeral (digits : Text) : Except Fault Nat :=
  if digits.length ≤ numeralLimit then .ok (numeral digits)
  else .error (.numeralTooLong digits.length)

end ShaderPipeline
