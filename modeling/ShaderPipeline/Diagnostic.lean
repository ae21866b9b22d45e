import ShaderPipeline.Fault

namespace ShaderPipeline

open Text

def leadingDigits? (t : Text) : Option (Text × Text) :=
  match t.takeWhile isDigit with
  | [] => none
  | digits => some (digits, t.dropWhile isDigit)

/-- `0(12)`, blanks in front. -/
def bracketedLine? (message : Text) : Option Text := do
  let (_, rest) ← leadingDigits? (trimStart message)
  let rest ← after? ['('] rest
  let (line, rest) ← leadingDigits? rest
  let _ ← after? [')'] rest
  return line

def severityWords : List Text :=
  ["ERROR".toList, "WARNING".toList, "error".toList, "warning".toList]

def skipSeverity (t : Text) : Text := (severityWords.findSome? (after? · t)).getD t

def skipColon (t : Text) : Text := (after? [':'] t).getD t

/-- `ERROR: 0:12:`, `0:12(`, and the like. -/
def colonLine? (message : Text) : Option Text := do
  let start := trimStart (skipColon (skipSeverity (trimStart message)))
  let (_, rest) ← leadingDigits? start
  let rest ← after? [':'] rest
  let (line, rest) ← leadingDigits? rest
  match rest with
  | ':' :: _ => some line
  | '(' :: _ => some line
  | _ => none

/-- The source line that a message refers to, zero when it names none. -/
def lineNumber (message : Text) : Except Fault Nat :=
  match bracketedLine? message <|> colonLine? message with
  | some line => readNumeral line
  | none => .ok 0

/-- Diagnostics of the linked program have no stage. -/
structure Diagnostic where
  message : Text
  stage : Option Stage
  line : Nat
  deriving DecidableEq, Repr

namespace Diagnostic

def ofLine (line : Text) (stage : Option Stage) : Except Fault Diagnostic := do
  let message := trimEnd line
  return ⟨message, stage, ← lineNumber message⟩

def describe (d : Diagnostic) : Text :=
  "CompileDiagnostic(message=".toList ++ quoted d.message ++ ", line_number=".toList
    ++ ofNat d.line ++ [')']

end Diagnostic

end ShaderPipeline
