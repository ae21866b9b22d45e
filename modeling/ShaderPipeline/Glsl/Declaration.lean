import ShaderPipeline.Fault
import ShaderPipeline.Glsl.Comment
import ShaderPipeline.Glsl.Interface
import ShaderPipeline.Text.Word

namespace ShaderPipeline.Glsl

open Text

def uniformWord : Text := "uniform".toList
def layoutWord : Text := "layout".toList
def attributeWord : Text := "attribute".toList
def inWord : Text := "in".toList
def outWord : Text := "out".toList

def interpolationWords : List Text := [
  "flat".toList, "smooth".toList, "noperspective".toList, "centroid".toList, "sample".toList,
  "invariant".toList]

def precisionWords : List Text := ["lowp".toList, "mediump".toList, "highp".toList]

inductive Storage where
  | input
  | output
  deriving DecidableEq, Repr

def Storage.ofWord? (word : Text) : Option Storage :=
  if word = inWord then some .input else if word = outWord then some .output else none

def Storage.word : Storage → Text
  | .input => inWord
  | .output => outWord

def endsDeclaration (c : Char) : Bool := isBlank c || c == ';'
def endsUniform (c : Char) : Bool := endsDeclaration c || c == '=' || c == '['
def endsName (c : Char) : Bool := endsDeclaration c || c == ',' || c == '=' || c == '['

/-- What follows `layout(...)`, unless the parenthesis stays open. -/
def pastLayout? (line : Text) : Option Text :=
  (cut? [')'] line).map fun (_, rest) => trim rest

theorem length_leadingWord?_lt {t word rest : Text} (h : leadingWord? t = some (word, rest)) :
    rest.length < t.length := by
  cases t with
  | nil => simp [leadingWord?] at h
  | cons c t =>
    rw [leadingWord?] at h
    split at h
    · cases h
      exact Nat.lt_succ_of_le (List.dropWhile_sublist _).length_le
    · cases h

/-- The storage qualifier of a declaration and what follows it, past any interpolation
qualifiers. -/
def qualified? (line : Text) : Option (Storage × Text) :=
  match _h : leadingWord? line with
  | none => none
  | some (word, rest) =>
    match Storage.ofWord? word with
    | some storage => some (storage, rest)
    | none => if interpolationWords.elem word then qualified? (trimStart rest) else none
termination_by line.length
decreasing_by
  exact Nat.lt_of_le_of_lt (List.dropWhile_sublist _).length_le (length_leadingWord?_lt ‹_›)

def splitQualifier (line : Text) : Option Storage × Text :=
  match qualified? line with
  | some (storage, rest) => (some storage, rest)
  | none => (none, line)

/-- The token after the type, precision qualifiers and comments apart. -/
def variableName? (declaration : Text) : Option Text :=
  match (tokens endsName (stripLine declaration)).filter (!precisionWords.elem ·) with
  | _ :: name :: _ => some name
  | _ => none

/-- The length between brackets. A symbolic one makes no array. -/
def arrayLength (bracket : List Text) : Except Fault Nat :=
  match bracket with
  | [] => .ok 0
  | inside :: _ =>
    match inside.getLast? with
    | some ']' =>
      let bound := trim inside.dropLast
      if isPlainNumeral bound then readNumeral bound else .ok 0
    | _ => .ok 0

def uniform? (line : Text) : Except Fault (Option Uniform) :=
  match tokens endsUniform (line.drop uniformWord.length) with
  | type :: name :: bracket => do return some ⟨name, type, ← arrayLength bracket⟩
  | _ => .ok none

def inputTokens? (ts : List Text) : Option (Text × Text) :=
  match ts.dropWhile (· != inWord) with
  | _ :: type :: name :: _ => some (type, name)
  | _ => none

/-- Read a line `layout(location = N) in T N;`. -/
def located? (line : Text) : Except Fault (Option Attribute) :=
  match line.idxOf? '=', line.idxOf? ')' with
  | some equals, some closing =>
    let location := trim ((line.take closing).drop (equals + 1))
    if layoutWord.length < equals ∧ equals < closing ∧ isPlainNumeral location then
      match inputTokens? (tokens endsDeclaration (line.drop (closing + 1))) with
      | some (type, name) => do return some ⟨name, type, some (← readNumeral location)⟩
      | none => .ok none
    else .ok none
  | _, _ => .ok none

def attribute? (line : Text) : Option Attribute :=
  match tokens endsDeclaration (line.drop attributeWord.length) with
  | type :: name :: _ => some ⟨name, type, none⟩
  | _ => none

def declaration? (line : Text) : Except Fault (Option Declaration) :=
  if startsWithWord uniformWord line then return (← uniform? line).map .uniform
  else if startsWithWord layoutWord line then return (← located? line).map .attribute
  else if startsWithWord attributeWord line then return (attribute? line).map .attribute
  else return none

def declarations : List Text → Except Fault (List Declaration)
  | [] => .ok []
  | line :: rest => do
    let d ← declaration? line
    let ds ← declarations rest
    return d.toList ++ ds

def scan (source : Text) : Except Fault Interface := do
  return Interface.ofDeclarations (← declarations (liveLines source))

def outputName? (line : Text) : Option Text := do
  let line ← if startsWithWord layoutWord line then pastLayout? line else some line
  match qualified? line with
  | some (.output, declaration) => variableName? declaration
  | _ => none

def outputNames (source : Text) : List Text :=
  ((liveLines source).filterMap outputName?).foldl
    (fun names name => if names.elem name then names else names ++ [name]) []

end ShaderPipeline.Glsl
