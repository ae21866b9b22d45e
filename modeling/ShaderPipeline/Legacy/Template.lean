import ShaderPipeline.Text.Blank
import ShaderPipeline.Text.Digits
import ShaderPipeline.Text.Identifier
import ShaderPipeline.Text.Quoted

namespace ShaderPipeline.Legacy

open Text

namespace Template

inductive Piece where
  | char (c : Char)
  | word
  deriving DecidableEq, Repr

inductive Cause where
  | loneBackslash
  | badEscape (escape : Text)
  | noOpening
  | noName
  | noClosing
  | badName (name : Text)
  | noSuchName (name : Text)
  | noSuchReference (index : Nat)
  | octalTooLarge (escape : Text)
  deriving DecidableEq, Repr

/-- `position` counts the characters of the template before the fault. -/
structure Flaw where
  template : Text
  cause : Cause
  position : Nat
  deriving DecidableEq, Repr

inductive Mode where
  | plain
  | group
  | name (soFar : Text)
  | octal (soFar : Text)
  | reference (soFar : Text)
  deriving DecidableEq, Repr

/-- An escape is one token of two characters; a lone backslash can only be the last token. -/
def escapes : Text → List Text
  | [] => []
  | ['\\'] => [['\\']]
  | c :: d :: t => if c = '\\' then ['\\', d] :: escapes t else [c] :: escapes (d :: t)
  | [c] => [[c]]

def isOctal (c : Char) : Bool := '0' ≤ c && c ≤ '7'

def octalValue (digits : Text) : Nat := digits.foldl (fun n c => 8 * n + (c.toNat - 48)) 0

def controlEscape? : Char → Option Char
  | 'a' => some '\x07'
  | 'b' => some '\x08'
  | 'f' => some '\x0c'
  | 'n' => some '\n'
  | 'r' => some '\r'
  | 't' => some '\t'
  | 'v' => some '\x0b'
  | '\\' => some '\\'
  | _ => none

def ungroup? : Text → Option Text
  | [] => none
  | [c] => if isDigit c then some [c] else none
  | c :: '_' :: t => if isDigit c then (ungroup? t).map (c :: ·) else none
  | c :: t => if isDigit c then (ungroup? t).map (c :: ·) else none

/-- The number a group reference names, where it may be signed, grouped and surrounded by
blanks; negative numbers and those of more than `numeralLimit` digits name nothing. -/
def index? (name : Text) : Option Nat := do
  let t := trim name
  let (negative, t) := match t with
    | '-' :: t => (true, t)
    | '+' :: t => (false, t)
    | t => (false, t)
  let digits ← ungroup? t
  if digits.length ≤ numeralLimit ∧ (!negative || numeral digits == 0) then
    some (numeral digits)
  else none

abbrev Step := Except (Cause × Nat) (List Piece × Mode)

def resolve (name : Text) (stop : Nat) : Step :=
  if isIdentifier name then .error (.noSuchName name, stop)
  else match index? name with
    | none => .error (.badName name, stop - (name.length + 1))
    | some 0 => .ok ([.word], .plain)
    | some (n + 1) => .error (.noSuchReference (n + 1), stop - (name.length + 1))

def plainToken (token : Text) (stop : Nat) : Step :=
  match token with
  | ['\\', c] =>
    if c = 'g' then .ok ([], .group)
    else if c = '0' then .ok ([], .octal [])
    else if c.isDigit then .ok ([], .reference [c])
    else match controlEscape? c with
      | some control => .ok ([.char control], .plain)
      | none =>
        if c.isAlpha then .error (.badEscape token, stop - 2)
        else .ok ([.char '\\', .char c], .plain)
  | token => .ok (token.map .char, .plain)

def octalPiece (digits : Text) : Piece := .char (Char.ofNat (octalValue digits % 256))

/-- Read one token that starts at `start`. Reading past a token shows whether a lone backslash
follows, and that fault comes first. -/
def step (mode : Mode) (start : Nat) (token : Text) (beforeLone : Bool) : Step :=
  let stop := start + token.length
  let past (next : Step) : Step := if beforeLone then .error (.loneBackslash, stop) else next
  match mode with
  | .plain => past (plainToken token stop)
  | .group => if token = ['<'] then past (.ok ([], .name [])) else .error (.noOpening, start)
  | .name soFar =>
    past (if token = ['>'] then
      if soFar = [] then .error (.noName, stop - 1) else resolve soFar stop
    else .ok ([], .name (soFar ++ token)))
  | .octal soFar =>
    match token with
    | [c] =>
      if isOctal c ∧ soFar.length < 2 then past (.ok ([], .octal (soFar ++ [c])))
      else past (.ok ([octalPiece soFar, .char c], .plain))
    | token => past ((plainToken token stop).map fun (ps, m) => (octalPiece soFar :: ps, m))
  | .reference soFar =>
    match soFar, token with
    | [c], [d] =>
      if d.isDigit then past (.ok ([], .reference [c, d]))
      else .error (.noSuchReference (numeral soFar), start - 1)
    | [c, d], [e] =>
      if isOctal c && isOctal d && isOctal e then
        past (if octalValue [c, d, e] ≤ 255 then .ok ([octalPiece [c, d, e]], .plain)
          else .error (.octalTooLarge ['\\', c, d, e], stop - 4))
      else .error (.noSuchReference (numeral soFar), start - 2)
    | _, _ => .error (.noSuchReference (numeral soFar), start - soFar.length)

def finish (mode : Mode) (stop : Nat) : Except (Cause × Nat) (List Piece) :=
  match mode with
  | .plain => .ok []
  | .group => .error (.noOpening, stop)
  | .name soFar =>
    if soFar = [] then .error (.noName, stop) else .error (.noClosing, stop - soFar.length)
  | .octal soFar => .ok [octalPiece soFar]
  | .reference soFar => .error (.noSuchReference (numeral soFar), stop - soFar.length)

def parseFrom (mode : Mode) (start : Nat) : List Text → Except (Cause × Nat) (List Piece)
  | [] => finish mode start
  | token :: rest => do
    let (pieces, mode) ← step mode start token (rest == [['\\']])
    let more ← parseFrom mode (start + token.length) rest
    return pieces ++ more

def parse (template : Text) : Except Flaw (List Piece) :=
  let parsed := if template = ['\\'] then .error (.loneBackslash, 0)
    else parseFrom .plain 0 (escapes template)
  parsed.mapError fun (cause, position) => ⟨template, cause, position⟩

def fill (word : Text) (pieces : List Piece) : Text :=
  pieces.flatMap fun
    | .char c => [c]
    | .word => word

def Cause.describe : Cause → Text
  | .loneBackslash => "bad escape (end of pattern)".toList
  | .badEscape escape => "bad escape ".toList ++ escape
  | .noOpening => "missing <".toList
  | .noName => "missing group name".toList
  | .noClosing => "missing >, unterminated name".toList
  | .badName name => "bad character in group name ".toList ++ quoted name
  | .noSuchName name => "unknown group name ".toList ++ quoted name
  | .noSuchReference index => "invalid group reference ".toList ++ ofNat index
  | .octalTooLarge escape =>
    "octal escape value ".toList ++ escape ++ " outside of range 0-0o377".toList

def Flaw.place (f : Flaw) : Text :=
  " at position ".toList ++ ofNat f.position ++
    if f.template.elem '\n' then
      let ahead := lines (f.template.take f.position)
      " (line ".toList ++ ofNat ahead.length ++ ", column ".toList
        ++ ofNat ((ahead.getLastD []).length + 1) ++ [')']
    else []

def Flaw.message (f : Flaw) : Text :=
  match f.cause with
  | .noSuchName _ => f.cause.describe
  | _ => f.cause.describe ++ f.place

end Template

end ShaderPipeline.Legacy
