import ShaderPipeline.Text.Basic
import ShaderPipeline.Text.Printable

namespace ShaderPipeline.Text

def hexDigits : (width : Nat) → Nat → Text
  | 0, _ => []
  | width + 1, n => hexDigits width (n / 16) ++ [Nat.digitChar (n % 16)]

/-- The shortest of the three escapes by number that holds the character. -/
def escapeCode (n : Nat) : Text :=
  if n < 0x100 then '\\' :: 'x' :: hexDigits 2 n
  else if n < 0x10000 then '\\' :: 'u' :: hexDigits 4 n
  else '\\' :: 'U' :: hexDigits 8 n

def escape (quote c : Char) : Text :=
  if c = quote ∨ c = '\\' then ['\\', c]
  else if c = '\n' then ['\\', 'n']
  else if c = '\r' then ['\\', 'r']
  else if c = '\t' then ['\\', 't']
  else if isPrintable c then [c]
  else escapeCode c.toNat

/-- Single quotes, unless the text holds some and no double ones. -/
def quoteFor (t : Text) : Char :=
  if t.elem '\'' && !t.elem '"' then '"' else '\''

def quoted (t : Text) : Text :=
  quoteFor t :: t.flatMap (escape (quoteFor t)) ++ [quoteFor t]

end ShaderPipeline.Text
