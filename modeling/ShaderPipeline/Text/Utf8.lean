import ShaderPipeline.Text.Basic
import ShaderPipeline.Text.Digits
import ShaderPipeline.Text.Quoted

namespace ShaderPipeline.Text.Utf8

/-- How many bytes follow a first byte, and the range of the second one. -/
def shape? (b : UInt8) : Option (Nat × UInt8 × UInt8) :=
  if b < 0xC2 then none
  else if b < 0xE0 then some (1, 0x80, 0xBF)
  else if b = 0xE0 then some (2, 0xA0, 0xBF)
  else if b = 0xED then some (2, 0x80, 0x9F)
  else if b < 0xF0 then some (2, 0x80, 0xBF)
  else if b = 0xF0 then some (3, 0x90, 0xBF)
  else if b < 0xF4 then some (3, 0x80, 0xBF)
  else if b = 0xF4 then some (3, 0x80, 0x8F)
  else none

inductive Cause where
  | invalidStart
  | invalidContinuation
  | unexpectedEnd
  deriving DecidableEq, Repr

structure Flaw where
  cause : Cause
  first : UInt8
  start : Nat
  taken : Nat
  deriving DecidableEq, Repr

inductive Reading where
  | char (c : Char)
  | flaw (cause : Cause)
  deriving DecidableEq, Repr

/-- Read the bytes that continue a character: `owed` are still missing, the next one must lie
between `lo` and `hi`, `code` is the number so far and `taken` counts the bytes. -/
def continued (owed : Nat) (lo hi : UInt8) (code taken : Nat) : List UInt8 → Reading × Nat
  | [] => match owed with
    | 0 => (.char (Char.ofNat code), taken)
    | _ + 1 => (.flaw .unexpectedEnd, taken)
  | b :: bs => match owed with
    | 0 => (.char (Char.ofNat code), taken)
    | owed + 1 =>
      if lo ≤ b ∧ b ≤ hi then continued owed 0x80 0xBF (64 * code + (b.toNat - 0x80)) (taken + 1) bs
      else (.flaw .invalidContinuation, taken)

def payload (b : UInt8) (owed : Nat) : Nat := b.toNat % Nat.pow 2 (6 - owed)

def reading (b : UInt8) (bs : List UInt8) : Reading × Nat :=
  if b < 0x80 then (.char (Char.ofNat b.toNat), 1)
  else match shape? b with
    | none => (.flaw .invalidStart, 1)
    | some (owed, lo, hi) => continued owed lo hi (payload b owed) 1 bs

/-- The readings of all bytes in order, each with its first byte, place and length; `skip` bytes
belong to a reading already made. -/
def readings : (skip place : Nat) → List UInt8 → List (Reading × UInt8 × Nat × Nat)
  | _, _, [] => []
  | skip + 1, place, _ :: bs => readings skip (place + 1) bs
  | 0, place, b :: bs =>
    let (r, taken) := reading b bs
    (r, b, place, taken) :: readings (taken - 1) (place + 1) bs

def decodeLoose (bs : List UInt8) : Text :=
  (readings 0 0 bs).map fun
    | (.char c, _) => c
    | (.flaw _, _) => '\uFFFD'

def decode (bs : List UInt8) : Except Flaw Text :=
  (readings 0 0 bs).mapM fun
    | (.char c, _) => .ok c
    | (.flaw cause, first, start, taken) => .error ⟨cause, first, start, taken⟩

def encode (t : Text) : List UInt8 := t.flatMap String.utf8EncodeChar

def Cause.describe : Cause → Text
  | .invalidStart => "invalid start byte".toList
  | .invalidContinuation => "invalid continuation byte".toList
  | .unexpectedEnd => "unexpected end of data".toList

def Flaw.message (f : Flaw) : Text :=
  let what := if f.taken = 1 then
      "byte 0x".toList ++ hexDigits 2 f.first.toNat ++ " in position ".toList ++ ofNat f.start
    else
      "bytes in position ".toList ++ ofNat f.start ++ '-' :: ofNat (f.start + f.taken - 1)
  "'utf-8' codec can't decode ".toList ++ what ++ ": ".toList ++ f.cause.describe

end ShaderPipeline.Text.Utf8
