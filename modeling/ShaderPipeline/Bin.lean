import ShaderPipeline.Client

namespace ShaderPipeline

open Text

structure Bin (P : Type) where
  shaders : List Int := []
  programs : List P := []
  deriving DecidableEq, Repr

namespace Bin

variable {P D W : Type}

def pending (b : Bin P) : Nat := b.shaders.length + b.programs.length

/-- The handle zero stands for no shader. -/
def add (handle : Int) (b : Bin P) : Bin P :=
  if handle = 0 then b else { b with shaders := b.shaders ++ [handle] }

def addProgram (p : Option P) (b : Bin P) : Bin P :=
  { b with programs := b.programs ++ p.toList }

/-- A handle leaves the queue before it is deleted. -/
def drainShaders (delete : Int → Act (Bin P × W) Unit) : (limit : Nat) → Act (Bin P × W) (List Int)
  | 0 => do
    if (← Act.own).shaders.isEmpty then return [] else throw .budgetSpent
  | limit + 1 => do
    match (← Act.own).shaders with
    | [] => return []
    | handle :: rest =>
      Act.change fun b => { b with shaders := rest }
      delete handle
      return handle :: (← drainShaders delete limit)

def drainPrograms (release : P → Act (Bin P × W) Unit) : (limit : Nat) → Act (Bin P × W) Nat
  | 0 => do
    if (← Act.own).programs.isEmpty then return 0 else throw .budgetSpent
  | limit + 1 => do
    match (← Act.own).programs with
    | [] => return 0
    | p :: rest =>
      Act.change fun b => { b with programs := rest }
      release p
      return (← drainPrograms release limit) + 1

def drainReport (deleted released : Nat) : Text :=
  "Recycle bin drained ".toList ++ ofNat deleted ++ " shader(s), ".toList ++ ofNat released
    ++ " program(s)".toList

/-- Delete the queued shaders, then release the queued programs; the handles deleted are
returned. Up to `extra` objects may be queued meanwhile. -/
def drain [Records W] (delete : Int → Act (Bin P × W) Unit) (release : P → Act (Bin P × W) Unit)
    (extra : Nat) : Act (Bin P × W) (List Int) := do
  let deleted ← drainShaders delete ((← Act.own).shaders.length + extra)
  let released ← drainPrograms release ((← Act.own).programs.length + extra)
  if deleted ≠ [] ∨ released ≠ 0 then
    Act.outside (note .debug (drainReport deleted.length released))
  return deleted

inductive Request (P D : Type) where
  | add (handle : Int)
  | addProgram (p : Option P)
  | pending
  | drain (way : D)

abbrev Request.Answer : Request P D → Type
  | .add _ => Unit
  | .addProgram _ => Unit
  | .pending => Nat
  | .drain _ => List Int

def respond [Records W] (delete : D → Int → Act (Bin P × W) Unit)
    (release : P → Act (Bin P × W) Unit) (extra : Nat) :
    (r : Request P D) → Act (Bin P × W) r.Answer
  | .add handle => Act.change (Bin.add handle)
  | .addProgram p => Act.change (Bin.addProgram p)
  | .pending => do return (← Act.own).pending
  | .drain way => drain (delete way) release extra

/-- Carry out a request; `depth` bounds how deep requests may nest, those beyond it being refused
as a whole, and how much callbacks may queue during one drain. -/
def perform [Records W] (deleter : D → Int → Client (Request P D) Request.Answer W Unit)
    (releaser : P → Client (Request P D) Request.Answer W Unit) :
    (depth : Nat) → (r : Request P D) → Act (Bin P × W) r.Answer
  | 0, _ => throw .budgetSpent
  | depth + 1, r =>
    respond (fun way handle => (deleter way handle).run (perform deleter releaser depth))
      (fun p => (releaser p).run (perform deleter releaser depth)) depth r

end Bin

end ShaderPipeline
