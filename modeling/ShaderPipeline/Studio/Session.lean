import ShaderPipeline.Studio.Program

namespace ShaderPipeline.Studio

open Glsl

inductive Request (W P V : Type) where
  | look
  | setCode (k : Stage) (code : Text)
  | setHandle (k : Stage) (handle : Int)
  | compile (k : Stage)
  | reset (k : Stage)
  | interface (k : Stage)
  | toLegacy (k : Stage)
  | poll (k : Stage)
  | subscribe (k : Stage) (name : Text)
  | unsubscribe (k : Stage) (name : Text)
  | setCompiler (k : Stage) (c : Option (Compiler W))
  | setResolver (k : Stage) (r : Option (Resolver W))
  | setSettings (k : Stage) (settings : Settings)
  | setContext (c : Option (Context W P))
  | compileProgram
  | toLegacyPair
  | mergedInterface
  | setUniform (name : Text) (value : Value V)
  | release
  | drain (delete : Int → Act W Unit)

abbrev Request.Answer {W P V : Type} : Request W P V → Type
  | .look => Studio W P
  | .setCode _ _ => Unit
  | .setHandle _ _ => Unit
  | .compile _ => Bool
  | .reset _ => Unit
  | .interface _ => Interface
  | .toLegacy _ => Text
  | .poll _ => List Change
  | .subscribe _ _ => Unit
  | .unsubscribe _ _ => Unit
  | .setCompiler _ _ => Unit
  | .setResolver _ _ => Unit
  | .setSettings _ _ => Unit
  | .setContext _ => Unit
  | .compileProgram => Bool
  | .toLegacyPair => Text × Text
  | .mergedInterface => Interface
  | .setUniform _ _ => Bool
  | .release => Unit
  | .drain _ => List Int

variable {W P V : Type}

def changeChannel (k : Stage) (f : Channel Change → Channel Change) : Act (Studio W P × W) Unit :=
  changeShader k fun s => { s with channel := f s.channel }

def poll (k : Stage) : Act (Studio W P × W) (List Change) := do
  let (changes, channel) := (← shader k).channel.take fun _ => true
  changeChannel k fun _ => channel
  return changes

def respond [Records W] (device : Device W P V)
    (call : Text → Change → Act (Studio W P × W) Unit) :
    (r : Request W P V) → Act (Studio W P × W) r.Answer
  | .look => Act.own
  | .setCode k code => Studio.setCode call k code
  | .setHandle k handle => Studio.setHandle call k handle
  | .compile k => Studio.compile call k
  | .reset k => Studio.reset call k
  | .interface k => Studio.interface k
  | .toLegacy k => Studio.toLegacy k
  | .poll k => Studio.poll k
  | .subscribe k name => changeChannel k (·.subscribe name)
  | .unsubscribe k name => changeChannel k (·.unsubscribe name)
  | .setCompiler k c => changeShader k fun s => { s with compiler := c }
  | .setResolver k r => changeShader k fun s => { s with resolver := r }
  | .setSettings k settings => changeShader k fun s => { s with settings := settings }
  | .setContext c => Act.change fun s => { s with context := c }
  | .compileProgram => Studio.compileProgram call
  | .toLegacyPair => Studio.toLegacyPair
  | .mergedInterface => Studio.mergedInterface
  | .setUniform name value => Studio.setUniform device name value
  | .release => Studio.release call
  | .drain delete => Studio.drain delete device.release

/-- Carry out a request; `depth` bounds how deep listeners may nest. -/
def perform [Records W] (device : Device W P V)
    (listener : Text → Change → Client (Request W P V) Request.Answer W Unit) :
    (depth : Nat) → (r : Request W P V) → Act (Studio W P × W) r.Answer
  | 0, r => respond device (fun _ _ => throw .budgetSpent) r
  | depth + 1, r =>
    respond device (fun name c => (listener name c).run (perform device listener depth)) r

end ShaderPipeline.Studio
