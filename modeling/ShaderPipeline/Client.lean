import ShaderPipeline.Act

namespace ShaderPipeline

inductive Client (Op : Type) (Answer : Op → Type) (W : Type) (α : Type) where
  | done (a : α)
  | fail (fault : Fault)
  | touch (update : W → W) (next : W → Client Op Answer W α)
  | ask (op : Op) (next : Except Fault (Answer op) → Client Op Answer W α)

namespace Client

variable {Op : Type} {Answer : Op → Type} {S W α β : Type}

def bind : Client Op Answer W α → (α → Client Op Answer W β) → Client Op Answer W β
  | done a, f => f a
  | fail fault, _ => fail fault
  | touch update next, f => touch update fun w => (next w).bind f
  | ask op next, f => ask op fun r => (next r).bind f

def handling : Client Op Answer W α → (Fault → Client Op Answer W α) → Client Op Answer W α
  | done a, _ => done a
  | fail fault, handle => handle fault
  | touch update next, handle => touch update fun w => (next w).handling handle
  | ask op next, handle => ask op fun r => (next r).handling handle

instance : Monad (Client Op Answer W) where
  pure := done
  bind := bind

instance : MonadExceptOf Fault (Client Op Answer W) where
  throw := fail
  tryCatch := handling

def request (op : Op) : Client Op Answer W (Answer op) :=
  ask op fun
    | .ok a => done a
    | .error fault => fail fault

/-- Let `perform` carry out what the client asks for. The world that `touch` hands on is the
one before its update. -/
def run (perform : (op : Op) → Act (S × W) (Answer op)) :
    Client Op Answer W α → Act (S × W) α
  | done a => pure a
  | fail fault => throw fault
  | touch update next => do
    let w ← Act.world
    Act.changeWorld update
    (next w).run perform
  | ask op next => do
    let r ← (perform op).attempt
    (next r).run perform

variable (perform : (op : Op) → Act (S × W) (Answer op))

@[simp] theorem outcome_run_done (a : α) (s : S × W) :
    ((done a : Client Op Answer W α).run perform).outcome s = (.ok a, s) := rfl

@[simp] theorem outcome_run_fail (fault : Fault) (s : S × W) :
    ((fail fault : Client Op Answer W α).run perform).outcome s = (.error fault, s) := rfl

@[simp] theorem outcome_run_touch (update : W → W) (next : W → Client Op Answer W α) (s : S × W) :
    ((touch update next).run perform).outcome s
      = ((next s.2).run perform).outcome (s.1, update s.2) := rfl

@[simp] theorem outcome_run_ask (op : Op) (next : Except Fault (Answer op) → Client Op Answer W α)
    (s : S × W) : ((ask op next).run perform).outcome s
      = ((next ((perform op).outcome s).1).run perform).outcome ((perform op).outcome s).2 := rfl

end Client

end ShaderPipeline
