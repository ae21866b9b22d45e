import ShaderPipeline.Client

namespace ShaderPipeline

open Text

structure Channel (E : Type) where
  queued : List E := []
  listeners : List Text := []
  deriving DecidableEq, Repr

namespace Channel

variable {E K W : Type}

def post (e : E) (c : Channel E) : Channel E := { c with queued := c.queued ++ [e] }

def take (accepts : E → Bool) (c : Channel E) : List E × Channel E :=
  (c.queued.filter accepts, { c with queued := c.queued.filter (!accepts ·) })

def clear (c : Channel E) : Channel E := { c with queued := [] }

/-- A listener that is there already stays where it is. -/
def subscribe (name : Text) (c : Channel E) : Channel E :=
  if c.listeners.elem name then c else { c with listeners := c.listeners ++ [name] }

def unsubscribe (name : Text) (c : Channel E) : Channel E :=
  { c with listeners := c.listeners.erase name }

theorem nodup_subscribe {c : Channel E} (h : c.listeners.Nodup) (name : Text) :
    (c.subscribe name).listeners.Nodup := by
  unfold subscribe
  split
  case isTrue => exact h
  case isFalse hn =>
    have hn : name ∉ c.listeners := by simpa using hn
    simp only [List.nodup_append, h, true_and]
    refine ⟨by simp, fun a ha b hb => ?_⟩
    rintro rfl
    exact hn (List.mem_singleton.1 hb ▸ ha)

theorem nodup_unsubscribe {c : Channel E} (h : c.listeners.Nodup) (name : Text) :
    (c.unsubscribe name).listeners.Nodup := h.erase name

inductive Request (E K : Type) where
  | emit (e : E)
  | poll (kind : K)
  | subscribe (name : Text)
  | unsubscribe (name : Text)
  | clear

abbrev Request.Answer : Request E K → Type
  | .emit _ => Unit
  | .poll _ => List E
  | .subscribe _ => Unit
  | .unsubscribe _ => Unit
  | .clear => Unit

/-- Tell those who listen when the event comes, in order, whatever they do to the channel
meanwhile. -/
def emit (call : Text → E → Act (Channel E × W) Unit) (e : E) : Act (Channel E × W) Unit := do
  Act.change (post e)
  let c ← Act.own
  c.listeners.forM (call · e)

variable [DecidableEq K] (kind : E → K)

def respond (call : Text → E → Act (Channel E × W) Unit) :
    (r : Request E K) → Act (Channel E × W) r.Answer
  | .emit e => emit call e
  | .poll k => do
    let (events, c) := (← Act.own).take (kind · == k)
    Act.change fun _ => c
    return events
  | .subscribe name => Act.change (Channel.subscribe name)
  | .unsubscribe name => Act.change (Channel.unsubscribe name)
  | .clear => Act.change Channel.clear

/-- Carry out a request; `depth` bounds how deep listeners may nest. -/
def perform (listener : Text → E → Client (Request E K) Request.Answer W Unit) :
    (depth : Nat) → (r : Request E K) → Act (Channel E × W) r.Answer
  | 0, r => respond kind (fun _ _ => throw .budgetSpent) r
  | depth + 1, r => respond kind (fun name e => (listener name e).run (perform listener depth)) r

end Channel

end ShaderPipeline
