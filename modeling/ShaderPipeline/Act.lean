import ShaderPipeline.Fault

namespace ShaderPipeline

/-- The outcome is a value or a fault, and the state left behind. -/
@[ext] structure Act (σ α : Type) where
  outcome : σ → Except Fault α × σ

namespace Act

variable {σ τ S W α β : Type}

def andThen (a : Act σ α) (f : α → Act σ β) : Act σ β where
  outcome s :=
    match a.outcome s with
    | (.ok x, s) => (f x).outcome s
    | (.error fault, s) => (.error fault, s)

/-- Go on by `handle` from where the action failed. -/
def handling (a : Act σ α) (handle : Fault → Act σ α) : Act σ α where
  outcome s :=
    match a.outcome s with
    | (.ok x, s) => (.ok x, s)
    | (.error fault, s) => (handle fault).outcome s

instance : Monad (Act σ) where
  pure x := ⟨fun s => (.ok x, s)⟩
  bind := andThen

instance : MonadStateOf σ (Act σ) where
  get := ⟨fun s => (.ok s, s)⟩
  set s := ⟨fun _ => (.ok (), s)⟩
  modifyGet f := ⟨fun s => (.ok (f s).1, (f s).2)⟩

instance : MonadExceptOf Fault (Act σ) where
  throw fault := ⟨fun s => (.error fault, s)⟩
  tryCatch := handling

def ofExcept (r : Except Fault α) : Act σ α := ⟨fun s => (r, s)⟩

def attempt (a : Act σ α) : Act σ (Except Fault α) :=
  ⟨fun s => (.ok (a.outcome s).1, (a.outcome s).2)⟩

def within (get : σ → τ) (put : τ → σ → σ) (a : Act τ α) : Act σ α :=
  ⟨fun s => ((a.outcome (get s)).1, put (a.outcome (get s)).2 s)⟩

def outside (a : Act W α) : Act (S × W) α := a.within (·.2) fun w s => (s.1, w)

def own : Act (S × W) S := ⟨fun s => (.ok s.1, s)⟩

def world : Act (S × W) W := ⟨fun s => (.ok s.2, s)⟩

def change (f : S → S) : Act (S × W) Unit := ⟨fun s => (.ok (), (f s.1, s.2))⟩

def changeWorld (f : W → W) : Act (S × W) Unit := ⟨fun s => (.ok (), (s.1, f s.2))⟩

/-- On a fault, run `cleanUp` and end with that fault, or with the one that `cleanUp` ends
with. -/
def onFault (a : Act σ α) (cleanUp : Act σ Unit) : Act σ α :=
  a.handling fun fault => do cleanUp; throw fault

@[simp] theorem outcome_pure (x : α) (s : σ) : (pure x : Act σ α).outcome s = (.ok x, s) := rfl

theorem outcome_bind (a : Act σ α) (f : α → Act σ β) (s : σ) :
    (a >>= f).outcome s =
      match a.outcome s with
      | (.ok x, s) => (f x).outcome s
      | (.error fault, s) => (.error fault, s) := rfl

theorem outcome_bind_ok {a : Act σ α} {s t : σ} {x : α} (f : α → Act σ β)
    (h : a.outcome s = (.ok x, t)) : (a >>= f).outcome s = (f x).outcome t := by
  rw [outcome_bind, h]

theorem outcome_bind_error {a : Act σ α} {s t : σ} {fault : Fault} (f : α → Act σ β)
    (h : a.outcome s = (.error fault, t)) : (a >>= f).outcome s = (.error fault, t) := by
  rw [outcome_bind, h]

@[simp] theorem outcome_throw (fault : Fault) (s : σ) :
    (throw fault : Act σ α).outcome s = (.error fault, s) := rfl

@[simp] theorem outcome_ite (c : Prop) [Decidable c] (a b : Act σ α) (s : σ) :
    (if c then a else b).outcome s = if c then a.outcome s else b.outcome s := by
  split <;> rfl

@[simp] theorem outcome_ofExcept (r : Except Fault α) (s : σ) :
    (ofExcept r : Act σ α).outcome s = (r, s) := rfl

@[simp] theorem outcome_attempt (a : Act σ α) (s : σ) :
    a.attempt.outcome s = (.ok (a.outcome s).1, (a.outcome s).2) := rfl

@[simp] theorem outcome_outside (a : Act W α) (s : S × W) :
    (outside a).outcome s = ((a.outcome s.2).1, (s.1, (a.outcome s.2).2)) := rfl

@[simp] theorem outcome_own (s : S × W) : (own : Act (S × W) S).outcome s = (.ok s.1, s) := rfl

@[simp] theorem outcome_world (s : S × W) : (world : Act (S × W) W).outcome s = (.ok s.2, s) := rfl

@[simp] theorem outcome_change (f : S → S) (s : S × W) :
    (change f).outcome s = (.ok (), (f s.1, s.2)) := rfl

@[simp] theorem outcome_changeWorld (f : W → W) (s : S × W) :
    (changeWorld f).outcome s = (.ok (), (s.1, f s.2)) := rfl

instance : LawfulMonad (Act σ) := LawfulMonad.mk' _
  (fun a => by
    ext1
    funext s
    change (a >>= pure).outcome s = _
    rw [outcome_bind]
    cases a.outcome s with
    | mk r t => cases r <;> rfl)
  (fun _ _ => rfl)
  (fun a f g => by
    ext1
    funext s
    simp only [outcome_bind]
    cases a.outcome s with
    | mk r t => cases r <;> rfl)

end Act

inductive Level where
  | debug
  | info
  | warning
  | error
  deriving DecidableEq, Repr

class Journal (m : Type → Type) where
  note : Level → Text → m Unit

export Journal (note)

/-- A world that keeps the reports made in it. -/
class Records (W : Type) where
  record : Level → Text → W → W

instance {W : Type} [Records W] : Journal (Act W) where
  note level text := modify (Records.record level text)

end ShaderPipeline
