import ShaderPipeline.Client

namespace ShaderPipeline

namespace Act

variable {σ S W α β γ : Type}

/-- From every state with `P` the action ends in a state for which `Q` holds, together with its
value or its fault. -/
def Leads (P : σ → Prop) (a : Act σ α) (Q : Except Fault α → σ → Prop) : Prop :=
  ∀ s, P s → Q (a.outcome s).1 (a.outcome s).2

def Returned (P : α → σ → Prop) (E : σ → Prop) : Except Fault α → σ → Prop
  | .ok x => P x
  | .error _ => E

/-- The action preserves `I`, whether it fails or not. -/
def Keeps (I : σ → Prop) (a : Act σ α) : Prop := Leads I a fun _ => I

theorem Leads.mono {P P' : σ → Prop} {a : Act σ α} {Q Q' : Except Fault α → σ → Prop}
    (h : Leads P a Q) (hP : ∀ s, P' s → P s) (hQ : ∀ r s, Q r s → Q' r s) : Leads P' a Q' :=
  fun s hs => hQ _ _ (h s (hP s hs))

theorem Leads.bind {P : σ → Prop} {a : Act σ α} {f : α → Act σ β}
    {R : Except Fault α → σ → Prop} {Q : Except Fault β → σ → Prop} (ha : Leads P a R)
    (hf : ∀ x, Leads (R (.ok x)) (f x) Q) (he : ∀ fault s, R (.error fault) s → Q (.error fault) s) :
    Leads P (a >>= f) Q := by
  intro s hs
  have h := ha s hs
  rw [outcome_bind]
  cases hr : a.outcome s with
  | mk r t =>
      rw [hr] at h
      cases r with
      | ok x => exact hf x t h
      | error fault => exact he fault t h

theorem Leads.bind_returned {P : σ → Prop} {a : Act σ α} {f : α → Act σ β}
    {R : Except Fault α → σ → Prop} {Q : β → σ → Prop} (ha : Leads P a R)
    (hf : ∀ x, Leads (R (.ok x)) (f x) fun r s => ∀ y, r = .ok y → Q y s) :
    Leads P (a >>= f) fun r s => ∀ y, r = .ok y → Q y s := by
  refine ha.bind hf fun fault s _ y hr => ?_
  cases hr

theorem Leads.returned {P E : σ → Prop} {a : Act σ α} {Q : Except Fault α → σ → Prop}
    {R : α → σ → Prop} (h : Leads P a Q) (hok : ∀ x s, Q (.ok x) s → R x s)
    (herr : ∀ fault s, Q (.error fault) s → E s) : Leads P a (Returned R E) := by
  refine h.mono (fun _ h => h) fun r s h => ?_
  cases r with
  | ok x => exact hok x s h
  | error fault => exact herr fault s h

theorem Leads.handling {P : σ → Prop} {a : Act σ α} {handle : Fault → Act σ α}
    {R Q : Except Fault α → σ → Prop} (ha : Leads P a R)
    (hf : ∀ fault, Leads (R (.error fault)) (handle fault) Q)
    (hok : ∀ x s, R (.ok x) s → Q (.ok x) s) : Leads P (a.handling handle) Q := by
  intro s hs
  have h := ha s hs
  rw [Act.handling]
  dsimp only
  cases hr : a.outcome s with
  | mk r t =>
      rw [hr] at h
      cases r with
      | ok x => exact hok x t h
      | error fault => exact hf fault t h

theorem Leads.onFault {P : σ → Prop} {a : Act σ α} {cleanUp : Act σ Unit}
    {R : Except Fault α → σ → Prop} {E : σ → Prop} (ha : Leads P a R)
    (hc : ∀ fault, Leads (R (.error fault)) cleanUp fun _ => E) :
    Leads P (a.onFault cleanUp) (Returned (fun x => R (.ok x)) E) := by
  refine ha.handling (fun fault => ?_) fun x s h => h
  exact (hc fault).bind (fun _ s hs => hs) fun _ _ h => h

theorem Leads.pure {P : σ → Prop} {x : α} {Q : Except Fault α → σ → Prop}
    (h : ∀ s, P s → Q (.ok x) s) : Leads P (Pure.pure x : Act σ α) Q := h

theorem Leads.attempt_bind {P : σ → Prop} {a : Act σ α} {f : Except Fault α → Act σ β}
    {R : Except Fault α → σ → Prop} {Q : Except Fault β → σ → Prop} (ha : Leads P a R)
    (hf : ∀ r, Leads (R r) (f r) Q) : Leads P (a.attempt >>= f) Q :=
  fun s hs => hf _ _ (ha s hs)

theorem Leads.ite {P : σ → Prop} {c : Prop} [Decidable c] {a b : Act σ α}
    {Q : Except Fault α → σ → Prop} (ha : c → Leads P a Q) (hb : ¬c → Leads P b Q) :
    Leads P (if c then a else b) Q := by
  split
  case isTrue h => exact ha h
  case isFalse h => exact hb h

section Keeps

variable {I : σ → Prop}

theorem Keeps.pure (x : α) : Keeps I (Pure.pure x : Act σ α) := fun _ hs => hs

theorem Keeps.throw (fault : Fault) : Keeps I (throw fault : Act σ α) := fun _ hs => hs

theorem Keeps.bind {a : Act σ α} {f : α → Act σ β} (ha : Keeps I a) (hf : ∀ x, Keeps I (f x)) :
    Keeps I (a >>= f) :=
  Leads.bind ha hf fun _ _ h => h

theorem Keeps.map {a : Act σ α} (ha : Keeps I a) (f : α → β) : Keeps I (f <$> a) := by
  rw [map_eq_pure_bind]
  exact ha.bind fun x => .pure (f x)

theorem Keeps.ite {c : Prop} [Decidable c] {a b : Act σ α} (ha : Keeps I a) (hb : Keeps I b) :
    Keeps I (if c then a else b) :=
  Leads.ite (fun _ => ha) fun _ => hb

theorem Keeps.ofExcept (r : Except Fault α) : Keeps I (ofExcept r : Act σ α) := fun _ hs => hs

theorem Keeps.forM {f : α → Act σ PUnit} {xs : List α} (hf : ∀ x ∈ xs, Keeps I (f x)) :
    Keeps I (xs.forM f) := by
  induction xs with
  | nil => exact .pure _
  | cons x xs ih =>
      change Keeps I (f x >>= fun _ => xs.forM f)
      exact (hf x (by simp)).bind fun _ => ih fun y hy => hf y (by simp [hy])

theorem Leads.forM_returned {B : σ → Prop} {f : α → Act σ PUnit} {xs : List α}
    (hf : ∀ x ∈ xs, Leads (fun s => I s ∧ B s) (f x) fun r s => I s ∧ (r = .ok ⟨⟩ → B s)) :
    Leads (fun s => I s ∧ B s) (xs.forM f) fun r s => I s ∧ (r = .ok ⟨⟩ → B s) := by
  induction xs with
  | nil => exact fun s h => ⟨h.1, fun _ => h.2⟩
  | cons x xs ih =>
      change Leads _ (f x >>= fun _ => xs.forM f) _
      refine Leads.bind (hf x (by simp)) (fun _ => ?_) fun _ _ h => ⟨h.1, nofun⟩
      exact (ih fun y hy => hf y (by simp [hy])).mono (fun s h => ⟨h.1, h.2 rfl⟩) fun _ _ h => h

theorem Keeps.mapM {f : α → Act σ β} {xs : List α} (hf : ∀ x ∈ xs, Keeps I (f x)) :
    Keeps I (xs.mapM f) := by
  induction xs with
  | nil => exact .pure _
  | cons x xs ih =>
      rw [List.mapM_cons]
      exact (hf x (by simp)).bind fun _ => (ih fun y hy => hf y (by simp [hy])).bind fun _ => .pure _

end Keeps

theorem keeps_own {I : S × W → Prop} : Keeps I (own : Act (S × W) S) := fun _ hs => hs

theorem leads_own {P : S × W → Prop} : Leads P own fun r s => P s ∧ r = .ok s.1 :=
  fun _ hs => ⟨hs, rfl⟩

theorem Leads.change_bind {P R : S × W → Prop} {Q : Except Fault α → S × W → Prop} {f : S → S}
    {g : Unit → Act (S × W) α} (hf : ∀ s w, P (s, w) → R (f s, w)) (hg : Leads R (g ()) Q) :
    Leads P (change f >>= g) Q :=
  fun s hs => hg _ (hf s.1 s.2 hs)

theorem exists_of_bind_ok {a : Act σ α} {f : α → Act σ β} {s t : σ} {y : β}
    (h : (a >>= f).outcome s = (.ok y, t)) :
    ∃ x u, a.outcome s = (.ok x, u) ∧ (f x).outcome u = (.ok y, t) := by
  rw [outcome_bind] at h
  cases ha : a.outcome s with
  | mk r u =>
      rw [ha] at h
      cases r with
      | ok x => exact ⟨x, u, rfl, h⟩
      | error fault => cases h

def Returns (a : Act σ α) : Prop := ∀ s, ∃ x, (a.outcome s).1 = .ok x

theorem Returns.bind {a : Act σ α} {f : α → Act σ β} (ha : Returns a) (hf : ∀ x, Returns (f x)) :
    Returns (a >>= f) := by
  intro s
  obtain ⟨x, hx⟩ := ha s
  rw [outcome_bind_ok f (Prod.ext hx rfl)]
  exact hf x _

theorem Returns.forM {f : α → Act σ PUnit} {xs : List α} (hf : ∀ x ∈ xs, Returns (f x)) :
    Returns (xs.forM f) := by
  induction xs with
  | nil => exact fun _ => ⟨_, rfl⟩
  | cons x xs ih =>
      change Returns (f x >>= fun _ => xs.forM f)
      exact (hf x (by simp)).bind fun _ => ih fun y hy => hf y (by simp [hy])

end Act

namespace Client

variable {Op : Type} {Answer : Op → Type} {S W α : Type}

/-- The client asks only for what `may` allows, and changes the world only as `tame` does. -/
def Within (may : Op → Prop) (tame : (W → W) → Prop) : Client Op Answer W α → Prop
  | done _ => True
  | fail _ => True
  | touch update next => tame update ∧ ∀ w, (next w).Within may tame
  | ask op next => may op ∧ ∀ r, (next r).Within may tame

theorem Within.mono {may may' : Op → Prop} {tame tame' : (W → W) → Prop}
    {c : Client Op Answer W α} (hc : c.Within may tame) (hm : ∀ op, may op → may' op)
    (ht : ∀ update, tame update → tame' update) : c.Within may' tame' := by
  induction c with
  | done a => trivial
  | fail fault => trivial
  | touch update next ih => exact ⟨ht update hc.1, fun w => ih w (hc.2 w)⟩
  | ask op next ih => exact ⟨hm op hc.1, fun r => ih r (hc.2 r)⟩

theorem within_true (c : Client Op Answer W α) : c.Within (fun _ => True) fun _ => True := by
  induction c with
  | done a => trivial
  | fail fault => trivial
  | touch update next ih => exact ⟨trivial, ih⟩
  | ask op next ih => exact ⟨trivial, ih⟩

def PassesOn (fault : Fault) : Client Op Answer W α → Prop
  | done _ => True
  | fail _ => True
  | touch _ next => ∀ w, (next w).PassesOn fault
  | ask _ next => (∀ r, (next r).PassesOn fault) ∧ next (.error fault) = fail fault

/-- The client never fails, whatever it is answered. -/
def Calm : Client Op Answer W α → Prop
  | done _ => True
  | fail _ => False
  | touch _ next => ∀ w, (next w).Calm
  | ask _ next => ∀ r, (next r).Calm

theorem Calm.returns {c : Client Op Answer W α} (hc : c.Calm)
    (perform : (op : Op) → Act (S × W) (Answer op)) : Act.Returns (c.run perform) := by
  induction c with
  | done a => exact fun _ => ⟨a, rfl⟩
  | fail fault => exact hc.elim
  | touch update next ih =>
      intro s
      rw [outcome_run_touch]
      exact ih s.2 (hc s.2) _
  | ask op next ih =>
      intro s
      rw [outcome_run_ask]
      exact ih _ (hc _) _

theorem keeps_run {may : Op → Prop} {tame : (W → W) → Prop} {I : S × W → Prop}
    {perform : (op : Op) → Act (S × W) (Answer op)} (hp : ∀ op, may op → Act.Keeps I (perform op))
    (ht : ∀ update, tame update → ∀ s w, I (s, w) → I (s, update w))
    {c : Client Op Answer W α} (hc : c.Within may tame) : Act.Keeps I (c.run perform) := by
  induction c with
  | done a => exact .pure a
  | fail fault => exact .throw fault
  | touch update next ih =>
      intro s hs
      rw [outcome_run_touch]
      exact ih s.2 (hc.2 s.2) _ (ht update hc.1 _ _ hs)
  | ask op next ih =>
      intro s hs
      rw [outcome_run_ask]
      exact ih _ (hc.2 _) _ (hp op hc.1 s hs)

end Client

end ShaderPipeline
