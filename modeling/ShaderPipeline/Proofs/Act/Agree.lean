import ShaderPipeline.Proofs.Act.Leads

namespace ShaderPipeline

namespace Act

variable {σ α β : Type} {P P' : σ → Prop} {a b : Act σ α} {Q Q' : Except Fault α → σ → Prop}

/-- From every state with `P` the actions do the same, and it leads to `Q`. -/
def Agree (P : σ → Prop) (a b : Act σ α) (Q : Except Fault α → σ → Prop) : Prop :=
  ∀ s, P s → b.outcome s = a.outcome s ∧ Q (a.outcome s).1 (a.outcome s).2

theorem Leads.agree (h : Leads P a Q) : Agree P a a Q := fun s hs => ⟨rfl, h s hs⟩

theorem Agree.leads (h : Agree P a b Q) : Leads P a Q := fun s hs => (h s hs).2

theorem Agree.mono (h : Agree P a b Q) (hP : ∀ s, P' s → P s) (hQ : ∀ r s, Q r s → Q' r s) :
    Agree P' a b Q' :=
  fun s hs => ⟨(h s (hP s hs)).1, hQ _ _ (h s (hP s hs)).2⟩

theorem Agree.bind {f g : α → Act σ β} {R : Except Fault α → σ → Prop}
    {Q : Except Fault β → σ → Prop} (ha : Agree P a b R)
    (hf : ∀ x, Agree (R (.ok x)) (f x) (g x) Q)
    (he : ∀ fault s, R (.error fault) s → Q (.error fault) s) : Agree P (a >>= f) (b >>= g) Q := by
  intro s hs
  obtain ⟨hab, hr⟩ := ha s hs
  rw [outcome_bind, outcome_bind, hab]
  cases hs : a.outcome s with
  | mk r t =>
      rw [hs] at hr
      cases r with
      | ok x => exact hf x t hr
      | error fault => exact ⟨rfl, he fault t hr⟩

def Ending (P : σ → Prop) (E : Fault → σ → Prop) : Except Fault α → σ → Prop
  | .ok _ => P
  | .error fault => E fault

section Ending

variable {f g : α → Act σ β} {xs : List α} {R : σ → Prop} {E E' : Fault → σ → Prop}

theorem Ending.mono {r : Except Fault α} {s : σ} (h : Ending P E r s)
    (hok : ∀ x, r = .ok x → P s → P' s) (herr : ∀ fault, r = .error fault → E fault s → E' fault s) :
    Ending P' E' r s := by
  cases r with
  | ok x => exact hok x rfl h
  | error fault => exact herr fault rfl h

theorem Ending.holds {r : Except Fault α} {s : σ} (h : Ending P E r s)
    (herr : ∀ fault, r = .error fault → E fault s → P s) : P s := by
  cases r with
  | ok x => exact h
  | error fault => exact herr fault rfl h

theorem Keeps.ending (h : Keeps P a) (hE : ∀ fault s, P s → E fault s) :
    Leads P a (Ending P E) := by
  refine Leads.mono h (fun _ hs => hs) fun r s hs => ?_
  cases r with
  | ok x => exact hs
  | error fault => exact hE fault s hs

theorem Agree.bind_ending {R' : σ → Prop} (ha : Agree P a b (Ending R E))
    (hf : ∀ x, Agree R (f x) (g x) (Ending R' E)) : Agree P (a >>= f) (b >>= g) (Ending R' E) :=
  ha.bind hf fun _ _ h => h

theorem Agree.forM {f g : α → Act σ PUnit} (hf : ∀ x ∈ xs, Agree P (f x) (g x) (Ending P E)) :
    Agree P (xs.forM f) (xs.forM g) (Ending P E) := by
  induction xs with
  | nil => exact Leads.agree fun s hs => hs
  | cons x xs ih =>
      change Agree P (f x >>= fun _ => xs.forM f) (g x >>= fun _ => xs.forM g) _
      exact (hf x (by simp)).bind_ending fun _ => ih fun y hy => hf y (by simp [hy])

theorem Agree.mapM (hf : ∀ x ∈ xs, Agree P (f x) (g x) (Ending P E)) :
    Agree P (xs.mapM f) (xs.mapM g) (Ending P E) := by
  induction xs with
  | nil => exact Leads.agree fun s hs => hs
  | cons x xs ih =>
      rw [List.mapM_cons, List.mapM_cons]
      refine (hf x (by simp)).bind_ending fun _ => ?_
      refine (ih fun y hy => hf y (by simp [hy])).bind_ending fun _ => ?_
      exact Leads.agree fun s hs => hs

end Ending

end Act

end ShaderPipeline
