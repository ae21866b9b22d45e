import ShaderPipeline.Proofs.Act.Leads

namespace ShaderPipeline

/-- What is asked between the call and the end of a callback is asked by the callback. -/
inductive Turn (Op : Type) (Answer : Op → Type) (Call : Type) where
  | asked (op : Op)
  | answered (op : Op) (r : Except Fault (Answer op))
  | called (c : Call)
  | ended (r : Except Fault Unit)

def Turn.nest {Op Call : Type} {Answer : Op → Type} (n : Nat) : Turn Op Answer Call → Nat
  | .called _ => n + 1
  | .ended _ => n - 1
  | _ => n

structure Transcript (W E : Type) where
  world : W
  turns : List E := []

variable {Op Call S E W α β : Type} {Answer : Op → Type}

instance [Records W] : Records (Transcript W E) where
  record level text t := { t with world := Records.record level text t.world }

def Transcript.write (turns : List E) (t : Transcript W E) : Transcript W E :=
  { t with turns := t.turns ++ turns }

namespace Client

/-- The client, writing down its turns; `last` are those that its end is entered with. -/
def transcribed (last : Except Fault α → List (Turn Op Answer Call)) :
    Client Op Answer W α → Client Op Answer (Transcript W (Turn Op Answer Call)) α
  | done a => touch (·.write (last (.ok a))) fun _ => done a
  | fail fault => touch (·.write (last (.error fault))) fun _ => fail fault
  | touch update next =>
    touch (fun t => { t with world := update t.world }) fun t => (next t.world).transcribed last
  | ask op next =>
    touch (·.write [.asked op]) fun _ => ask op fun r =>
      touch (·.write [.answered op r]) fun _ => (next r).transcribed last

def transcribedFrom (c : Call) (client : Client Op Answer W Unit) :
    Client Op Answer (Transcript W (Turn Op Answer Call)) Unit :=
  touch (·.write [.called c]) fun _ => client.transcribed fun r => [.ended r]

end Client

namespace Act

variable {a : Act (S × W) α} {b : Act (S × Transcript W E) α}

/-- The second action does what the first does, and the turns that it writes down are as `Q` says of
them, of the states before and after, and of the outcome. -/
def Writes (Q : S → List E → Except Fault α → S → Prop) (a : Act (S × W) α)
    (b : Act (S × Transcript W E) α) : Prop :=
  ∀ s w turns, ∃ more,
    b.outcome (s, ⟨w, turns⟩) = ((a.outcome (s, w)).1, (a.outcome (s, w)).2.1,
      ⟨(a.outcome (s, w)).2.2, turns ++ more⟩) ∧
    Q s more (a.outcome (s, w)).1 (a.outcome (s, w)).2.1

theorem Writes.mono {Q Q' : S → List E → Except Fault α → S → Prop} (h : Writes Q a b)
    (hQ : ∀ s l r t, Q s l r t → Q' s l r t) : Writes Q' a b := by
  intro s w turns
  obtain ⟨more, hb, hq⟩ := h s w turns
  exact ⟨more, hb, hQ _ _ _ _ hq⟩

theorem Writes.own {x : S → α} {f : S → S} (ha : ∀ s w, a.outcome (s, w) = (.ok (x s), (f s, w)))
    (hb : ∀ s t, b.outcome (s, t) = (.ok (x s), (f s, t))) :
    Writes (fun s l r t => l = [] ∧ r = .ok (x s) ∧ t = f s) a b := by
  intro s w turns
  rw [ha, hb]
  exact ⟨[], by rw [List.append_nil], rfl, rfl, rfl⟩

theorem Writes.bind {f : α → Act (S × W) β} {g : α → Act (S × Transcript W E) β}
    {Q : S → List E → Except Fault α → S → Prop} {R : α → S → List E → Except Fault β → S → Prop}
    {T : S → List E → Except Fault β → S → Prop} (ha : Writes Q a b)
    (hf : ∀ x, Writes (R x) (f x) (g x))
    (hok : ∀ s l x t m r u, Q s l (.ok x) t → R x t m r u → T s (l ++ m) r u)
    (herr : ∀ s l fault t, Q s l (.error fault) t → T s l (.error fault) t) :
    Writes T (a >>= f) (b >>= g) := by
  intro s w turns
  obtain ⟨l, hb, hq⟩ := ha s w turns
  cases hr : a.outcome (s, w) with
  | mk r t =>
      rw [hr] at hb hq
      cases r with
      | ok x =>
          obtain ⟨m, hg, hR⟩ := hf x t.1 t.2 (turns ++ l)
          refine ⟨l ++ m, ?_, ?_⟩
          · rw [outcome_bind_ok _ hb, outcome_bind_ok _ hr, hg, List.append_assoc]
          · rw [outcome_bind_ok _ hr]
            exact hok _ _ _ _ _ _ _ hq hR
      | error fault =>
          refine ⟨l, ?_, ?_⟩
          · rw [outcome_bind_error _ hb, outcome_bind_error _ hr]
          · rw [outcome_bind_error _ hr]
            exact herr _ _ _ _ hq

theorem Writes.own_bind {f : S → Act (S × W) α} {g : S → Act (S × Transcript W E) α}
    {Q : S → List E → Except Fault α → S → Prop}
    (h : ∀ s, Writes (fun s' l r t => s' = s → Q s' l r t) (f s) (g s)) :
    Writes Q (Act.own >>= f) (Act.own >>= g) := by
  intro s w turns
  obtain ⟨more, hb, hq⟩ := h s s w turns
  exact ⟨more, hb, hq rfl⟩

theorem Writes.map {Q : S → List E → Except Fault α → S → Prop} (ha : Writes Q a b) (f : α → β) :
    Writes (fun s l r t => ∃ r', r = r'.map f ∧ Q s l r' t) (a >>= fun x => pure (f x))
      (b >>= fun x => pure (f x)) := by
  refine ha.bind (fun x => Writes.own (x := fun _ => f x) (f := id) (fun _ _ => rfl) fun _ _ => rfl)
    ?_ fun s l fault t h => ⟨.error fault, rfl, h⟩
  rintro s l x t _ _ _ h ⟨rfl, rfl, rfl⟩
  rw [List.append_nil]
  exact ⟨.ok x, rfl, h⟩

end Act

section Along

variable {law : S → E → List E → Prop} {replay : S → E → S}
variable {s : S} {e : E} {l m past later : List E}

/-- Each entry is as the law says of it, in the state to which those before it lead, whatever comes
behind the list. -/
def Along (law : S → E → List E → Prop) (replay : S → E → S) : S → List E → Prop
  | _, [] => True
  | s, e :: l => (∀ more, law s e (l ++ more)) ∧ Along law replay (replay s e) l

theorem Along.mono {law' : S → E → List E → Prop} (h : Along law replay s l)
    (hlaw : ∀ s e later, law s e later → law' s e later) : Along law' replay s l := by
  induction l generalizing s with
  | nil => trivial
  | cons e l ih => exact ⟨fun more => hlaw _ _ _ (h.1 more), ih h.2⟩

theorem Along.append (hl : Along law replay s l) (hm : Along law replay (l.foldl replay s) m) :
    Along law replay s (l ++ m) := by
  induction l generalizing s with
  | nil => exact hm
  | cons e l ih =>
      refine ⟨fun more => ?_, ih hl.2 hm⟩
      have he := hl.1 (m ++ more)
      rwa [← List.append_assoc] at he

theorem Along.at (h : Along law replay s (past ++ e :: later)) :
    law (past.foldl replay s) e later := by
  induction past generalizing s with
  | nil =>
      have he := h.1 []
      rwa [List.append_nil] at he
  | cons d past ih => exact ih h.2

theorem Along.keeps {I : List E → S → Prop} (h : Along law replay s (past ++ later))
    (hstart : I [] s)
    (hstep : ∀ past s e later, law s e later → I past s → I (past ++ [e]) (replay s e)) :
    I past (past.foldl replay s) := by
  have hfrom : ∀ before, I before s → I (before ++ past) (past.foldl replay s) := by
    clear hstart
    induction past generalizing s with
    | nil =>
        intro before hb
        rwa [List.append_nil]
    | cons e past ih =>
        intro before hb
        have he := ih h.2 (before ++ [e]) (hstep before s e _ (h.1 []) hb)
        rwa [List.append_assoc] at he
  exact hfrom [] hstart

end Along

section Talks

/-- What the answer to a request looks like from outside, given the turns behind it: the calls that
are made for its sake, without what is asked during these, up to the answer itself. `level` counts
the calls that have not ended. -/
def surface : (level : Nat) → List (Turn Op Answer Call) → List (Turn Op Answer Call)
  | _, [] => []
  | level, .called c :: l =>
    if level = 0 then .called c :: surface 1 l else surface (level + 1) l
  | level, .ended r :: l =>
    if level ≤ 1 then .ended r :: surface 0 l else surface (level - 1) l
  | level, .answered op r :: l => if level = 0 then [.answered op r] else surface level l
  | level, .asked _ :: l => surface level l

def underway (turns : List (Turn Op Answer Call)) : Nat := turns.foldl Turn.nest 0

def nested (replay : S → Turn Op Answer Call → S) (s : S × Nat) (turn : Turn Op Answer Call) :
    S × Nat :=
  (replay s.1 turn, turn.nest s.2)

variable {law : S × Nat → Turn Op Answer Call → List (Turn Op Answer Call) → Prop}
variable {replay : S → Turn Op Answer Call → S} {n : Nat} {s t u : S}
variable {l m : List (Turn Op Answer Call)}

/-- The turns lead from one state to the other in keeping with the law while `n` calls are under
way, and no call or end among them is without its counterpart. -/
structure Talk (law : S × Nat → Turn Op Answer Call → List (Turn Op Answer Call) → Prop)
    (replay : S → Turn Op Answer Call → S) (n : Nat) (s : S) (l : List (Turn Op Answer Call))
    (t : S) : Prop where
  state : l.foldl (nested replay) (s, n) = (t, n)
  lawful : Along law (nested replay) (s, n) l
  inner : ∀ level more, surface (level + 1) (l ++ more) = surface (level + 1) more

theorem Talk.nil (s : S) : Talk law replay n s [] s := ⟨rfl, trivial, fun _ _ => rfl⟩

theorem Talk.mono {law' : S × Nat → Turn Op Answer Call → List (Turn Op Answer Call) → Prop}
    (h : Talk law replay n s l t) (hlaw : ∀ s e later, law s e later → law' s e later) :
    Talk law' replay n s l t :=
  ⟨h.state, h.lawful.mono hlaw, h.inner⟩

theorem Talk.append (hl : Talk law replay n s l t) (hm : Talk law replay n t m u) :
    Talk law replay n s (l ++ m) u where
  state := by rw [List.foldl_append, hl.state, hm.state]
  lawful := hl.lawful.append (hl.state.symm ▸ hm.lawful)
  inner level more := by rw [List.append_assoc, hl.inner, hm.inner]

theorem foldl_nested (l : List (Turn Op Answer Call)) (s : S) (n : Nat) :
    l.foldl (nested replay) (s, n) = (l.foldl replay s, l.foldl Turn.nest n) := by
  induction l generalizing s n with
  | nil => rfl
  | cons turn l ih => exact ih _ _

theorem Talk.at {past later : List (Turn Op Answer Call)} {turn : Turn Op Answer Call}
    (h : Talk law replay n s (past ++ turn :: later) t) :
    law (past.foldl replay s, past.foldl Turn.nest n) turn later := by
  rw [← foldl_nested]
  exact h.lawful.at

theorem Talk.keeps {I : List (Turn Op Answer Call) → S → Prop}
    {past later : List (Turn Op Answer Call)} (h : Talk law replay n s l t) (hstart : I [] s)
    (hstep : ∀ past s turn later, law s turn later → I past s.1 →
      I (past ++ [turn]) (replay s.1 turn)) (hl : l = past ++ later) :
    I past (past.foldl replay s) := by
  subst hl
  have hkeeps := h.lawful.keeps (I := fun past s => I past s.1) hstart hstep
  rwa [foldl_nested] at hkeeps

theorem Talk.keeps_end {I : List (Turn Op Answer Call) → S → Prop}
    (h : Talk law replay n s l t) (hstart : I [] s)
    (hstep : ∀ past s turn later, law s turn later → I past s.1 →
      I (past ++ [turn]) (replay s.1 turn)) : I l t := by
  have hend : l.foldl replay s = t := congrArg Prod.fst ((foldl_nested l s n).symm.trans h.state)
  exact hend ▸ h.keeps hstart hstep (List.append_nil l).symm

section Exchanges

variable {op : Op} {r : Except Fault (Answer op)} {c : Call} {e : Except Fault Unit}

theorem Talk.exchange (h : Talk law replay n (replay s (.asked op)) l t)
    (hasked : ∀ more, law (s, n) (.asked op) (l ++ .answered op r :: more))
    (hanswered : ∀ more, law (t, n) (.answered op r) more) :
    Talk law replay n s (.asked op :: l ++ [.answered op r]) (replay t (.answered op r)) := by
  have hlast : Talk law replay n t [.answered op r] (replay t (.answered op r)) :=
    ⟨rfl, ⟨hanswered, trivial⟩, fun _ _ => rfl⟩
  have hrest := h.append hlast
  refine ⟨hrest.state, ⟨fun more => ?_, hrest.lawful⟩, hrest.inner⟩
  change law (s, n) (.asked op) (l ++ [.answered op r] ++ more)
  rw [List.append_assoc]
  exact hasked more

theorem Talk.call (h : Talk law replay (n + 1) (replay s (.called c)) l t)
    (hcalled : ∀ more, law (s, n) (.called c) more)
    (hended : ∀ more, law (t, n + 1) (.ended e) more) :
    Talk law replay n s (.called c :: l ++ [.ended e]) (replay t (.ended e)) where
  state := by
    have hl : l.foldl (nested replay) (nested replay (s, n) (.called c)) = (t, n + 1) := h.state
    rw [List.cons_append, List.foldl_cons, List.foldl_append, hl]
    rfl
  lawful := ⟨fun more => hcalled _, h.lawful.append (h.state.symm ▸ ⟨hended, trivial⟩)⟩
  inner level more := by
    rw [List.append_assoc, List.cons_append, surface, if_neg level.succ_ne_zero, h.inner]
    exact if_neg (by omega)

theorem surface_call (h : Talk law replay n s l t) (more : List (Turn Op Answer Call)) :
    surface 0 (.called c :: l ++ [.ended e] ++ more) = .called c :: .ended e :: surface 0 more := by
  rw [List.append_assoc, List.cons_append, surface, if_pos rfl, h.inner]
  rfl

end Exchanges

variable {may : Op → Prop} {perform : (op : Op) → Act (S × W) (Answer op)}
variable {perform' : (op : Op) → Act (S × Transcript W (Turn Op Answer Call)) (Answer op)}

theorem writes_transcribed (hp : ∀ op, may op → Act.Writes
      (fun s l r t => Talk law replay n s (.asked op :: l ++ [.answered op r]) t)
      (perform op) (perform' op))
    {c : Client Op Answer W α} (hc : c.Within may fun _ => True)
    (last : Except Fault α → List (Turn Op Answer Call)) :
    Act.Writes (fun s l r t => ∃ m, l = m ++ last r ∧ Talk law replay n s m t)
      (c.run perform) ((c.transcribed last).run perform') := by
  induction c with
  | done a => exact fun s w turns => ⟨_, rfl, [], rfl, .nil s⟩
  | fail fault => exact fun s w turns => ⟨_, rfl, [], rfl, .nil s⟩
  | touch update next ih => exact fun s w turns => ih w (hc.2 w) s (update w) turns
  | ask op next ih =>
      intro s w turns
      obtain ⟨l, hop, htalk⟩ := hp op hc.1 s w (turns ++ [.asked op])
      rw [Client.transcribed, Client.outcome_run_touch, Client.outcome_run_ask,
        Client.outcome_run_ask, Client.outcome_run_touch]
      cases ho : (perform op).outcome (s, w) with
      | mk r t =>
          rw [ho] at hop htalk
          obtain ⟨_, hrest, m, rfl, hm⟩ := ih r (hc.2 r) t.1 t.2
            (turns ++ [.asked op] ++ l ++ [.answered op r])
          refine ⟨.asked op :: l ++ [.answered op r] ++ (m ++ last _), ?_, _,
            (List.append_assoc _ _ _).symm, htalk.append hm⟩
          rw [Transcript.write, hop]
          simpa [Transcript.write] using hrest

theorem writes_transcribedFrom (hp : ∀ op, may op → Act.Writes
      (fun s l r t => Talk law replay n s (.asked op :: l ++ [.answered op r]) t)
      (perform op) (perform' op))
    {client : Client Op Answer W Unit} (hc : client.Within may fun _ => True) (c : Call) :
    Act.Writes (fun s l r t => ∃ m, l = .called c :: m ++ [.ended r] ∧ Talk law replay n s m t)
      (client.run perform) ((client.transcribedFrom c).run perform') := by
  intro s w turns
  obtain ⟨_, hrun, m, rfl, hm⟩ :=
    writes_transcribed hp hc (fun r => [.ended r]) s w (turns ++ [.called c])
  refine ⟨_, ?_, m, rfl, hm⟩
  rw [Client.transcribedFrom, Client.outcome_run_touch]
  simpa [Transcript.write] using hrun

theorem exists_talk (hp : ∀ op, Act.Writes
      (fun s l r t => Talk law replay 0 s (.asked op :: l ++ [.answered op r]) t)
      (perform op) (perform' op)) (host : Client Op Answer W α) (s : S) (w : W) :
    ∃ (r : Except Fault α) (t : S) (v : W) (turns : List (Turn Op Answer Call)),
      (host.run perform).outcome (s, w) = (r, (t, v)) ∧
      ((host.transcribed fun _ => []).run perform').outcome (s, ⟨w, []⟩) = (r, (t, ⟨v, turns⟩)) ∧
      Talk law replay 0 s turns t := by
  obtain ⟨_, hrun, turns, rfl, htalk⟩ := writes_transcribed (fun op _ => hp op)
    (Client.within_true host) (fun _ => []) s w []
  exact ⟨_, _, _, turns, rfl, by simpa using hrun, htalk⟩

end Talks

end ShaderPipeline
