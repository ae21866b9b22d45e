import ShaderPipeline.Bin
import ShaderPipeline.Proofs.Act.Transcript

namespace ShaderPipeline.Bin

open Act

variable {P D W α β : Type}

inductive Call (P : Type) where
  | shader (handle : Int)
  | program (p : P)

def Call.handles : Call P → List Int
  | .shader handle => [handle]
  | .program _ => []

abbrev Turn (P D : Type) := ShaderPipeline.Turn (Request P D) Request.Answer (Call P)

/-- The turns from a drain on, seen from outside, when it has deleted `handles` already. It ends
with the first object that cannot be deleted, or returns the handles that it has deleted. -/
inductive Drained (way : D) : (handles : List Int) → List (Turn P D) → Prop
  | next {handles : List Int} {c : Call P} {l : List (Turn P D)}
      (h : Drained way (handles ++ c.handles) l) :
      Drained way handles (.called c :: .ended (.ok ()) :: l)
  | failed {handles : List Int} {c : Call P} {fault : Fault} : Drained way handles
      [.called c, .ended (.error fault), .answered (.drain way) (.error fault)]
  | returned {handles : List Int} : Drained way handles [.answered (.drain way) (.ok handles)]

def Served (n : Nat) : Request P D → List (Turn P D) → Prop
  | .add handle, l => l = [.answered (.add handle) (.ok ())]
  | .addProgram p, l => l = [.answered (.addProgram p) (.ok ())]
  | .pending, l => l = [.answered .pending (.ok n)]
  | .drain way, l => Drained way [] l

section Books

def adding : Turn P D → List Int
  | .answered (.add handle) (.ok _) => if handle = 0 then [] else [handle]
  | _ => []

def addingProgram : Turn P D → List P
  | .answered (.addProgram p) (.ok _) => p.toList
  | _ => []

def taking : Turn P D → List Int
  | .called (.shader handle) => [handle]
  | _ => []

def takingProgram : Turn P D → List P
  | .called (.program p) => [p]
  | _ => []

def added (turns : List (Turn P D)) : List Int := turns.flatMap adding

def addedPrograms (turns : List (Turn P D)) : List P := turns.flatMap addingProgram

def taken (turns : List (Turn P D)) : List Int := turns.flatMap taking

def takenPrograms (turns : List (Turn P D)) : List P := turns.flatMap takingProgram

def untaken (turns : List (Turn P D)) : Nat :=
  (added turns).length + (addedPrograms turns).length
    - ((taken turns).length + (takenPrograms turns).length)

end Books

section Law

def replay (b : Bin P) : Turn P D → Bin P
  | .answered (.add handle) (.ok _) => b.add handle
  | .answered (.addProgram p) (.ok _) => b.addProgram p
  | .called (.shader _) => { b with shaders := b.shaders.tail }
  | .called (.program _) => { b with programs := b.programs.tail }
  | _ => b

def law (depth : Nat) (s : Bin P × Nat) : Turn P D → List (Turn P D) → Prop
  | .asked r, later => Served s.1.pending r (surface 0 later) ∨
    depth ≤ s.2 ∧ surface 0 later = [.answered r (.error .budgetSpent)]
  | .answered (.drain _) r, _ => ∀ handles, r = .ok handles → s.1 = {}
  | .called (.shader handle), _ => s.1.shaders.head? = some handle
  | .called (.program p), _ => s.1.shaders = [] ∧ s.1.programs.head? = some p
  | _, _ => True

end Law

/-- Those who delete may count what is in the bin and drain it, but put nothing in. -/
def Request.Takes : Request P D → Prop
  | .add _ => False
  | .addProgram _ => False
  | .pending => True
  | .drain _ => True

def drawing (depth : Nat) (s : Bin P × Nat) (turn : Turn P D) (later : List (Turn P D)) : Prop :=
  law depth s turn later ∧ adding turn = [] ∧ addingProgram turn = []

section Runs

variable {depth n : Nat}

def Taken (depth n : Nat) (c : Call P) (b : Bin P) (l : List (Turn P D)) (r : Except Fault Unit)
    (d : Bin P) : Prop :=
  ∃ m, l = .called c :: m ++ [.ended r] ∧ Talk (drawing depth) replay (n + 1) b m d

structure Emptier (d b : Bin P) : Prop where
  shaders : d.shaders <:+ b.shaders
  programs : d.programs <:+ b.programs

theorem emptier_replay {b : Bin P} {turn : Turn P D} (h : adding turn = [])
    (hp : addingProgram turn = []) : Emptier (replay b turn) b := by
  have hself : Emptier b b := ⟨List.suffix_refl _, List.suffix_refl _⟩
  cases turn with
  | asked | ended => exact hself
  | called c =>
      cases c with
      | shader handle => exact ⟨List.tail_suffix _, List.suffix_refl _⟩
      | program p => exact ⟨List.suffix_refl _, List.tail_suffix _⟩
  | answered r answer =>
      cases r with
      | pending | drain => exact hself
      | add handle =>
          cases answer with
          | error fault => exact hself
          | ok =>
              rw [replay, Bin.add]
              by_cases h0 : handle = 0
              · rw [if_pos h0]
                exact hself
              · simp [adding, h0] at h
      | addProgram p =>
          cases answer with
          | error fault => exact hself
          | ok =>
              have hnone : p.toList = [] := hp
              rw [replay, addProgram, hnone, List.append_nil]
              exact hself

theorem emptier_of_talk {b d : Bin P} {l : List (Turn P D)}
    (h : Talk (drawing depth) replay n b l d) : Emptier d b := by
  refine h.keeps_end (I := fun _ c => Emptier c b) ⟨List.suffix_refl _, List.suffix_refl _⟩ ?_
  intro _ s turn later hl hs
  have hturn : Emptier (replay s.1 turn) s.1 := emptier_replay hl.2.1 hl.2.2
  exact ⟨hturn.shaders.trans hs.shaders, hturn.programs.trans hs.programs⟩

def Opening (way : D) (gain : α → List Int) (l : List (Turn P D)) : Except Fault α → Prop
  | .ok x => ∀ handles more, Drained way (handles ++ gain x) (surface 0 more) →
      Drained way handles (surface 0 (l ++ more))
  | .error fault => ∀ handles more,
      Drained way handles (surface 0 (l ++ .answered (.drain way) (.error fault) :: more))

theorem Taken.talk {c : Call P} {b d : Bin P} {l : List (Turn P D)} {r : Except Fault Unit}
    (h : Taken depth n c (replay b (.called c : Turn P D)) l r d)
    (hlaw : ∀ later, drawing depth (b, n) (.called c : Turn P D) later) :
    Talk (drawing depth) replay n b l d := by
  obtain ⟨m, rfl, hm⟩ := h
  exact hm.call hlaw fun _ => ⟨trivial, rfl, rfl⟩

theorem Taken.emptier {c : Call P} {b d : Bin P} {l : List (Turn P D)} {r : Except Fault Unit}
    (h : Taken depth n c b l r d) : Emptier d b := by
  obtain ⟨m, rfl, hm⟩ := h
  exact emptier_of_talk hm

theorem Taken.opening_failed {way : D} {gain : α → List Int} {c : Call P} {b d : Bin P}
    {l : List (Turn P D)} {fault : Fault} (h : Taken depth n c b l (.error fault) d) :
    Opening way gain l (.error fault) := by
  obtain ⟨m, rfl, hm⟩ := h
  intro handles more
  rw [surface_call hm]
  exact .failed

theorem Taken.opening {way : D} {gain : α → List Int} {c : Call P} {b d : Bin P}
    {l m : List (Turn P D)} {r : Except Fault α} {f : α → α} (h : Taken depth n c b l (.ok ()) d)
    (hr : Opening way gain m r) (hf : ∀ x, gain (f x) = c.handles ++ gain x) :
    Opening way gain (l ++ m) (r.map f) := by
  obtain ⟨n, rfl, hn⟩ := h
  cases r with
  | ok x =>
      intro handles more hmore
      rw [List.append_assoc, surface_call hn]
      refine .next (hr _ more ?_)
      rwa [List.append_assoc, ← hf]
  | error fault =>
      intro handles more
      rw [List.append_assoc, surface_call hn]
      exact .next (hr _ more)

/-- A queue of the bin, drained when the bin is `ready` for it. `call` takes an object out, and what
has been drained is counted from `nothing` on. -/
structure Queue (P D β α : Type) where
  items : Bin P → List β
  ready : Bin P → Prop
  call : β → Call P
  nothing : α
  count : β → α → α
  gain : α → List Int
  gain_nothing : gain nothing = []
  gain_count : ∀ x y, gain (count x y) = (call x).handles ++ gain y
  items_replay : ∀ b x, items (replay b (.called (call x) : Turn P D)) = (items b).tail
  lawful : ∀ {depth n b x rest}, items b = x :: rest → ready b →
    ∀ later, drawing depth (b, n) (.called (call x) : Turn P D) later
  emptier : ∀ {d b}, Emptier d b → ready b → items d <:+ items b ∧ ready d

def shaderQueue : Queue P D Int (List Int) where
  items := Bin.shaders
  ready _ := True
  call := .shader
  nothing := []
  count := List.cons
  gain := id
  gain_nothing := rfl
  gain_count _ _ := rfl
  items_replay _ _ := rfl
  lawful h _ _ := ⟨by rw [law, h, List.head?_cons], rfl, rfl⟩
  emptier h _ := ⟨h.shaders, trivial⟩

def programQueue : Queue P D P Nat where
  items := Bin.programs
  ready b := b.shaders = []
  call := .program
  nothing := 0
  count _ n := n + 1
  gain _ := []
  gain_nothing := rfl
  gain_count _ _ := rfl
  items_replay _ _ := rfl
  lawful h hready _ := ⟨⟨hready, by rw [h, List.head?_cons]⟩, rfl, rfl⟩
  emptier h hready := ⟨h.programs, List.suffix_nil.mp (hready ▸ h.shaders)⟩

structure Drains (q : Queue P D β α) (act : β → Act (Bin P × W) Unit)
    (run : (limit : Nat) → Act (Bin P × W) α) : Prop where
  zero : ∀ b w, (run 0).outcome (b, w) =
    (if q.items b = [] then .ok q.nothing else .error .budgetSpent, (b, w))
  nil : ∀ limit b w, q.items b = [] → (run (limit + 1)).outcome (b, w) = (.ok q.nothing, (b, w))
  cons : ∀ limit b w x rest, q.items b = x :: rest → (run (limit + 1)).outcome (b, w) =
    (act x >>= fun _ => run limit >>= fun y => pure (q.count x y)).outcome
      (replay b (.called (q.call x) : Turn P D), w)

theorem drains_drainShaders (delete : Int → Act (Bin P × W) Unit) :
    Drains (D := D) shaderQueue delete (drainShaders delete) where
  zero b w := by
    rw [drainShaders, outcome_bind, outcome_own]
    dsimp only
    rw [outcome_ite]
    cases hb : b.shaders <;> simp [shaderQueue, hb]
  nil limit b w h := by
    rw [drainShaders, outcome_bind, outcome_own]
    dsimp only
    rw [show b.shaders = [] from h]
    rfl
  cons limit b w x rest h := by
    rw [drainShaders, outcome_bind, outcome_own]
    dsimp only [shaderQueue, replay] at h ⊢
    rw [h]
    rfl

theorem drains_drainPrograms (release : P → Act (Bin P × W) Unit) :
    Drains (D := D) programQueue release (drainPrograms release) where
  zero b w := by
    rw [drainPrograms, outcome_bind, outcome_own]
    dsimp only
    rw [outcome_ite]
    cases hb : b.programs <;> simp [programQueue, hb]
  nil limit b w h := by
    rw [drainPrograms, outcome_bind, outcome_own]
    dsimp only
    rw [show b.programs = [] from h]
    rfl
  cons limit b w x rest h := by
    rw [drainPrograms, outcome_bind, outcome_own]
    dsimp only [programQueue, replay] at h ⊢
    rw [h]
    rfl

structure Cleared (depth n : Nat) (q : Queue P D β α) (way : D) (b : Bin P) (l : List (Turn P D))
    (r : Except Fault α) (d : Bin P) : Prop where
  talk : Talk (drawing depth) replay n b l d
  opening : Opening way q.gain l r
  empty : ∀ x, r = .ok x → q.items d = []

variable {q : Queue P D β α} {act : β → Act (Bin P × W) Unit} {run : Nat → Act (Bin P × W) α}
variable {act' : β → Act (Bin P × Transcript W (Turn P D)) Unit}
variable {run' : Nat → Act (Bin P × Transcript W (Turn P D)) α}

theorem cleared_nil (way : D) {b : Bin P} (h : q.items b = []) :
    Cleared depth n q way b [] (.ok q.nothing) b := by
  refine ⟨.nil b, fun handles more hmore => ?_, fun _ _ => h⟩
  rwa [q.gain_nothing, List.append_nil] at hmore

theorem Taken.cleared {way : D} {b t d : Bin P} {x : β} {rest : List β} {l m : List (Turn P D)}
    {r : Except Fault α}
    (h : Taken depth n (q.call x) (replay b (.called (q.call x) : Turn P D)) l (.ok ()) t)
    (hb : q.items b = x :: rest) (hready : q.ready b)
    (hm : (q.items t).length ≤ rest.length ∧ q.ready t → Cleared depth n q way t m r d) :
    Cleared depth n q way b (l ++ m) (r.map (q.count x)) d := by
  have htaken : Emptier (replay b (.called (q.call x) : Turn P D)) b := emptier_replay rfl rfl
  obtain ⟨hitems, hstill⟩ := q.emptier h.emptier (q.emptier htaken hready).2
  rw [q.items_replay, hb, List.tail_cons] at hitems
  have hm := hm ⟨hitems.length_le, hstill⟩
  refine ⟨(h.talk (q.lawful hb hready)).append hm.talk, h.opening hm.opening (q.gain_count x),
    fun y hy => ?_⟩
  cases r with
  | ok z => exact hm.empty z rfl
  | error fault => cases hy

theorem writes_run (hrun : Drains q act run) (hrun' : Drains q act' run')
    (hact : ∀ x, Writes (Taken depth n (q.call x)) (act x) (act' x)) (way : D) (limit : Nat) :
    Writes (fun b l r d => (q.items b).length ≤ limit → q.ready b → Cleared depth n q way b l r d)
      (run limit) (run' limit) := by
  induction limit with
  | zero =>
      intro b w turns
      rw [hrun.zero, hrun'.zero]
      refine ⟨[], by rw [List.append_nil], fun hlength _ => ?_⟩
      have hb : q.items b = [] := List.eq_nil_of_length_eq_zero (Nat.eq_zero_of_le_zero hlength)
      rw [if_pos hb]
      exact cleared_nil way hb
  | succ limit ih =>
      intro b w turns
      cases hb : q.items b with
      | nil =>
          rw [hrun.nil _ _ _ hb, hrun'.nil _ _ _ hb]
          exact ⟨[], by rw [List.append_nil], fun _ _ => cleared_nil way hb⟩
      | cons x rest =>
          rw [hrun.cons _ _ _ _ _ hb, hrun'.cons _ _ _ _ _ hb]
          have hrest := (hact x).bind (fun _ => ih.map (q.count x))
            (T := fun s l r d => ∀ b, s = replay b (.called (q.call x) : Turn P D) →
              q.items b = x :: rest → rest.length ≤ limit → q.ready b →
              Cleared depth n q way b l r d)
            (fun s l _ t m r u hl ⟨r', hr, hm⟩ b hs hb hlength hready => by
              subst hs hr
              exact hl.cleared hb hready fun ht => hm (Nat.le_trans ht.1 hlength) ht.2)
            (fun s l fault t hl b hs hb _ hready => by
              subst hs
              exact ⟨hl.talk (q.lawful hb hready), hl.opening_failed, nofun⟩)
          obtain ⟨more, hout, hcleared⟩ := hrest (replay b (.called (q.call x) : Turn P D)) w turns
          refine ⟨more, hout, fun hlength hready => hcleared b rfl hb ?_ hready⟩
          rw [hb] at hlength
          exact Nat.le_of_succ_le_succ hlength

variable [Records W] {delete : Int → Act (Bin P × W) Unit}
variable {delete' : Int → Act (Bin P × Transcript W (Turn P D)) Unit}
variable {release : P → Act (Bin P × W) Unit}
variable {release' : P → Act (Bin P × Transcript W (Turn P D)) Unit}

/-- The turns of a drain, of which `handles` are deleted when they begin. -/
structure Draining (depth n : Nat) (way : D) (handles : List Int) (b : Bin P) (l : List (Turn P D))
    (r : Except Fault (List Int)) (d : Bin P) : Prop where
  talk : Talk (drawing depth) replay n b l d
  drained : ∀ more, Drained way handles (surface 0 (l ++ .answered (.drain way) r :: more))
  empty : ∀ deleted, r = .ok deleted → d = {}

theorem Cleared.draining {way : D} {handles : List Int} {b d : Bin P} {l : List (Turn P D)}
    {r : Except Fault Nat} (h : Cleared depth n programQueue way b l r d) (hb : b.shaders = []) :
    Draining depth n way handles b l (r.map fun _ => handles) d := by
  have hemptier := emptier_of_talk h.talk
  have hopening := h.opening
  refine ⟨h.talk, fun more => ?_, fun deleted hr => ?_⟩
  · cases r with
    | ok n =>
        refine hopening handles _ ?_
        rw [programQueue, List.append_nil]
        exact .returned
    | error fault => exact hopening handles more
  · cases r with
    | ok n =>
        have hshaders : d.shaders = [] := List.suffix_nil.mp (hb ▸ hemptier.shaders)
        have hprograms : d.programs = [] := h.empty n rfl
        cases d
        simp_all
    | error fault => cases hr

theorem writes_drain (way : D)
    (hdelete : ∀ handle, Writes (Taken depth n (.shader handle)) (delete handle) (delete' handle))
    (hrelease : ∀ p, Writes (Taken depth n (.program p)) (release p) (release' p)) (extra : Nat) :
    Writes (Draining depth n way []) (drain delete release extra)
      (drain delete' release' extra) := by
  rw [drain, drain]
  refine .own_bind fun b₀ => ?_
  refine (writes_run (drains_drainShaders delete) (drains_drainShaders delete') hdelete way
    (b₀.shaders.length + extra)).bind
    (R := fun handles b l r d => b.shaders = [] → Draining depth n way handles b l r d)
    (fun handles => ?_) (fun b l handles t m r d hl hm hb => ?_) fun b l fault t hl hb => ?_
  · refine .own_bind fun b₁ => ?_
    refine (writes_run (drains_drainPrograms release) (drains_drainPrograms release') hrelease way
      (b₁.programs.length + extra)).bind
      (R := fun _ b l r d => l = [] ∧ r = .ok handles ∧ d = b) (fun released => ?_)
      (fun b l n t _ _ _ hl ⟨hm, hr, hd⟩ hb hready => ?_) fun b l fault t hl hb hready => ?_
    · intro b w turns
      refine ⟨[], ?_⟩
      rw [List.append_nil]
      split
      case isTrue => exact ⟨rfl, rfl, rfl, rfl⟩
      case isFalse => exact ⟨rfl, rfl, rfl, rfl⟩
    · subst hm hr hd hb
      rw [List.append_nil]
      exact (hl (Nat.le_add_right _ _) hready).draining (r := .ok n) hready
    · subst hb
      exact (hl (Nat.le_add_right _ _) hready).draining (r := .error fault) hready
  · subst hb
    have hcleared := hl (Nat.le_add_right _ _) trivial
    have hrest := hm (hcleared.empty handles rfl)
    refine ⟨hcleared.talk.append hrest.talk, fun more => ?_, hrest.empty⟩
    rw [List.append_assoc]
    exact hcleared.opening [] _ (hrest.drained more)
  · subst hb
    have hcleared := hl (Nat.le_add_right _ _) trivial
    exact ⟨hcleared.talk, fun more => hcleared.opening [] more, nofun⟩

section Respond

variable {deleter : D → Int → Act (Bin P × W) Unit}
variable {deleter' : D → Int → Act (Bin P × Transcript W (Turn P D)) Unit}

theorem writes_respond_taking {r : Request P D} (hr : r.Takes)
    (hdelete : ∀ way handle,
      Writes (Taken depth n (.shader handle)) (deleter way handle) (deleter' way handle))
    (hrelease : ∀ p, Writes (Taken depth n (.program p)) (release p) (release' p)) (extra : Nat) :
    Writes
      (fun b l a d => Talk (drawing depth) replay n b (.asked r :: l ++ [.answered r a]) d)
      (respond deleter release extra r) (respond deleter' release' extra r) := by
  cases r with
  | add handle => exact hr.elim
  | addProgram p => exact hr.elim
  | pending =>
      refine (Writes.own (x := pending) (f := id) (fun _ _ => rfl) fun _ _ => rfl).mono ?_
      rintro b _ _ d ⟨rfl, rfl, hd⟩
      subst hd
      exact Talk.exchange (.nil _) (fun _ => ⟨.inl rfl, rfl, rfl⟩) fun _ => ⟨trivial, rfl, rfl⟩
  | drain way =>
      refine (writes_drain way (hdelete way) hrelease extra).mono fun b l a d h => ?_
      exact h.talk.exchange (fun more => ⟨.inl (h.drained more), rfl, rfl⟩)
        fun _ => ⟨h.empty, rfl, rfl⟩

theorem writes_respond
    (hdelete : ∀ way handle,
      Writes (Taken depth n (.shader handle)) (deleter way handle) (deleter' way handle))
    (hrelease : ∀ p, Writes (Taken depth n (.program p)) (release p) (release' p)) (extra : Nat)
    (r : Request P D) : Writes
      (fun b l a d => Talk (law depth) replay n b (.asked r :: l ++ [.answered r a]) d)
      (respond deleter release extra r) (respond deleter' release' extra r) := by
  by_cases hr : r.Takes
  · exact (writes_respond_taking hr hdelete hrelease extra).mono
      fun _ _ _ _ h => h.mono fun _ _ _ hl => hl.1
  · cases r with
    | pending | drain => exact absurd trivial hr
    | add handle =>
        refine (Writes.own (f := Bin.add handle) (fun _ _ => rfl) fun _ _ => rfl).mono ?_
        rintro b _ _ _ ⟨rfl, rfl, rfl⟩
        exact Talk.exchange (.nil b) (fun _ => .inl rfl) fun _ => trivial
    | addProgram p =>
        refine (Writes.own (f := Bin.addProgram p) (fun _ _ => rfl) fun _ _ => rfl).mono ?_
        rintro b _ _ _ ⟨rfl, rfl, rfl⟩
        exact Talk.exchange (.nil b) (fun _ => .inl rfl) fun _ => trivial

end Respond

end Runs

section Perform

variable [Records W] {deleter : D → Int → Client (Request P D) Request.Answer W Unit}
variable {releaser : P → Client (Request P D) Request.Answer W Unit} {depth n left : Nat}

def deleting (deleter : D → Int → Client (Request P D) Request.Answer W Unit) (way : D)
    (handle : Int) : Client (Request P D) Request.Answer (Transcript W (Turn P D)) Unit :=
  (deleter way handle).transcribedFrom (.shader handle)

def releasing (releaser : P → Client (Request P D) Request.Answer W Unit) (p : P) :
    Client (Request P D) Request.Answer (Transcript W (Turn P D)) Unit :=
  (releaser p).transcribedFrom (.program p)

theorem writes_refused {law : Bin P × Nat → Turn P D → List (Turn P D) → Prop} (r : Request P D)
    (hasked : ∀ b more, law (b, n) (.asked r) (.answered r (.error .budgetSpent) :: more))
    (hanswered : ∀ b more, law (b, n) (.answered r (.error .budgetSpent)) more) :
    Writes (fun b l a d => Talk law replay n b (.asked r :: l ++ [.answered r a]) d)
      (perform deleter releaser 0 r) (perform (deleting deleter) (releasing releaser) 0 r) := by
  intro b w turns
  refine ⟨[], by rw [List.append_nil]; rfl, ?_⟩
  have hstays : replay b (.answered r (.error .budgetSpent) : Turn P D) = b := by
    cases r <;> rfl
  have htalk := Talk.exchange (.nil (replay b (.asked r : Turn P D))) (hasked b) (hanswered b)
  change Talk law replay n b _ (replay b (.answered r (.error .budgetSpent) : Turn P D)) at htalk
  rw [hstays] at htalk
  exact htalk

variable (hd : ∀ way handle, (deleter way handle).Within Request.Takes fun _ => True)
variable (hr : ∀ p, (releaser p).Within Request.Takes fun _ => True)
include hd hr

theorem writes_perform_taking (hleft : depth = n + left) {r : Request P D} (h : r.Takes) : Writes
    (fun b l a d => Talk (drawing depth) replay n b (.asked r :: l ++ [.answered r a]) d)
    (perform deleter releaser left r) (perform (deleting deleter) (releasing releaser) left r) := by
  induction left generalizing n r with
  | zero =>
      refine writes_refused r (fun b more => ⟨.inr ⟨Nat.le_of_eq hleft, rfl⟩, rfl, rfl⟩) ?_
      intro b more
      cases r <;> first | exact h.elim | exact ⟨trivial, rfl, rfl⟩ | exact ⟨nofun, rfl, rfl⟩
  | succ left ih =>
      have hnested (op : Request P D) (hop : op.Takes) := ih (by omega : depth = n + 1 + left) hop
      exact writes_respond_taking h
        (fun way handle => writes_transcribedFrom hnested (hd way handle) (.shader handle))
        (fun p => writes_transcribedFrom hnested (hr p) (.program p)) left

theorem writes_perform (hleft : depth = n + left) (r : Request P D) : Writes
    (fun b l a d => Talk (law depth) replay n b (.asked r :: l ++ [.answered r a]) d)
    (perform deleter releaser left r) (perform (deleting deleter) (releasing releaser) left r) := by
  cases left with
  | zero =>
      refine writes_refused r (fun b more => .inr ⟨Nat.le_of_eq hleft, rfl⟩) ?_
      intro b more
      cases r <;> first | exact trivial | exact nofun
  | succ left =>
      have hnested (op : Request P D) (hop : op.Takes) :=
        writes_perform_taking hd hr (by omega : depth = n + 1 + left) hop
      exact writes_respond
        (fun way handle => writes_transcribedFrom hnested (hd way handle) (.shader handle))
        (fun p => writes_transcribedFrom hnested (hr p) (.program p)) left r

end Perform

section Order

variable {depth n : Nat} {b : Bin P} {turn : Turn P D} {turns later : List (Turn P D)}

/-- What has been kept of the turns: what was put in is what was taken out and what is left. -/
structure Kept (turns : List (Turn P D)) (b : Bin P) : Prop where
  shaders : added turns = taken turns ++ b.shaders
  programs : addedPrograms turns = takenPrograms turns ++ b.programs

theorem shaders_replay (hl : law depth (b, n) turn later) :
    b.shaders ++ adding turn = taking turn ++ (replay b turn).shaders := by
  cases turn with
  | asked | ended => exact List.append_nil _
  | called c =>
      cases c with
      | shader handle =>
          obtain ⟨rest, hrest⟩ := List.head?_eq_some_iff.mp hl
          rw [replay, hrest]
          exact List.append_nil _
      | program p => exact List.append_nil _
  | answered r a =>
      cases r with
      | pending | drain => exact List.append_nil _
      | addProgram p => cases a <;> exact List.append_nil _
      | add handle =>
          cases a with
          | error fault => exact List.append_nil _
          | ok =>
              rw [replay, Bin.add, adding]
              by_cases h0 : handle = 0
              · rw [if_pos h0, if_pos h0, List.append_nil]
                rfl
              · rw [if_neg h0, if_neg h0]
                rfl

theorem programs_replay (hl : law depth (b, n) turn later) :
    b.programs ++ addingProgram turn = takingProgram turn ++ (replay b turn).programs := by
  cases turn with
  | asked | ended => exact List.append_nil _
  | called c =>
      cases c with
      | shader handle => exact List.append_nil _
      | program p =>
          obtain ⟨rest, hrest⟩ := List.head?_eq_some_iff.mp hl.2
          rw [replay, hrest]
          exact List.append_nil _
  | answered r a =>
      cases r with
      | pending | drain => exact List.append_nil _
      | addProgram p =>
          cases a with
          | error fault => exact List.append_nil _
          | ok => rfl
      | add handle =>
          cases a with
          | error fault => exact List.append_nil _
          | ok =>
              rw [replay, Bin.add]
              split <;> exact List.append_nil _

theorem Kept.after (h : Kept turns b) (hl : law depth (b, n) turn later) :
    Kept (turns ++ [turn]) (replay b turn) where
  shaders := by
    rw [added, taken, List.flatMap_append, List.flatMap_append, List.flatMap_singleton,
      List.flatMap_singleton, ← added, ← taken, h.shaders, List.append_assoc, shaders_replay hl,
      ← List.append_assoc]
  programs := by
    rw [addedPrograms, takenPrograms, List.flatMap_append, List.flatMap_append,
      List.flatMap_singleton, List.flatMap_singleton, ← addedPrograms, ← takenPrograms, h.programs,
      List.append_assoc, programs_replay hl, ← List.append_assoc]

theorem Kept.untaken (h : Kept turns b) : untaken turns = b.pending := by
  rw [Bin.untaken, h.shaders, h.programs, List.length_append, List.length_append, pending]
  omega

/-- The turns of a whole run, at whose end the bin is as given. -/
structure Orderly (depth : Nat) (turns : List (Turn P D)) (b : Bin P) : Prop where
  shaders : added turns = taken turns ++ b.shaders
  programs : addedPrograms turns = takenPrograms turns ++ b.programs
  shaders_first : ∀ past p later, turns = past ++ .called (.program p) :: later →
    added past = taken past
  served : ∀ past r later, turns = past ++ .asked r :: later →
    Served (untaken past) r (surface 0 later) ∨
      depth ≤ underway past ∧ surface 0 later = [.answered r (.error .budgetSpent)]
  emptied : ∀ past way handles later,
    turns = past ++ .answered (.drain way) (.ok handles) :: later →
    added past = taken past ∧ addedPrograms past = takenPrograms past

/-- Whatever a host asks of a new bin, and whether those who delete fail, if these put nothing in:
shaders are handed over to be deleted in the order in which they were put in, each once, and so are
programs, but no program while there are shaders; a drain that returns has emptied the bin and
returns the handles that it has deleted; and what is pending is counted right. -/
theorem taken_once [Records W] {deleter : D → Int → Client (Request P D) Request.Answer W Unit}
    {releaser : P → Client (Request P D) Request.Answer W Unit}
    (hd : ∀ way handle, (deleter way handle).Within Request.Takes fun _ => True)
    (hr : ∀ p, (releaser p).Within Request.Takes fun _ => True)
    (host : Client (Request P D) Request.Answer W α) (depth : Nat) (w : W) :
    ∃ (r : Except Fault α) (b : Bin P) (v : W) (turns : List (Turn P D)),
      (host.run (perform deleter releaser depth)).outcome ({}, w) = (r, (b, v)) ∧
      ((host.transcribed fun _ => []).run
        (perform (deleting deleter) (releasing releaser) depth)).outcome ({}, ⟨w, []⟩) =
          (r, (b, ⟨v, turns⟩)) ∧
      Orderly depth turns b := by
  obtain ⟨r, b, v, turns, hrun, hwritten, htalk⟩ :=
    exists_talk (writes_perform hd hr (Nat.zero_add depth).symm) host {} w
  have hstart : Kept (P := P) (D := D) [] {} := ⟨rfl, rfl⟩
  have hkept {past later : List (Turn P D)} (h : turns = past ++ later) :
      Kept past (past.foldl replay {}) :=
    htalk.keeps hstart (fun past s turn later hl hp => hp.after hl) h
  have hend : Kept turns b := htalk.keeps_end hstart fun past s turn later hl hp => hp.after hl
  refine ⟨r, b, v, turns, hrun, hwritten, hend.shaders, hend.programs, ?_, ?_, ?_⟩
  · rintro past p later rfl
    have hlaw := htalk.at
    rw [(hkept rfl).shaders, hlaw.1, List.append_nil]
  · rintro past r later rfl
    exact (hkept rfl).untaken ▸ htalk.at
  · rintro past way handles later rfl
    have hempty : past.foldl replay {} = ({} : Bin P) := htalk.at handles rfl
    refine ⟨(hkept rfl).shaders.trans ?_, (hkept rfl).programs.trans ?_⟩
    · rw [hempty, List.append_nil]
    · rw [hempty, List.append_nil]

structure Grave where
  handles : List Int := []

instance : Records Grave where
  record _ _ w := w

/-- Fail for one shader, and drain the bin again before any other is deleted. -/
def hasty (broken handle : Int) : Client (Request Text Int) Request.Answer Grave Unit :=
  if handle = broken then .fail (.raised .runtime "no such shader".toList)
  else .ask (.drain broken) fun _ =>
    .touch (fun w => { w with handles := w.handles ++ [handle] }) fun _ => .done ()

def plainly (_ : Text) : Client (Request Text Int) Request.Answer Grave Unit := .done ()

def insistent : Client (Request Text Int) Request.Answer Grave
    (Except Fault Nat × Except Fault (List Int)) :=
  .ask (.add 8) fun _ => .ask (.add 0) fun _ => .ask (.add 7) fun _ => .ask (.add 9) fun _ =>
  .ask (.addProgram (some "p".toList)) fun _ => .ask (.drain 8) fun _ => .ask .pending fun n =>
  .ask (.drain 0) fun handles => .done (n, handles)

theorem taken_once_of_hasty :
    (∀ broken handle, (hasty broken handle).Within Request.Takes fun _ => True) ∧
    (∀ p, (plainly p).Within Request.Takes fun _ => True) ∧
    ∃ turns : List (Turn Text Int),
      (insistent.run (perform hasty plainly 4)).outcome ({}, {}) =
        (.ok (.ok 3, .ok [7]), ({}, { handles := [9, 7] })) ∧ Orderly 4 turns {} := by
  have hd (broken handle : Int) : (hasty broken handle).Within Request.Takes fun _ => True := by
    rw [hasty]
    split
    · trivial
    · exact ⟨trivial, fun _ => ⟨trivial, fun _ => trivial⟩⟩
  have hr (p : Text) : (plainly p).Within Request.Takes fun _ => True := trivial
  obtain ⟨r, b, v, turns, hrun, _, horderly⟩ := taken_once hd hr insistent 4 ({} : Grave)
  have hend : (insistent.run (perform hasty plainly 4)).outcome ({}, {}) =
      (.ok (.ok 3, .ok [7]), ({}, { handles := [9, 7] })) := rfl
  obtain rfl : {} = b := congrArg (·.2.1) (hend.symm.trans hrun)
  exact ⟨hd, hr, turns, hend, horderly⟩

end Order

end ShaderPipeline.Bin
