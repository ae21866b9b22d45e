import ShaderPipeline.Proofs.Studio.Ownership
import ShaderPipeline.Proofs.Studio.Quiet

namespace ShaderPipeline.Studio

open Text Glsl Act

variable {W P V : Type}

/-- Each handle ever created is at one place: with one stage, in the bin, or deleted. Each program
ever linked is the studio's, in the bin, or released. What is deleted is left alone. -/
structure Accounted [DecidableEq P] (s : Studio W P) (l : List (Entry P)) : Prop where
  handles : ∀ x ∈ created l,
    (held s).count x + s.bin.shaders.count x + (deleted l).count x = 1
  programs : ∀ p ∈ linked l,
    s.program.toList.count p + s.bin.programs.count p + (released l).count p = 1
  noOthers : ∀ x ∉ created l, x ∉ held s ∧ x ∉ s.bin.shaders ∧ x ∉ deleted l
  retired : Retired l

section Books

variable [DecidableEq P] {s : Studio (Audit W P) P} {l : List (Entry P)}

theorem Balanced.accounted (h : Balanced [] [] s l) (hl : Fresh l) : Accounted s l := by
  refine ⟨fun x hx => ?_, fun p hp => ?_, fun x hx => ?_, h.retired⟩
  · have hc := h.handles x
    rw [List.count_eq_one_of_mem hl.handles hx, List.count_nil] at hc
    omega
  · have hc := h.programs p
    rw [List.count_eq_one_of_mem hl.programs hp, List.count_nil] at hc
    omega
  · have hc := h.handles x
    rw [List.count_eq_zero_of_not_mem hx] at hc
    refine ⟨?_, ?_, ?_⟩ <;> refine List.count_eq_zero.mp ?_ <;> omega

theorem Accounted.all_deleted (h : Accounted s l) (hh : held s = []) (hp : s.program = none)
    (hb : s.bin = {}) :
    (∀ x ∈ created l, (deleted l).count x = 1) ∧ ∀ p ∈ linked l, (released l).count p = 1 := by
  constructor
  · intro x hx
    have hc := h.handles x hx
    rw [hh, hb] at hc
    simpa using hc
  · intro p hx
    have hc := h.programs p hx
    rw [hp, hb] at hc
    simpa using hc

end Books

section Drain

theorem drainShaders_empties (delete : Int → Act W Unit) (ps : List P) (limit : Nat) :
    Leads (fun b => b.1.programs = ps) (Bin.drainShaders (fun x => outside (delete x)) limit)
      fun r b => ∀ xs, r = .ok xs → b.1.shaders = [] ∧ b.1.programs = ps := by
  induction limit with
  | zero =>
      rintro ⟨⟨shaders, programs⟩, w⟩ hp
      cases shaders with
      | nil => exact fun _ _ => ⟨rfl, hp⟩
      | cons x xs =>
          intro _ hr
          cases hr
  | succ limit ih =>
      rw [Bin.drainShaders]
      refine Leads.bind_returned leads_own fun b => ?_
      split
      case h_1 hs =>
          rintro t ⟨hp, hb⟩ _ _
          cases hb
          exact ⟨hs, hp⟩
      case h_2 x rest hs =>
          refine Leads.change_bind (R := fun b => b.1.programs = ps) (fun c w h => h.1) ?_
          refine Leads.bind_returned (R := fun _ b => b.1.programs = ps) (fun _ h => h) fun _ => ?_
          exact ih.bind_returned fun xs => .pure fun _ h _ _ => h xs rfl

theorem drainPrograms_empties (release : P → Act W Unit) (limit : Nat) :
    Leads (fun b => b.1.shaders = []) (Bin.drainPrograms (fun p => outside (release p)) limit)
      fun r b => ∀ n, r = .ok n → b.1 = {} := by
  induction limit with
  | zero =>
      rintro ⟨⟨shaders, programs⟩, w⟩ hs
      cases hs
      cases programs with
      | nil => exact fun _ _ => rfl
      | cons p ps =>
          intro _ hr
          cases hr
  | succ limit ih =>
      rw [Bin.drainPrograms]
      refine Leads.bind_returned leads_own fun b => ?_
      split
      case h_1 hp =>
          rintro ⟨⟨shaders, programs⟩, w⟩ ⟨hs, hb⟩ _ _
          cases hb
          cases hs
          cases hp
          rfl
      case h_2 p rest hp =>
          refine Leads.change_bind (R := fun b => b.1.shaders = []) (fun c w h => h.1) ?_
          refine Leads.bind_returned (R := fun _ b => b.1.shaders = []) (fun _ h => h) fun _ => ?_
          exact ih.bind_returned fun n => .pure fun _ h _ _ => h n rfl

theorem drain_empties [Records W] (delete : Int → Act W Unit) (release : P → Act W Unit)
    {s t : Studio W P × W} {xs : List Int} (h : (drain delete release).outcome s = (.ok xs, t)) :
    t.1 = { s.1 with bin := {} } := by
  have hdrain : Leads (fun b : Bin P × W => b = (s.1.bin, s.2))
      (Bin.drain (fun x => outside (delete x)) (fun p => outside (release p)) 0)
      fun r b => ∀ xs, r = .ok xs → b.1 = {} := by
    rw [Bin.drain]
    refine Leads.bind_returned leads_own fun b => ?_
    refine Leads.bind_returned ((drainShaders_empties delete s.1.bin.programs _).mono
      (fun t ht => by rw [ht.1]) fun _ _ h => h) fun deleted => ?_
    refine Leads.bind_returned leads_own fun c => ?_
    refine Leads.bind_returned ((drainPrograms_empties release _).mono
      (fun t ht => (ht.1 deleted rfl).1) fun _ _ h => h) fun n => ?_
    extract_lets rest
    have hrest (r : Unit) : Leads (fun b : Bin P × W => b.1 = {}) (rest r)
        fun _ b => b.1 = {} := fun _ h => h
    refine Leads.ite (fun _ => ?_) fun _ => (hrest ()).mono (fun _ h => h n rfl) fun _ _ h _ _ => h
    refine Leads.bind_returned (R := fun _ b => b.1 = {}) (fun b h => h n rfl) fun _ => ?_
    exact (hrest ()).mono (fun _ h => h) fun _ _ h _ _ => h
  obtain ⟨hr, rfl⟩ := Prod.mk.inj h
  exact congrArg (fun b => ({ s.1 with bin := b } : Studio W P)) (hdrain _ rfl xs hr)

end Drain

theorem held_eq_nil {s : Studio W P} (h : ∀ k, (s.shaders.get k).handle = 0) : held s = [] := by
  refine List.flatMap_eq_nil_iff.mpr fun k _ => ?_
  rw [h k]
  rfl

section Runs

variable [DecidableEq P] [Records W] {device : Device W P V}
variable {listener : Listener (Audit W P) P V} {start s : Studio (Audit W P) P × Audit W P}

theorem Run.accounted (hl : listener.Lawful) (hs : Sound [] [] start)
    (h : Run device listener start s) (hf : Fresh s.2.ledger) : Accounted s.1 s.2.ledger :=
  ((run_sound hl hs h).balanced hf).accounted hf

omit [DecidableEq P] in
theorem release_returns (device : Device W P V) (listener : Listener W P V) (depth : Nat)
    {s : Studio W P × W} (hu : ∀ k, Unheard k s.1) :
    ∃ t, (perform device listener depth .release).outcome s = (.ok (), (t, s.2)) ∧
      held t = [] ∧ t.program = none := by
  obtain ⟨call, he⟩ := perform_eq_respond device listener depth
  obtain ⟨t, ht, hp, hh⟩ := release_unheard call hu s.2
  rw [he]
  exact ⟨t, ht, held_eq_nil hh, hp⟩

/-- Whatever requests were made, and whether they returned or failed, nothing is leaked, used after
its deletion or deleted twice; and if nobody listens, to release the studio and drain its bin
deletes all that was ever made. -/
theorem opened_accounted (hl : listener.Lawful) (compiler : Option (Compiler W))
    (resolver : Option (Resolver W)) (settings : Settings) (context : Option (Context W P)) (w : W)
    (h : Run device listener (opened (compiler.map auditedCompiler) (resolver.map auditedResolver)
      settings (context.map auditedContext), { world := w }) s)
    (hf : Fresh s.2.ledger) :
    Accounted s.1 s.2.ledger ∧
    ((∀ k, Unheard k s.1) → ∀ depth, ∃ t,
      (perform (auditedDevice device) listener depth .release).outcome s = (.ok (), t) ∧
      held t.1 = [] ∧ t.1.program = none ∧ Accounted t.1 t.2.ledger ∧
      ∀ (c : Compiler W) (xs : List Int) (u : Studio (Audit W P) P × Audit W P),
        (perform (auditedDevice device) listener depth
          (.drain (auditedCompiler c).delete)).outcome t = (.ok xs, u) → Fresh u.2.ledger →
        (∀ x ∈ created u.2.ledger, (deleted u.2.ledger).count x = 1) ∧
        ∀ p ∈ linked u.2.ledger, (released u.2.ledger).count p = 1) := by
  have hs := opened_sound compiler resolver settings context w
  refine ⟨h.accounted hl hs hf, fun hu depth => ?_⟩
  obtain ⟨t, ht, hheld, hprogram⟩ := release_returns (auditedDevice device) listener depth hu
  have hrun := h.request depth .release trivial
  rw [ht] at hrun
  refine ⟨_, ht, hheld, hprogram, hrun.accounted hl hs hf, fun c xs u hd hfu => ?_⟩
  have hdrained := hrun.request depth (.drain (auditedCompiler c).delete) ⟨c, rfl⟩
  rw [hd] at hdrained
  have hbin : u.1 = { t with bin := {} } := by
    have hdrain : (drain (auditedCompiler c).delete (auditedDevice device).release).outcome
        (t, s.2) = (.ok xs, u) := by
      cases depth with
      | zero => exact hd
      | succ depth => exact hd
    exact drain_empties _ _ hdrain
  refine (hdrained.accounted hl hs hfu).all_deleted ?_ ?_ ?_
  · rw [hbin]; exact hheld
  · rw [hbin]; exact hprogram
  · rw [hbin]

end Runs

/-- A listener that compiles code as soon as it is written, and fails when a handle changes. -/
def eagerListener : Listener (Audit Bench Nat) Nat Unit := fun _ change =>
  match change.property with
  | .code => .ask (.compile change.stage) fun _ => .done ()
  | .handle => .fail (.raised .runtime [])

def eagerRequests : List (Request (Audit Bench Nat) Nat Unit) :=
  [.subscribe .vertex ['a'], .setCode .vertex ['v'], .compile .vertex, .setCode .fragment ['f'],
    .compileProgram, .setCode .vertex ['w'], .setCode .vertex ['u'],
    .drain (auditedCompiler (Bench.compiler ['x'])).delete, .compileProgram,
    .unsubscribe .vertex ['a'], .setCode .fragment ['x'], .compile .fragment]

def eagerRun : Studio (Audit Bench Nat) Nat × Audit Bench Nat :=
  performAll (auditedDevice Bench.device) eagerListener 2 eagerRequests
    (opened (some (auditedCompiler (Bench.compiler ['x']))) none {}
      (some (auditedContext Bench.context)), { world := {} })

theorem eagerListener_lawful : eagerListener.Lawful := by
  rintro name ⟨k, property⟩
  cases property with
  | code => exact ⟨trivial, fun _ => trivial⟩
  | handle => exact trivial

theorem eagerRequests_lawful : ∀ r ∈ eagerRequests, r.Lawful := by
  intro r hr
  simp only [eagerRequests, List.mem_cons, List.not_mem_nil, or_false] at hr
  rcases hr with rfl | rfl | rfl | rfl | rfl | rfl | rfl | rfl | rfl | rfl | rfl | rfl
  all_goals first | exact trivial | exact ⟨_, rfl⟩

theorem eagerRun_accounted : Fresh eagerRun.2.ledger ∧ (∀ k, Unheard k eagerRun.1) ∧
    Accounted eagerRun.1 eagerRun.2.ledger ∧ ∃ t,
      (perform (auditedDevice Bench.device) eagerListener 2 .release).outcome eagerRun
        = (.ok (), t) ∧ held t.1 = [] := by
  have hf : Fresh eagerRun.2.ledger := ⟨by decide +kernel, by decide +kernel, by decide +kernel⟩
  have hu : ∀ k, Unheard k eagerRun.1 := fun k => by cases k <;> decide +kernel
  obtain ⟨ha, hrelease⟩ := opened_accounted eagerListener_lawful
    (some (Bench.compiler ['x'])) none {} (some Bench.context) {}
    (Run.start.performAll 2 eagerRequests_lawful) hf
  obtain ⟨t, ht, hheld, _⟩ := hrelease hu 2
  exact ⟨hf, hu, ha, t, ht, hheld⟩

end ShaderPipeline.Studio
