import ShaderPipeline.Proofs.Studio.Neighbours
import ShaderPipeline.Proofs.Studio.Rebuild

namespace ShaderPipeline.Studio

open Text Glsl Act

variable {W P V : Type}

/-- A stage that is compiled, or has no code that could be. -/
def Backed (a : Shader W) : Prop := a.handle ≠ 0 ∨ allBlank a.code = true

def Proper (c : Compiler W) : Prop :=
  ∀ token w x, ((c.create token).outcome w).1 = .ok x → x ≠ 0

def linkedStages (args : LinkArgs) : List Stage :=
  (if args.varyings.isSome then .feedbackVertex else .vertex) :: args.others.map (·.1)

/-- What a stage has found out is no more than what its handle stands for. -/
structure Sturdy (a : Shader W) : Prop where
  bare : a.handle = 0 → a.compiledText = []
  passed : a.verdict = some true → Backed a
  proper : ∀ c, a.compiler = some c → Proper c

/-- The program was linked from stages that are compiled, as the stages in `done` are if they have
code. -/
structure Kept (done : List Stage) (s : Studio W (P × LinkArgs)) : Prop where
  stages : ∀ j, Sturdy (s.shaders.get j)
  backed : ∀ j ∈ done, Backed (s.shaders.get j)
  context : ∀ c, s.context = some c → ∃ link : Context W P, c = labelled link
  program : ∀ p args, s.program = some (p, args) →
    ∀ j ∈ linkedStages args, (s.shaders.get j).handle ≠ 0

section Shaders

variable {a b : Shader W}

theorem Backed.alike (h : Backed a) (hab : Alike a b) : Backed b := by
  rw [Backed]
  rw [hab.handle, hab.code]
  exact h

theorem Sturdy.alike (h : Sturdy a) (hab : Alike a b) : Sturdy b where
  bare hh := hab.compiledText.trans (h.bare (hab.handle.symm.trans hh))
  passed hv := (h.passed (hab.verdict.symm.trans hv)).alike hab
  proper c hc := h.proper c (hab.compiler.symm.trans hc)

theorem sturdy_bare (ht : a.compiledText = []) (hv : a.verdict = none)
    (hc : ∀ c, a.compiler = some c → Proper c) : Sturdy a where
  bare _ := ht
  passed h := by rw [hv] at h; cases h
  proper := hc

end Shaders

section Kept

variable {k : Stage} {done : List Stage} {s : Studio W (P × LinkArgs)}

theorem Kept.mono {todo : List Stage} (h : Kept done s)
    (hd : ∀ j ∈ todo, j ∈ done) : Kept todo s :=
  ⟨h.stages, fun j hj => h.backed j (hd j hj), h.context, h.program⟩

theorem Kept.cons (h : Kept done s) (hk : Backed (s.shaders.get k)) : Kept (k :: done) s := by
  refine ⟨h.stages, fun j hj => ?_, h.context, h.program⟩
  rcases List.mem_cons.mp hj with rfl | hj
  · exact hk
  · exact h.backed j hj

theorem Kept.updateShader (h : Kept done s) {f : Shader W → Shader W}
    (hf : (f (s.shaders.get k)).handle = (s.shaders.get k).handle)
    (hk : Sturdy (f (s.shaders.get k))) (hb : k ∈ done → Backed (f (s.shaders.get k))) :
    Kept done (s.updateShader k f) := by
  refine ⟨fun j => ?_, fun j hj => ?_, h.context, fun p args hp j hj => ?_⟩
  · by_cases hjk : j = k
    · rw [hjk, get_updateShader_self]; exact hk
    · rw [get_updateShader_of_ne s f hjk]; exact h.stages j
  · by_cases hjk : j = k
    · subst hjk
      rw [get_updateShader_self]; exact hb hj
    · rw [get_updateShader_of_ne s f hjk]; exact h.backed j hj
  · have hj' := h.program p args hp j hj
    by_cases hjk : j = k
    · subst hjk
      rw [get_updateShader_self, hf]; exact hj'
    · rw [get_updateShader_of_ne s f hjk]; exact hj'

theorem Kept.zeroed (h : Kept done s) (k : Stage) (x : Int) : Kept done (zeroed k x s) := by
  rw [Studio.zeroed]
  split
  · exact h.updateShader rfl (sturdy_bare rfl rfl (h.stages k).proper) fun hk => h.backed k hk
  · exact h

theorem Kept.exchanged {x : Int} (h : Kept done (Studio.zeroed k x s)) (hx : x = 0 → k ∉ done) :
    Kept done (exchanged k x (Studio.zeroed k x s)) := by
  have hothers (j : Stage) (hj : j ≠ k) :
      (Studio.exchanged k x (Studio.zeroed k x s)).shaders.get j =
        (Studio.zeroed k x s).shaders.get j := (confined_exchanged _ x).others j hj
  refine ⟨fun j => ?_, fun j hj => ?_, h.context, nofun⟩
  · by_cases hjk : j = k
    · rw [hjk, get_exchanged]
      by_cases h0 : x = 0
      · have hk := get_zeroed (k := k) x s
        rw [if_pos h0] at hk
        exact sturdy_bare (congrArg Shader.compiledText hk) (congrArg Shader.verdict hk)
          (h.stages k).proper
      · exact ⟨fun hh => absurd hh h0, fun _ => .inl h0, (h.stages k).proper⟩
    · rw [hothers j hjk]; exact h.stages j
  · by_cases hjk : j = k
    · subst hjk
      rw [get_exchanged]
      exact .inl fun h0 => hx h0 hj
    · rw [hothers j hjk]; exact h.backed j hj

theorem Kept.setVerdict (h : Kept done s) (k : Stage) {r : Bool}
    (hr : r = true → Backed (s.shaders.get k)) :
    Kept done (s.updateShader k fun a => { a with verdict := some r }) := by
  refine h.updateShader rfl ⟨(h.stages k).bare, fun hv => ?_, (h.stages k).proper⟩ (h.backed k)
  exact hr (Option.some.inj hv)

theorem Kept.recoded (h : Kept [] s) (k : Stage) (code : Text) : Kept [] (Studio.zeroed k 0
    (s.updateShader k (Studio.recoded code))) := by
  rw [zeroed_zero, updateShader_updateShader]
  exact h.updateShader rfl (sturdy_bare rfl rfl (h.stages k).proper) nofun

theorem Kept.linked (h : Kept done s) (hd : ∀ j, j ∈ done) {args : LinkArgs}
    (ha : linkArgs? s = some args) : ∀ j ∈ linkedStages args, (s.shaders.get j).handle ≠ 0 := by
  have hcoded (j : Stage) (hj : (!allBlank (s.shaders.get j).code) = true) :
      (s.shaders.get j).handle ≠ 0 := by
    refine (h.backed j (hd j)).resolve_right fun hb => ?_
    rw [hb] at hj
    cases hj
  have hlater (texts : List (Stage × Text)) (ht : texts =
      (laterStages.map fun k => (k, (s.shaders.get k).compiledText)).filter (·.2 != [])) :
      ∀ j ∈ texts.map (·.1), (s.shaders.get j).handle ≠ 0 := by
    subst ht
    intro j hj h0
    obtain ⟨⟨i, text⟩, hi, rfl⟩ := List.mem_map.mp hj
    obtain ⟨hm, hne⟩ := List.mem_filter.mp hi
    obtain ⟨i, _, he⟩ := List.mem_map.mp hm
    obtain ⟨rfl, rfl⟩ := Prod.mk.inj he
    simp [(h.stages i).bare h0] at hne
  unfold linkArgs? at ha
  extract_lets others vertex feedback at ha
  intro j hj
  split at ha
  case isTrue hv =>
      cases ha
      rcases List.mem_cons.mp hj with rfl | hj
      · exact hcoded .vertex hv
      · exact hlater _ rfl j hj
  case isFalse =>
      split at ha
      case isTrue hf =>
          cases ha
          rcases List.mem_cons.mp hj with rfl | hj
          · exact hcoded .feedbackVertex hf
          · exact hlater _ rfl j hj
      case isFalse => cases ha

variable [Records W]

theorem kept_indifferent : Indifferent (fun _ _ => True)
    fun s : Studio W (P × LinkArgs) × W => Kept done s.1 where
  shader k _ _ _ hf h := h.updateShader (hf _).handle ((h.stages k).alike (hf _))
    fun hk => (h.backed k hk).alike (hf _)
  links _ _ _ h := ⟨h.stages, h.backed, h.context, h.program⟩
  world _ _ _ _ h := h
  reports _ _ _ := trivial
  expand _ _ _ _ _ h _ := h

omit [Records W] in
theorem kept_portable : Portable fun s : Studio W (P × LinkArgs) × W => Kept done s.1 := by
  rintro s bin program w v (rfl | rfl) h
  · exact ⟨h.stages, h.backed, h.context, h.program⟩
  · exact ⟨h.stages, h.backed, h.context, nofun⟩

omit [Records W] in
theorem kept_yielding : Yielding fun s : Studio W (P × LinkArgs) × W => Kept [] s.1 where
  zeroed k _ _ h := h.zeroed k 0
  exchanged _ _ _ h := h.exchanged fun _ => List.not_mem_nil
  recoded k code _ _ h := h.recoded k code
  unjudged k _ _ h := h.updateShader rfl ⟨(h.stages k).bare, nofun, (h.stages k).proper⟩ nofun

end Kept

/-- Handles are the compiler's to give, and none of them is zero. A context gives each program
together with what it was linked from. -/
def Request.Fair : Request W (P × LinkArgs) V → Prop
  | .setHandle _ handle => handle = 0
  | .setCompiler _ c => ∀ c', c = some c' → Proper c'
  | .setContext c => ∀ c', c = some c' → ∃ link : Context W P, c' = labelled link
  | _ => True

section Requests

variable [Records W] {done : List Stage}
variable {call : Text → Change → Act (Studio W (P × LinkArgs) × W) Unit}

theorem kept_handled (k : Stage) : Indifferent (fun _ _ => True)
    fun s : Studio W (P × LinkArgs) × W => Kept done s.1 ∧ (s.1.shaders.get k).handle ≠ 0 :=
  kept_indifferent.withShader (p := fun a => a.handle ≠ 0) fun _ _ hab hh => by rwa [hab.handle]

theorem setHandle_backs (hcall : Onlooking call) (k : Stage) {x : Int} (hx : x ≠ 0) :
    Leads (fun s => Kept done s.1 ∧ (s.1.shaders.get k).handle = 0) (setHandle call k x)
      fun _ s => Kept done s.1 ∧ (s.1.shaders.get k).handle ≠ 0 := by
  rintro ⟨s, w⟩ ⟨h, h0⟩
  have hexchanged : ((exchanged k x (zeroed k x s)).shaders.get k).handle ≠ 0 := by
    rw [get_exchanged]
    exact hx
  rw [outcome_setHandle, if_neg fun he => hx (he.trans h0)]
  exact hcall.tell (kept_handled k) k .handle s _
    ⟨(h.zeroed k x).exchanged fun he => absurd he hx, hexchanged⟩

theorem compileWith_kept (hcall : Onlooking call) {c : Compiler W} (hc : Proper c) (k : Stage)
    (source : Text) : Leads (fun s => Kept done s.1 ∧ (s.1.shaders.get k).handle = 0)
      (compileWith call c k source)
      fun r s => Kept done s.1 ∧ (r = .ok true → Backed (s.1.shaders.get k)) := by
  have hI : Indifferent (fun _ _ => True) fun s : Studio W (P × LinkArgs) × W =>
      Kept done s.1 ∧ (s.1.shaders.get k).handle = 0 :=
    kept_indifferent.withShader fun _ _ hab hh => hab.handle.trans hh
  have hcreate : Leads (fun s : Studio W (P × LinkArgs) × W => Kept done s.1 ∧
      (s.1.shaders.get k).handle = 0) (outside (c.create k.token))
      (Returned (fun _ s => Kept done s.1 ∧ (s.1.shaders.get k).handle = 0) fun s => Kept done s.1) :=
    Leads.returned (hI.outside fun _ => trivial) (fun _ _ h => h) fun _ _ h => h.1
  have hsubmit (x : Int) : Leads (fun s : Studio W (P × LinkArgs) × W =>
      Kept done s.1 ∧ (s.1.shaders.get k).handle = 0) (submit c k x source) fun r s =>
        (Kept done s.1 ∧ (s.1.shaders.get k).handle = 0) ∧ (r = .ok true → True) :=
    Leads.mono (hI.submit k (fun _ => trivial) (fun _ => trivial) fun _ => trivial)
      (fun _ h => h) fun _ _ h => ⟨h, fun _ => trivial⟩
  have hset (x : Int) (hx : x ≠ 0) : Leads (fun s : Studio W (P × LinkArgs) × W =>
      (Kept done s.1 ∧ (s.1.shaders.get k).handle = 0) ∧ True) (setHandle call k x) fun r s =>
        Kept done s.1 ∧ (r = .ok () → (s.1.shaders.get k).handle ≠ 0) :=
    (setHandle_backs hcall k hx).mono (fun _ h => h.1) fun _ _ h => ⟨h.1, fun _ => h.2⟩
  have hdelete (x : Int) : Leads (fun s : Studio W (P × LinkArgs) × W =>
      Kept done s.1 ∧ (s.1.shaders.get k).handle = 0) (outside (c.delete x)) fun _ s =>
        Kept done s.1 := fun s h => h.1
  refine (kept_indifferent.compileWith (hc k.token) hcreate hsubmit hdelete hset (kept_handled k)
    fun s w h => ⟨?_, ?_⟩).mono (fun _ h => h) fun _ _ h => ⟨h.1, fun hr => .inl (h.2 hr)⟩
  · exact h.1.updateShader rfl
      ⟨fun h0 => absurd h0 h.2, fun _ => .inl h.2, (h.1.stages k).proper⟩ fun _ => .inl h.2
  · rw [get_updateShader_self]; exact h.2

theorem compile_kept (hcall : Onlooking call) (k : Stage) :
    Leads (fun s => Kept done s.1) (compile call k)
      fun r s => Kept done s.1 ∧ (r = .ok true → Backed (s.1.shaders.get k)) := by
  refine kept_indifferent.compile (fun s h hk => ?_) (fun r s w h hr => ?_) fun c source s h => ?_
  · rcases hk with hh | hv | hb
    · exact .inl hh
    · exact (h.stages k).passed hv
    · exact .inr hb
  · refine ⟨h.setVerdict k hr, fun he => ?_⟩
    rw [get_updateShader_self]
    exact hr he
  · have hproper := (h.1.stages k).proper c h.2.2.compiler
    exact compileWith_kept hcall hproper k source s ⟨h.1, h.2.1⟩

theorem compiles_kept (hcall : Onlooking call) (ks : List Stage) :
    Leads (fun s => Kept done s.1) (ks.mapM (compile call)) fun r s => Kept [] s.1 ∧
      ∀ rs, r = .ok rs → rs.all id = true → Kept (ks.reverse ++ done) s.1 := by
  induction ks generalizing done with
  | nil => exact fun s h => ⟨h.mono nofun, fun _ _ _ => h⟩
  | cons k ks ih =>
      rw [List.mapM_cons]
      refine Leads.bind (compile_kept hcall k) (fun r => ?_) fun _ _ h => ⟨h.1.mono nofun, nofun⟩
      cases r with
      | true =>
          refine Leads.mono (P := fun s => Kept (k :: done) s.1) ?_ (fun s h => h.1.cons (h.2 rfl))
            fun _ _ h => h
          refine Leads.bind ih (fun rs => Leads.pure fun s h => ⟨h.1, fun rs' hr hall => ?_⟩)
            fun _ _ h => ⟨h.1, nofun⟩
          cases hr
          rw [List.reverse_cons, List.append_assoc]
          exact h.2 rs rfl hall
      | false =>
          refine Leads.mono (P := fun s => Kept done s.1) ?_ (fun s h => h.1) fun _ _ h => h
          refine Leads.bind ih (fun rs => Leads.pure fun s h => ⟨h.1, fun rs' hr hall => ?_⟩)
            fun _ _ h => ⟨h.1, nofun⟩
          cases hr
          cases hall

omit [Records W] in
theorem outside_labelled {I : Studio W (P × LinkArgs) × W → Prop}
    (hI : ∀ s w v, I (s, w) → I (s, v)) (link : Context W P) (args : LinkArgs) :
    Leads I (outside (labelled link args)) fun r s => I s ∧ ∀ q, r = .ok q → q.2 = args := by
  refine fun s h => ⟨hI s.1 s.2 _ h, fun q hq => ?_⟩
  change (((fun p => (p, args)) <$> link args).outcome s.2).1 = .ok q at hq
  rw [map_eq_pure_bind, outcome_bind] at hq
  split at hq
  · cases hq
    rfl
  · cases hq

theorem linkWith_kept (link : Context W P) (args : LinkArgs) :
    Leads (fun s => Kept [] s.1 ∧ ∀ j ∈ linkedStages args, (s.1.shaders.get j).handle ≠ 0)
      (linkWith (labelled link) args) fun _ s => Kept [] s.1 := by
  refine kept_indifferent.linkWith (outside_labelled (fun _ _ _ h => h) link args)
    (fun q s w h => ?_) fun _ _ h => h.1.1
  refine ⟨h.1.1.stages, h.1.1.backed, h.1.1.context, fun p args' hp => ?_⟩
  cases hp
  obtain rfl : args' = args := h.2 _ rfl
  exact h.1.2

theorem compileProgram_kept (hcall : Onlooking call) :
    Keeps (fun s => Kept [] s.1) (compileProgram call) := by
  refine kept_indifferent.compileProgram (J := fun s => Kept (Stage.all.reverse ++ []) s.1)
    (compiles_kept hcall Stage.all) fun link args s h => ?_
  obtain ⟨h, hall, _, hc, ha⟩ := h
  obtain ⟨link, rfl⟩ := h.context link hc
  refine linkWith_kept link args s ⟨h, hall.linked (fun j => ?_) ha⟩
  exact List.mem_append_left _ (List.mem_reverse.mpr (Stage.mem_all j))

theorem respond_kept (device : Device W (P × LinkArgs) V) (hcall : Onlooking call)
    {r : Request W (P × LinkArgs) V} (hr : r.Fair) :
    Keeps (fun s => Kept [] s.1) (respond device call r) := by
  refine kept_yielding.respond kept_indifferent hcall kept_portable device (fun k x he => ?_)
    (fun k c he s w h => ?_) (fun k e _ s w h => ?_) (fun c he s w h => ?_)
    (fun k => (compile_kept hcall k).mono (fun _ h => h) fun _ _ h => h.1) (compileProgram_kept hcall)
  · cases he
    exact hr
  · cases he
    exact h.updateShader rfl ⟨(h.stages k).bare, (h.stages k).passed, hr⟩ nofun
  · exact h.updateShader rfl ⟨(h.stages k).bare, (h.stages k).passed, (h.stages k).proper⟩ nofun
  · cases he
    exact ⟨h.stages, h.backed, hr, h.program⟩

end Requests

section Effect

variable [Records W] {call : Text → Change → Act (Studio W P × W) Unit} {k : Stage}

theorem program_indifferent (p : Option P) (queued : List P) : Indifferent (fun _ _ => True)
    fun s : Studio W P × W => s.1.program = p ∧ s.1.bin.programs = queued where
  shader _ _ _ _ _ h := h
  links _ _ _ h := h
  world _ _ _ _ h := h
  reports _ _ _ := trivial
  expand _ _ _ _ _ h _ := h

theorem setHandle_zero_program (hcall : Onlooking call) (s : Studio W P) (w : W) :
    let t := ((setHandle call k 0).outcome (s, w)).2.1
    t.program = (if (s.shaders.get k).handle = 0 then s.program else none) ∧
      t.bin.programs = s.bin.programs ++
        (if (s.shaders.get k).handle = 0 then [] else s.program.toList) := by
  intro t
  have hz : (zeroed k 0 s).program = s.program ∧ (zeroed k 0 s).bin = s.bin := by
    rw [zeroed_zero]
    exact ⟨rfl, rfl⟩
  by_cases h0 : (s.shaders.get k).handle = 0
  · rw [if_pos h0, if_pos h0, List.append_nil]
    have ht : t = zeroed k 0 s := by
      change ((setHandle call k 0).outcome (s, w)).2.1 = _
      rw [outcome_setHandle, if_pos h0.symm]
    rw [ht, hz.1, hz.2]
    exact ⟨rfl, rfl⟩
  · rw [if_neg h0, if_neg h0]
    change ((setHandle call k 0).outcome (s, w)).2.1.program = _ ∧
      ((setHandle call k 0).outcome (s, w)).2.1.bin.programs = _
    rw [outcome_setHandle, if_neg (Ne.symm h0)]
    refine hcall.tell (program_indifferent none _) k .handle s _ ⟨rfl, ?_⟩
    change ((zeroed k 0 s).bin.add _).programs ++ (zeroed k 0 s).program.toList = _
    rw [programs_add, hz.1, hz.2]

theorem setCode_program (hcall : Onlooking call) (s : Studio W P) {code : Text}
    (hcode : code ≠ (s.shaders.get k).code) (w : W) :
    let t := ((setCode call k code).outcome (s, w)).2.1
    t.program = (if (s.shaders.get k).handle = 0 then s.program else none) ∧
      t.bin.programs = s.bin.programs ++
        (if (s.shaders.get k).handle = 0 then [] else s.program.toList) := by
  intro t
  have hI := program_indifferent (W := W) (if (s.shaders.get k).handle = 0 then s.program else none)
    (s.bin.programs ++ (if (s.shaders.get k).handle = 0 then [] else s.program.toList))
  have hzero := setHandle_zero_program (k := k) hcall (s.updateShader k (recoded code)) w
  rw [get_updateShader_self] at hzero
  refine outcome_setCode_holds (J := fun u => u = (s.updateShader k (recoded code), w)) ?_
    (fun _ _ h => h) (hcall.notifyCode hI k) hcode rfl
  rintro _ rfl
  exact hzero

end Effect

section Runs

variable [Records W] {device : Device W (P × LinkArgs) V} {listener : Listener W (P × LinkArgs) V}

theorem perform_kept (hl : listener.OnlyReads) (depth : Nat) {r : Request W (P × LinkArgs) V}
    (hr : r.Fair) : Keeps (fun s => Kept [] s.1) (perform device listener depth r) := by
  obtain ⟨call, hcall, he⟩ := hl.exists_call device depth
  rw [he]
  exact respond_kept device hcall.onlooking hr

omit [Records W] in
theorem opened_kept {compiler : Option (Compiler W)} (hc : ∀ c, compiler = some c → Proper c)
    (resolver : Option (Resolver W)) (settings : Settings) (context : Option (Context W P)) :
    Kept [] (opened compiler resolver settings (context.map labelled)) := by
  refine ⟨fun k => ?_, nofun, fun c h => ?_, nofun⟩
  · rw [get_opened]
    exact sturdy_bare rfl rfl hc
  · exact (Option.map_eq_some_iff.mp h).imp fun _ h => h.2.symm

theorem perform_setCode_program {Q : Type} (device : Device W Q V) {listener : Listener W Q V}
    (hl : listener.OnlyReads) (depth : Nat) (s : Studio W Q × W) {k : Stage} {code : Text}
    (hcode : code ≠ (s.1.shaders.get k).code) :
    let t := ((perform device listener depth (.setCode k code)).outcome s).2.1
    t.program = (if (s.1.shaders.get k).handle = 0 then s.1.program else none) ∧
      t.bin.programs = s.1.bin.programs ++
        (if (s.1.shaders.get k).handle = 0 then [] else s.1.program.toList) := by
  obtain ⟨call, hcall, he⟩ := hl.exists_call device depth
  rw [he]
  exact setCode_program hcall.onlooking s.1 hcode s.2

theorem perform_setUniform_none {Q : Type} {device : Device W Q V} {listener : Listener W Q V}
    (depth : Nat) {s : Studio W Q × W} (hp : s.1.program = none) (name : Text) (value : Value V) :
    (perform device listener depth (.setUniform name value)).outcome s = (.ok false, s) := by
  obtain ⟨call, he⟩ := perform_eq_respond device listener depth
  rw [he]
  change (setUniform device name value).outcome s = (.ok false, s)
  rw [setUniform]
  rw [outcome_bind_ok _ (outcome_own s), hp]
  rfl

/-- The stages that a program was linked from have handles as long as it is there. Other code for a
stage with a handle sends the program to the bin, and no uniform is written any more; a stage
without a handle is not among them, and code for it leaves the program where it is. -/
theorem setCode_retires (hl : listener.OnlyReads) {compiler : Option (Compiler W)}
    (hc : ∀ c, compiler = some c → Proper c) (resolver : Option (Resolver W)) (settings : Settings)
    (context : Option (Context W P)) (w : W) {s : Studio W (P × LinkArgs) × W}
    (h : Reached device listener Request.Fair (fun _ => True)
      (opened compiler resolver settings (context.map labelled), w) s)
    {p : P} {args : LinkArgs} (hp : s.1.program = some (p, args)) {k : Stage} {code : Text}
    (hcode : code ≠ (s.1.shaders.get k).code) (depth : Nat) :
    let t := ((perform device listener depth (.setCode k code)).outcome s).2
    (∀ j ∈ linkedStages args, (s.1.shaders.get j).handle ≠ 0) ∧
    ((s.1.shaders.get k).handle ≠ 0 →
      t.1.program = none ∧ t.1.bin.programs = s.1.bin.programs ++ [(p, args)] ∧
      ∀ depth name value,
        (perform device listener depth (.setUniform name value)).outcome t = (.ok false, t)) ∧
    ((s.1.shaders.get k).handle = 0 →
      t.1.program = some (p, args) ∧ t.1.bin.programs = s.1.bin.programs) := by
  intro t
  have hkept : Kept [] s.1 := h.holds (I := fun s => Kept [] s.1)
    (opened_kept hc resolver settings context) (fun depth r hr => perform_kept hl depth hr)
    fun _ _ _ _ h => h
  obtain ⟨hprogram, hbin⟩ := perform_setCode_program device hl depth s hcode
  rw [hp] at hprogram hbin
  refine ⟨hkept.program p args hp, fun h0 => ?_, fun h0 => ?_⟩
  · rw [if_neg h0] at hprogram hbin
    exact ⟨hprogram, hbin, fun depth => perform_setUniform_none depth hprogram⟩
  · rw [if_pos h0] at hprogram hbin
    exact ⟨hprogram, hbin.trans (List.append_nil _)⟩

end Runs

namespace Bench

def openDevice : Device Bench (Nat × LinkArgs) Unit :=
  { device with exposes := fun _ _ => true }

def linkRequests : List (Request Bench (Nat × LinkArgs) Unit) :=
  [.subscribe .fragment ['l'], .setCode .vertex ['a'], .setCode .fragment ['b'], .compileProgram]

def linkedStudio : Studio Bench (Nat × LinkArgs) × Bench :=
  performAll openDevice Listener.onlooker 1 linkRequests
    (opened (some (compiler ['x'])) none {} (some (labelled context)), {})

def linkedArgs : LinkArgs := ⟨['a'], [(.fragment, ['b'])], none⟩

theorem compiler_proper (mark : Text) : Proper (compiler mark) := by
  intro token w x hx
  cases hx
  exact Int.natCast_ne_zero.mpr (Nat.succ_ne_zero w.handles)

theorem linkedStudio_reached : Reached openDevice Listener.onlooker Request.Fair (fun _ => True)
    (opened (some (compiler ['x'])) none {} ((some context).map labelled), {}) linkedStudio := by
  refine Reached.start.performAll 1 fun r hr => ?_
  simp only [linkRequests, List.mem_cons, List.not_mem_nil, or_false] at hr
  rcases hr with rfl | rfl | rfl | rfl
  all_goals exact trivial

theorem setCode_retires_fragment :
    ['c'] ≠ (linkedStudio.1.shaders.get .fragment).code ∧
    (linkedStudio.1.shaders.get .fragment).handle ≠ 0 ∧
    ((perform openDevice Listener.onlooker 1 (.setCode .fragment ['c'])).outcome
      linkedStudio).2.1.program = none := by
  have hp : linkedStudio.1.program = some (1, linkedArgs) := by decide +kernel
  have hcode : ['c'] ≠ (linkedStudio.1.shaders.get .fragment).code := by decide +kernel
  have hh : (linkedStudio.1.shaders.get .fragment).handle ≠ 0 := by decide +kernel
  have hproper : ∀ c, some (compiler ['x']) = some c → Proper c := by
    rintro c ⟨⟩
    exact compiler_proper ['x']
  obtain ⟨_, hretired, _⟩ := setCode_retires Listener.onlooker_onlyReads hproper none {}
    (some context) {} linkedStudio_reached hp hcode 1
  exact ⟨hcode, hh, (hretired hh).1⟩

/-- Code for a third stage leaves the program of the first two where it is, to be written to. -/
theorem program_outlives_geometry : linkedStudio.1.program = some (1, linkedArgs) ∧
    Reached openDevice Listener.onlooker Request.Fair (fun _ => True)
      (opened (some (compiler ['x'])) none {} ((some context).map labelled), {}) linkedStudio ∧
    allBlank ['c'] = false ∧ ['c'] ≠ (linkedStudio.1.shaders.get .geometry).code ∧
    let t := ((perform openDevice Listener.onlooker 1 (.setCode .geometry ['c'])).outcome
      linkedStudio).2
    t.1.program = some (1, linkedArgs) ∧ t.1.bin.programs = [] ∧
    ((perform openDevice Listener.onlooker 1 (.setUniform ['u'] (.other ()))).outcome t).1
      = .ok true :=
  ⟨by decide +kernel, linkedStudio_reached, by decide, by decide +kernel, by decide +kernel,
    by decide +kernel, by decide +kernel⟩

end Bench

end ShaderPipeline.Studio
