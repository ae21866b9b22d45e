import ShaderPipeline.Proofs.Studio.Consistency

namespace ShaderPipeline.Studio

open Text Glsl Act

variable {W P V α : Type} {k : Stage}

section Tally

/-- A world that counts the calls of compilers and resolvers. -/
structure Tally (W : Type) where
  world : W
  calls : Nat := 0

instance [Records W] : Records (Tally W) where
  record level text w := { w with world := Records.record level text w.world }

def counted (a : Act W α) : Act (Tally W) α :=
  ⟨fun w => ((a.outcome w.world).1, ⟨(a.outcome w.world).2, w.calls + 1⟩)⟩

def uncounted (a : Act W α) : Act (Tally W) α :=
  ⟨fun w => ((a.outcome w.world).1, ⟨(a.outcome w.world).2, w.calls⟩)⟩

def countedCompiler (c : Compiler W) : Compiler (Tally W) where
  create token := counted (c.create token)
  setSource x text := counted (c.setSource x text)
  compile x := counted (c.compile x)
  infoLog x := counted (c.infoLog x)
  delete x := counted (c.delete x)

def countedResolver (e : Resolver W) : Resolver (Tally W) := fun text => counted (e text)

def uncountedDevice (device : Device W P V) : Device (Tally W) P V where
  convert := device.convert
  exposes := device.exposes
  write p name bytes := uncounted (device.write p name bytes)
  assign p name v := uncounted (device.assign p name v)
  release p := uncounted (device.release p)

def Uncounted (update : Tally W → Tally W) : Prop := ∀ w, (update w).calls = w.calls

structure CountedServices (a : Shader (Tally W)) : Prop where
  compiler : ∀ c, a.compiler = some c → ∃ c' : Compiler W, c = countedCompiler c'
  resolver : ∀ e, a.resolver = some e → ∃ e' : Resolver W, e = countedResolver e'

structure Tallied (n : Nat) (s : Studio (Tally W) P × Tally W) : Prop where
  services : ∀ j, CountedServices (s.1.shaders.get j)
  calls : n ≤ s.2.calls

def Missing (a : Shader W) : Prop :=
  a.compiler = none ∨ a.resolver = none ∧ contains a.settings.macroDirective a.code = true

variable {n : Nat} {a b : Shader (Tally W)} {w u v : Tally W}

theorem CountedServices.of_eq (hc : b.compiler = a.compiler) (hr : b.resolver = a.resolver)
    (h : CountedServices a) : CountedServices b :=
  ⟨fun c hb => h.compiler c (hc.symm.trans hb), fun e hb => h.resolver e (hr.symm.trans hb)⟩

theorem Tallied.updateShader {s : Studio (Tally W) P} (h : Tallied n (s, w))
    {f : Shader (Tally W) → Shader (Tally W)} (hf : SameServices f) :
    Tallied n (s.updateShader k f, w) := by
  refine ⟨fun j => ?_, h.calls⟩
  rw [get_updateShader]
  split
  · exact (h.services j).of_eq (hf _).1 (hf _).2
  · exact h.services j

theorem tallied_aloof [Records W] (n : Nat) :
    Aloof (fun w v => w.calls ≤ v.calls) (Tallied (W := W) (P := P) n) where
  shader _ _ _ _ hf h := h.updateShader fun a => ⟨(hf a).compiler, (hf a).resolver⟩
  world _ _ _ hq h := ⟨h.services, h.calls.trans hq⟩
  reports _ _ _ := Nat.le_refl _
  expand k s w e he h source := by
    obtain ⟨e, rfl⟩ := (h.services k).resolver e he
    exact ⟨h.services, h.calls.trans (Nat.le_succ w.calls)⟩

theorem calls_of_counted {a : Act W α} {r : Except Fault α}
    (h : (counted a).outcome w = (r, v)) : v.calls = w.calls + 1 := by
  obtain ⟨_, rfl⟩ := Prod.mk.inj h
  rfl

theorem judge_calls (c : Compiler W) (x : Int) (source : Text) :
    Keeps (fun w => n ≤ w.calls) (judge (countedCompiler c) x source) := by
  have hcounted {β : Type} (act : Act W β) : Keeps (fun w => n ≤ w.calls) (counted act) :=
    fun w h => h.trans (Nat.le_succ w.calls)
  refine Keeps.bind (hcounted _) fun _ => Keeps.bind (hcounted _) fun passed => ?_
  cases passed with
  | true => exact .pure _
  | false => exact Keeps.bind (hcounted _) fun _ => .pure _

theorem expansion_calls (hs : CountedServices a) {r : Except Fault Text}
    (he : (expansion a).outcome w = (r, v)) :
    w.calls ≤ v.calls ∧ (Missing a ∨ w.calls < v.calls ∨ r = .ok a.code) := by
  rw [expansion] at he
  split at he
  case isTrue hd =>
      cases hr : a.resolver with
      | none =>
          rw [hr] at he
          cases he
          exact ⟨Nat.le_refl _, .inl (.inr ⟨hr, hd⟩)⟩
      | some e =>
          obtain ⟨e, rfl⟩ := hs.resolver e hr
          rw [hr] at he
          cases he
          exact ⟨Nat.le_succ _, .inr (.inl (Nat.lt_succ_self _))⟩
  case isFalse =>
      cases he
      exact ⟨Nat.le_refl _, .inr (.inr rfl)⟩

theorem Reported.calls [Records W] (h : Reported w v) : v.calls = w.calls := by
  rcases h with rfl | ⟨level, text, rfl⟩
  · rfl
  · rfl

theorem Declined.calls [Records W] {r : Except Fault Bool} {ds : List Diagnostic}
    (h : Declined k a w r ds u) (hs : CountedServices a) (hb : allBlank a.code = false) :
    Missing a ∨ w.calls < u.calls := by
  cases h with
  | idle hc => exact .inl (.inl hc)
  | broken hc he hf =>
      obtain ⟨_, hm | hm | hm⟩ := expansion_calls hs he
      · exact .inl hm
      · exact .inr hm
      · cases hm
  | unexpanded hc he hf hu =>
      obtain ⟨_, hm | hm | hm⟩ := expansion_calls hs he
      · exact .inl hm
      · exact .inr (hu.calls ▸ hm)
      · cases hm
  | empty hc he hsource =>
      obtain ⟨_, hm | hm | hm⟩ := expansion_calls hs he
      · exact .inl hm
      · exact .inr hm
      · cases hm
        rw [hb] at hsource
        cases hsource
  | homeless hc he hsource hx =>
      obtain ⟨c, rfl⟩ := hs.compiler _ hc
      obtain ⟨hle, _⟩ := expansion_calls hs he
      have hcreated := calls_of_counted hx
      exact .inr (by omega)
  | @undone c source x v v₁ v₂ v₃ u j d hc he hsource hx hj hn hd hu =>
      obtain ⟨c, rfl⟩ := hs.compiler _ hc
      obtain ⟨hle, _⟩ := expansion_calls hs he
      have hcreated := calls_of_counted hx
      have hdeleted := calls_of_counted hd
      have hjudged := judge_calls (n := w.calls) c x source v₁ (by omega)
      rw [hj] at hjudged
      change w.calls ≤ v₂.calls at hjudged
      rw [hu.calls]
      exact .inr (by omega)

theorem Accepted.calls {x : Int} {source : Text} (h : Accepted k a w x source u)
    (hs : CountedServices a) : w.calls < u.calls := by
  obtain ⟨c, v₁, v₂, hc, he, hx, hj⟩ := h.taken
  obtain ⟨c, rfl⟩ := hs.compiler c hc
  obtain ⟨hle, _⟩ := expansion_calls hs he
  have hcreated := calls_of_counted hx
  have hjudged := judge_calls (n := w.calls + 1) c x source v₂ (by omega)
  rw [hj] at hjudged
  exact hjudged

end Tally

section Requests

/-- The request assigns the stage no other text than `code` and does not reset it. -/
def Request.Retains (k : Stage) (code : Text) : Request W P V → Prop
  | .setCode j c => j = k → c = code
  | .setHandle j _ => j ≠ k
  | .reset j => j ≠ k
  | .release => False
  | _ => True

/-- The request assigns the stage another text than `code`, resets it or takes its handle. -/
def Request.Forgets (k : Stage) (code : Text) : Request W P V → Prop
  | .setCode j c => j = k ∧ c ≠ code
  | .setHandle j x => j = k ∧ x = 0
  | .reset j => j = k
  | _ => False

def Request.Compiles (k : Stage) : Request W P V → Prop
  | .compile j => j = k
  | .compileProgram => True
  | _ => False

variable [Records W] {call : Text → Change → Act (Studio W P × W) Unit}

theorem outcome_compile_of_known {s : Studio W P × W} {r : Bool} (h : Known r (s.1.shaders.get k)) :
    (compile call k).outcome s = (.ok r, s) := by
  rw [Known] at h
  split at h
  case isTrue hh => rw [outcome_compile_held call hh, h]
  case isFalse hh => exact outcome_compile_known call (not_not.mp hh) h

theorem respond_known (hcall : Overlooking call) (device : Device W P V) {q : Request W P V}
    {code : Text} (hq : q.Retains k code) (r : Bool) :
    Keeps (fun s => Known r (s.1.shaders.get k) ∧ (s.1.shaders.get k).code = code)
      (respond device call q) := by
  have huntouched (a b : Shader W) (hab : Untouched a b) (h : Known r a ∧ a.code = code) :
      Known r b ∧ b.code = code := ⟨h.1.untouched hab, hab.code.trans h.2⟩
  apply respond_get huntouched (hcall _ (aloof_get huntouched k)) device
  case hcode =>
      rintro c rfl ⟨s, w⟩ h
      rw [hq rfl, ← h.2, outcome_setCode_same]
      exact ⟨h.1, rfl⟩
  case hhandle =>
      rintro x rfl
      exact absurd rfl hq
  case hcompile =>
      intro _ s h
      rw [outcome_compile_of_known h.1]
      exact h
  case hreset =>
      rintro (rfl | rfl)
      · exact absurd rfl hq
      · exact hq.elim
  case hcompiler => exact fun _ _ _ h => h
  case hresolver => exact fun _ _ _ h => h

theorem respond_forgotten (hcall : Overlooking call) (device : Device W P V) {q : Request W P V}
    (hq : q.Unforged) (hk : ¬q.Compiles k) :
    Keeps (fun s => Forgotten (s.1.shaders.get k)) (respond device call q) := by
  have hservices (a : Shader W) : CandidServices False a := ⟨False.elim, False.elim⟩
  have huntouched (a b : Shader W) (hab : Untouched a b) (h : Forgotten a) : Forgotten b :=
    h.untouched hab
  apply respond_get huntouched (hcall _ (aloof_get huntouched k)) device
  case hcode =>
      rintro c - ⟨s, w⟩ h
      by_cases hc : c = (s.shaders.get k).code
      · rw [hc, outcome_setCode_same]
        exact h
      · exact (setCode_forgets hcall (hservices _) hc).1
  case hhandle =>
      rintro x rfl
      cases hq
      exact fun s _ => (setHandle_forgets hcall k s (hservices _)).1
  case hcompile =>
      rintro (rfl | rfl)
      · exact absurd rfl hk
      · exact absurd trivial hk
  case hreset => exact fun _ s _ => (reset_forgets hcall k s (hservices _)).1
  case hcompiler => exact fun _ _ _ h => ⟨h.handle, h.verdict, h.text⟩
  case hresolver => exact fun _ _ _ h => ⟨h.handle, h.verdict, h.text⟩

theorem respond_forgets (hcall : Overlooking call) (device : Device W P V) {q : Request W P V}
    {s : Studio W P × W} (hq : q.Forgets k (s.1.shaders.get k).code) :
    Forgotten (((respond device call q).outcome s).2.1.shaders.get k) := by
  have hservices : CandidServices False (s.1.shaders.get k) := ⟨False.elim, False.elim⟩
  cases q with
  | setCode j c =>
      obtain ⟨rfl, hc⟩ := hq
      exact (setCode_forgets hcall hservices hc).1
  | setHandle j x =>
      obtain ⟨rfl, rfl⟩ := hq
      exact (setHandle_forgets hcall j s hservices).1
  | reset j =>
      cases hq
      exact (reset_forgets hcall k s hservices).1
  | _ => exact hq.elim

theorem forgotten_of_raised (hcall : ∀ name c, Returns (call name c)) {s t : Studio W P × W}
    {fault : Fault} (hs : Consistent False (s.1.shaders.get k))
    (h : (compile call k).outcome s = (.error fault, t)) : Forgotten (t.1.shaders.get k) := by
  obtain ⟨hh, hv, ds, u, _, rfl⟩ := raised_of_compile call hcall h
  change Forgotten ((s.1.updateShader k (explained ds)).shaders.get k)
  rw [get_updateShader_self]
  exact ⟨hh, hv, hs.bare hh hv⟩

def renewed (a : Shader W) : Shader W :=
  { a with handle := 0, compiledText := [], diagnostics := [], verdict := none }

theorem outcome_compile_renewed {s : Studio W P × W} (h : Forgotten (s.1.shaders.get k)) :
    (compile call k).outcome s = (compile call k).outcome (s.1.updateShader k renewed, s.2) := by
  have hget : (s.1.updateShader k renewed).shaders.get k = renewed (s.1.shaders.get k) :=
    get_updateShader_self s.1 k renewed
  rw [outcome_compile_unknown call h.handle h.verdict,
    outcome_compile_unknown call (s := (s.1.updateShader k renewed, s.2)) (by rw [hget]; rfl)
      (by rw [hget]; rfl), updateShader_updateShader]
  refine congrArg (fun t => Act.outcome _ (t, s.2)) (updateShader_congr ?_)
  rw [renewed]
  rw [h.handle, h.verdict, h.text]

end Requests

section Attempts

variable [Records W] {call : Text → Change → Act (Studio (Tally W) P × Tally W) Unit} {n : Nat}

omit [Records W] in
theorem setHandle_tallied (hcall : ∀ name c, Keeps (Tallied n) (call name c)) (k : Stage) (x : Int) :
    Keeps (Tallied n) (setHandle call k x) := by
  rintro ⟨s, w⟩ h
  have hz : Tallied n (zeroed k x s, w) := by
    rw [zeroed]
    split
    · exact h.updateShader fun _ => ⟨rfl, rfl⟩
    · exact h
  have hexchanged : Tallied n (exchanged k x (zeroed k x s), w) := by
    have hupdated := (hz.updateShader (k := k)
      (f := fun a => { a with handle := x, scanned := none }) fun _ => ⟨rfl, rfl⟩).updateShader
      (k := k) (f := posted k .handle) fun _ => ⟨rfl, rfl⟩
    exact ⟨hupdated.services, hupdated.calls⟩
  have htell : Keeps (Tallied n) (tell call k .handle s) := Keeps.forM fun name _ => hcall name _
  rw [outcome_setHandle]
  split
  · exact hz
  · exact htell _ hexchanged

theorem compile_asks (hcall : ∀ n name c, Keeps (Tallied n) (call name c))
    {s : Studio (Tally W) P × Tally W} (hs : ∀ j, CountedServices (s.1.shaders.get j))
    (h : Forgotten (s.1.shaders.get k)) (hb : allBlank (s.1.shaders.get k).code = false) :
    Missing (s.1.shaders.get k) ∨ s.2.calls < ((compile call k).outcome s).2.2.calls := by
  obtain ⟨s, w⟩ := s
  have htried := outcome_compile call (w := w) h.handle h.verdict
  have htaken (x : Int) {u : Tally W} (hu : w.calls < u.calls) : w.calls <
      ((setHandle call k x).outcome (s.updateShader k (explained []), u)).2.2.calls := by
    have hstart : Tallied (w.calls + 1) (s.updateShader k (explained []), u) :=
      Tallied.updateShader (w := u) (k := k) (f := explained []) ⟨hs, hu⟩ fun _ => ⟨rfl, rfl⟩
    exact (setHandle_tallied (hcall _) k x _ hstart).calls
  generalize (compile call k).outcome (s, w) = o at htried ⊢
  cases htried with
  | blank hb' => exact absurd (hb.symm.trans hb') nofun
  | refused hb hd => exact hd.calls (hs k) hb
  | raised hb hd => exact hd.calls (hs k) hb
  | @passed x source u v t hb ha ht =>
      have hx := htaken x (ha.calls (hs k))
      rw [ht] at hx
      exact .inr hx
  | @interrupted x source fault u t hb ha ht =>
      have hx := htaken x (ha.calls (hs k))
      rw [ht] at hx
      exact .inr hx

end Attempts

section Runs

variable [Records W] {device : Device W P V} {listener : Listener (Tally W) P V}

def Request.Counted (r : Request (Tally W) P V) : Prop :=
  r.Unforged ∧
  (∀ k c, r = .setCompiler k c → ∃ c' : Option (Compiler W), c = c'.map countedCompiler) ∧
  ∀ k e, r = .setResolver k e → ∃ e' : Option (Resolver W), e = e'.map countedResolver

/-- The listener only reads the studio, makes no calls of its own and never fails. -/
structure Listener.Bystander (listener : Listener (Tally W) P V) : Prop where
  reads : ∀ name c, (listener name c).Within Request.Reads Uncounted
  calm : ∀ name c, (listener name c).Calm

/-- To compile the stage is to start over: it comes to what it would come to if the stage had never
been compiled, and the services are asked, unless the one that is needed is missing. -/
structure StartsOver (device : Device W P V) (listener : Listener (Tally W) P V) (k : Stage)
    (s : Studio (Tally W) P × Tally W) : Prop where
  asNew : ∀ depth, (perform (uncountedDevice device) listener depth (.compile k)).outcome s =
    (perform (uncountedDevice device) listener depth (.compile k)).outcome
      (s.1.updateShader k renewed, s.2)
  asks : ∀ depth, Missing (s.1.shaders.get k) ∨ s.2.calls <
    ((perform (uncountedDevice device) listener depth (.compile k)).outcome s).2.2.calls

omit [Records W] in
theorem Listener.Bystander.onlyReads (hl : listener.Bystander) : listener.OnlyReads :=
  fun name c => (hl.reads name c).mono (fun _ h => h) fun _ _ => trivial

theorem Listener.Bystander.tallied (hl : listener.Bystander) (device : Device W P V)
    (depth n : Nat) (name : Text) (c : Change) : Keeps (Tallied n)
      ((listener name c).run (perform (uncountedDevice device) listener depth)) := by
  refine Client.keeps_run (fun r hr => ?_) (fun update hu s w h => ?_) (hl.reads name c)
  · exact (tallied_aloof n).perform ⟨fun _ _ _ _ => Nat.le_refl _, fun _ _ _ _ => Nat.le_refl _⟩
      listener depth hr
  · exact ⟨h.services, (hu w).symm ▸ h.calls⟩

theorem startsOver (hl : listener.Bystander) (device : Device W P V)
    {s : Studio (Tally W) P × Tally W} (hs : ∀ j, CountedServices (s.1.shaders.get j))
    (h : Forgotten (s.1.shaders.get k)) (hb : allBlank (s.1.shaders.get k).code = false) :
    StartsOver device listener k s := by
  refine ⟨fun depth => ?_, fun depth => ?_⟩
  · obtain ⟨call, he⟩ := perform_eq_respond (uncountedDevice device) listener depth
    rw [he]
    exact outcome_compile_renewed h
  · obtain ⟨call, hcall, he⟩ := exists_call
      (C := fun call => ∀ n name c, Keeps (Tallied n) (call name c))
      (fun _ _ _ => .throw _) (hl.tallied device) depth
    rw [he]
    exact compile_asks hcall hs h hb

theorem Reached.countedServices {start s : Studio (Tally W) P × Tally W}
    {may : Request (Tally W) P V → Prop} {tame : (Tally W → Tally W) → Prop}
    (hl : listener.OnlyReads) (hmay : ∀ r, may r → r.Counted)
    (h : Reached (uncountedDevice device) listener may tame start s)
    (hstart : ∀ k, CountedServices (start.1.shaders.get k)) (k : Stage) :
    CountedServices (s.1.shaders.get k) := by
  refine h.holds (I := fun s => CountedServices (s.1.shaders.get k)) (hstart k)
    (fun depth r hr => ?_) fun _ _ _ _ h => h
  obtain ⟨_, hcompiler, hresolver⟩ := hmay r hr
  refine hl.perform (fun call hcall => respond_services (fun _ _ hc he h => h.of_eq hc he) hcall _
    (fun c hc a ha => ⟨?_, ha.resolver⟩) fun e he a ha => ⟨ha.compiler, ?_⟩) depth
  · obtain ⟨c, rfl⟩ := hcompiler k c hc
    exact fun c hc => (Option.map_eq_some_iff.mp hc).imp fun _ h => h.2.symm
  · obtain ⟨e, rfl⟩ := hresolver k e he
    exact fun e he => (Option.map_eq_some_iff.mp he).imp fun _ h => h.2.symm

def openedCounted (compiler : Option (Compiler W)) (resolver : Option (Resolver W))
    (settings : Settings) (context : Option (Context (Tally W) P)) : Studio (Tally W) P :=
  opened (compiler.map countedCompiler) (resolver.map countedResolver) settings context

/-- What compiling returned is returned, with nothing else done or changed, as long as the stage is
given no other code, is not reset and keeps its handle. After that, or after compiling failed, it
starts over. -/
theorem compile_cached (hl : listener.Bystander) (device : Device W P V)
    (compiler : Option (Compiler W)) (resolver : Option (Resolver W)) (settings : Settings)
    (context : Option (Context (Tally W) P)) (w : Tally W) {s : Studio (Tally W) P × Tally W}
    (hs : Reached (uncountedDevice device) listener Request.Counted Uncounted
      (openedCounted compiler resolver settings context, w) s) (k : Stage) (depth : Nat) :
    let compiling := (perform (uncountedDevice device) listener (depth + 1) (.compile k)).outcome s
    (∀ r, compiling.1 = .ok r → ∀ u,
      Reached (uncountedDevice device) listener
        (fun q => q.Counted ∧ q.Retains k (compiling.2.1.shaders.get k).code) Uncounted
        compiling.2 u →
      ∀ n, (perform (uncountedDevice device) listener n (.compile k)).outcome u = (.ok r, u)) ∧
    (∀ q : Request (Tally W) P V, q.Counted → q.Forgets k (s.1.shaders.get k).code → ∀ n u,
      Reached (uncountedDevice device) listener (fun q => q.Counted ∧ ¬q.Compiles k) Uncounted
        ((perform (uncountedDevice device) listener n q).outcome s).2 u →
      allBlank (u.1.shaders.get k).code = false → StartsOver device listener k u) ∧
    ∀ fault, compiling.1 = .error fault → ∀ u,
      Reached (uncountedDevice device) listener (fun q => q.Counted ∧ ¬q.Compiles k) Uncounted
        compiling.2 u →
      allBlank (u.1.shaders.get k).code = false → StartsOver device listener k u := by
  intro compiling
  have hreads := hl.onlyReads
  have hopened (j : Stage) : CountedServices ((openedCounted (P := P) compiler resolver settings
      context).shaders.get j) := by
    rw [openedCounted, get_opened]
    exact ⟨fun c hc => (Option.map_eq_some_iff.mp hc).imp fun _ h => h.2.symm,
      fun e he => (Option.map_eq_some_iff.mp he).imp fun _ h => h.2.symm⟩
  have hconsistent : Consistent False (s.1.shaders.get k) :=
    hs.consistent hreads (fun _ h => h.1) False.elim
      (opened_consistent False.elim False.elim settings context) k
  -- what is forgotten stays so until the stage is compiled
  have hstarts {t u : Studio (Tally W) P × Tally W} (ht : Forgotten (t.1.shaders.get k))
      (hservices : ∀ j, CountedServices (t.1.shaders.get j))
      (hu : Reached (uncountedDevice device) listener (fun q => q.Counted ∧ ¬q.Compiles k) Uncounted
        t u) (hb : allBlank (u.1.shaders.get k).code = false) : StartsOver device listener k u := by
    refine startsOver hl device (hu.countedServices hreads (fun _ h => h.1) hservices) ?_ hb
    refine hu.holds (I := fun s => Forgotten (s.1.shaders.get k)) ht (fun n q hq => ?_)
      fun _ _ _ _ h => h
    exact hreads.perform (fun call hcall => respond_forgotten hcall _ hq.1.1 hq.2) n
  refine ⟨fun r hr u hu n => ?_, fun q hc hq n u hu hb => ?_, fun fault hf u hu hb => ?_⟩
  · have hknown : Known r (compiling.2.1.shaders.get k) :=
      (compile_consistent (hreads.overlooking depth) k s hconsistent).2 r hr
    have hkept := hu.holds
      (I := fun s => Known r (s.1.shaders.get k) ∧
        (s.1.shaders.get k).code = (compiling.2.1.shaders.get k).code)
      ⟨hknown, rfl⟩ (fun n q hq => hreads.perform (fun call hcall => respond_known hcall _ hq.2 r) n)
      fun _ _ _ _ h => h
    cases n with
    | zero => exact outcome_compile_of_known hkept.1
    | succ n => exact outcome_compile_of_known hkept.1
  · refine hstarts ?_ ?_ hu hb
    · exact hreads.perform (Q := fun act => Forgotten ((act.outcome s).2.1.shaders.get k))
        (fun call hcall => respond_forgets hcall _ hq) n
    · exact (hs.request n q hc).countedServices hreads (fun _ h => h) hopened
  · refine hstarts ?_ ?_ hu hb
    · exact forgotten_of_raised (fun name c => (hl.calm name c).returns _) hconsistent
        (Prod.ext hf rfl)
    · have hunforged : (Request.compile k : Request (Tally W) P V).Counted :=
        ⟨trivial, nofun, nofun⟩
      exact (hs.request (depth + 1) (.compile k) hunforged).countedServices hreads (fun _ h => h)
        hopened

end Runs

namespace Bench

theorem onlooker_bystander :
    Listener.Bystander (Listener.onlooker : Listener (Tally Bench) P V) :=
  ⟨Listener.onlooker_onlyReads, fun _ _ _ => trivial⟩

def flawedStudio : Studio (Tally Bench) Nat × Tally Bench :=
  performAll (uncountedDevice device) Listener.onlooker 1
    [.subscribe .vertex ['l'], .setCode .vertex ['x']]
    (openedCounted (some (compiler ['x'])) none {} none, { world := {} })

def retriedRequests : List (Request (Tally Bench) Nat Unit) :=
  [.setCompiler .vertex (some (countedCompiler (compiler ['y']))), .compile .vertex]

def retriedStudio : Studio (Tally Bench) Nat × Tally Bench :=
  performAll (uncountedDevice device) Listener.onlooker 1 retriedRequests
    ((perform (uncountedDevice device) Listener.onlooker 1 (.compile .vertex)).outcome
      flawedStudio).2

def resetStudio : Studio (Tally Bench) Nat × Tally Bench :=
  ((perform (uncountedDevice device) Listener.onlooker 1 (.reset .vertex)).outcome retriedStudio).2

theorem flawedStudio_reached :
    Reached (uncountedDevice device) Listener.onlooker Request.Counted Uncounted
      (openedCounted (some (compiler ['x'])) none {} none, { world := {} }) flawedStudio := by
  refine Reached.start.performAll 1 fun r hr => ?_
  simp only [List.mem_cons, List.not_mem_nil, or_false] at hr
  rcases hr with rfl | rfl
  · exact ⟨trivial, nofun, nofun⟩
  · exact ⟨trivial, nofun, nofun⟩

theorem retriedRequests_retain (code : Text) :
    ∀ r ∈ retriedRequests, r.Counted ∧ r.Retains .vertex code := by
  intro r hr
  simp only [retriedRequests, List.mem_cons, List.not_mem_nil, or_false] at hr
  rcases hr with rfl | rfl
  · refine ⟨⟨trivial, ?_, nofun⟩, trivial⟩
    rintro k c hc
    cases hc
    exact ⟨some (compiler ['y']), rfl⟩
  · exact ⟨⟨trivial, nofun, nofun⟩, trivial⟩

theorem retriedStudio_reached :
    Reached (uncountedDevice device) Listener.onlooker Request.Counted Uncounted
      (openedCounted (some (compiler ['x'])) none {} none, { world := {} }) retriedStudio :=
  (flawedStudio_reached.request 1 (.compile .vertex) ⟨trivial, nofun, nofun⟩).performAll 1
    fun r hr => (retriedRequests_retain [] r hr).1

/-- The refusal stays even with a compiler that would take the code, until the stage is reset. -/
theorem compile_cached_refusal :
    ((perform (uncountedDevice device) Listener.onlooker 1 (.compile .vertex)).outcome
      flawedStudio).1 = .ok false ∧
    (perform (uncountedDevice device) Listener.onlooker 1 (.compile .vertex)).outcome retriedStudio
      = (.ok false, retriedStudio) ∧
    StartsOver device Listener.onlooker .vertex resetStudio ∧
    ((perform (uncountedDevice device) Listener.onlooker 1 (.compile .vertex)).outcome
      resetStudio).1 = .ok true := by
  have hrefused : ((perform (uncountedDevice device) Listener.onlooker 1 (.compile .vertex)).outcome
      flawedStudio).1 = .ok false := by decide +kernel
  obtain ⟨hknown, _⟩ := compile_cached onlooker_bystander device
    (some (compiler ['x'])) none {} none { world := {} } flawedStudio_reached .vertex 0
  obtain ⟨_, hforgets, _⟩ := compile_cached onlooker_bystander device
    (some (compiler ['x'])) none {} none { world := {} } retriedStudio_reached .vertex 0
  refine ⟨hrefused, ?_, ?_, by decide +kernel⟩
  · exact hknown false hrefused retriedStudio
      (Reached.start.performAll 1 (retriedRequests_retain _)) 1
  · exact hforgets (.reset .vertex) ⟨trivial, nofun, nofun⟩ rfl 1 _ .start (by decide +kernel)

end Bench

end ShaderPipeline.Studio
