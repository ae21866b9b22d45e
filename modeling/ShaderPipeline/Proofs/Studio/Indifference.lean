import ShaderPipeline.Proofs.Studio.Changes
import ShaderPipeline.Proofs.Studio.Run

namespace ShaderPipeline.Studio

open Text Glsl Act

variable {W P V α : Type}

/-- The shaders agree in all that what is compiled and kept depends on. -/
structure Alike (a b : Shader W) : Prop where
  code : b.code = a.code
  handle : b.handle = a.handle
  compiledText : b.compiledText = a.compiledText
  verdict : b.verdict = a.verdict
  compiler : b.compiler = a.compiler
  resolver : b.resolver = a.resolver

/-- The shaders differ in no more than a reader of the studio may change. -/
structure Untouched (a b : Shader W) : Prop extends Alike a b where
  diagnostics : b.diagnostics = a.diagnostics

/-- `I` does not see a change between shaders that are untouched, in a world that changes quietly,
or by the answer of a resolver. -/
structure Aloof [Records W] (quiet : W → W → Prop) (I : Studio W P × W → Prop) : Prop where
  shader : ∀ k f s w, (∀ a, Untouched a (f a)) → I (s, w) → I (s.updateShader k f, w)
  world : ∀ s w v, quiet w v → I (s, w) → I (s, v)
  reports : ∀ level text w, quiet w (Records.record level text w)
  expand : ∀ k s w e, (s.shaders.get k).resolver = some e → I (s, w) →
    ∀ source, I (s, ((e source).outcome w).2)

/-- `I` does not see a change between shaders that are alike, in the diagnostics of the program,
in a world that changes quietly, or by the answer of a resolver. -/
structure Indifferent [Records W] (quiet : W → W → Prop) (I : Studio W P × W → Prop) : Prop where
  shader : ∀ k f s w, (∀ a, Alike a (f a)) → I (s, w) → I (s.updateShader k f, w)
  links : ∀ s w ds, I (s, w) → I ({ s with linkDiagnostics := ds }, w)
  world : ∀ s w v, quiet w v → I (s, w) → I (s, v)
  reports : ∀ level text w, quiet w (Records.record level text w)
  expand : ∀ k s w e, (s.shaders.get k).resolver = some e → I (s, w) →
    ∀ source, I (s, ((e source).outcome w).2)

structure Ready (I : Studio W P × W → Prop) (k : Stage) (c : Compiler W) (source : Text)
    (s : Studio W P × W) : Prop where
  compiler : (s.1.shaders.get k).compiler = some c
  hasCode : allBlank (s.1.shaders.get k).code = false
  hasSource : allBlank source = false
  expanded : ∃ w, I (s.1, w) ∧
    (expandMacros k (s.1.shaders.get k).code).outcome (s.1, w) = (.ok source, s)

theorem studio_expandMacros (k : Stage) (source : Text) (s : Studio W P × W) :
    ((expandMacros k source).outcome s).2.1 = s.1 := by
  change ((if contains (s.1.shaders.get k).settings.macroDirective source then
    _ else _ : Act _ Text).outcome s).2.1 = _
  rw [outcome_ite]
  split
  · cases (s.1.shaders.get k).resolver <;> rfl
  · rfl

theorem outcome_setCode_holds {call : Text → Change → Act (Studio W P × W) Unit} {k : Stage}
    {I J : Studio W P × W → Prop} (hzero : Leads J (setHandle call k 0) fun _ => I)
    (hforget : ∀ s w, I (s, w) → I (s.updateShader k fun a => { a with verdict := none }, w))
    (hnotify : Keeps I (notify call k .code)) {s : Studio W P} {w : W} {code : Text}
    (hcode : code ≠ (s.shaders.get k).code) (h : J (s.updateShader k (recoded code), w)) :
    I ((setCode call k code).outcome (s, w)).2 := by
  have hwritten : Leads J (do
      setHandle call k 0
      changeShader k fun a => { a with verdict := none }
      notify call k .code) fun _ => I :=
    Leads.bind hzero (fun _ => Leads.change_bind hforget hnotify) fun _ _ h => h
  rw [outcome_setCode call hcode]
  exact hwritten _ h

structure Discreet (quiet : W → W → Prop) (device : Device W P V) : Prop where
  write : ∀ p name bytes w, quiet w ((device.write p name bytes).outcome w).2
  assign : ∀ p name v w, quiet w ((device.assign p name v).outcome w).2

def Request.Reads : Request W P V → Prop
  | .look | .interface _ | .toLegacy _ | .poll _ | .subscribe _ _ | .unsubscribe _ _
  | .setSettings _ _ | .toLegacyPair | .mergedInterface | .setUniform _ _ => True
  | _ => False

section

variable [Records W] {quiet : W → W → Prop} {I : Studio W P × W → Prop} {k : Stage}

namespace Aloof

theorem withShader (hI : Aloof quiet I) {p : Shader W → Prop}
    (hp : ∀ a b, Untouched a b → p a → p b) :
    Aloof quiet fun s => I s ∧ p (s.1.shaders.get k) where
  shader j f s w hf h := by
    refine ⟨hI.shader j f s w hf h.1, ?_⟩
    rw [get_updateShader]
    split
    · exact hp _ _ (hf _) h.2
    · exact h.2
  world s w v hq h := ⟨hI.world s w v hq h.1, h.2⟩
  reports := hI.reports
  expand j s w e he h source := ⟨hI.expand j s w e he h.1 source, h.2⟩

variable (hI : Aloof quiet I)
include hI

theorem changeShader {f : Shader W → Shader W} (hf : ∀ a, Untouched a (f a)) :
    Keeps I (changeShader k f) :=
  fun s h => hI.shader k f s.1 s.2 hf h

theorem outside {a : Act W α} (ha : ∀ w, quiet w (a.outcome w).2) : Keeps I (outside a) :=
  fun s h => hI.world s.1 s.2 _ (ha s.2) h

theorem report (level : Level) (text : Text) : Keeps I (report level text) :=
  hI.outside fun w => hI.reports level text w

theorem interface (k : Stage) : Keeps I (interface k) := by
  have hread (code : Text) : Keeps I (interface.readAgain (P := P) k code) :=
    Keeps.bind (.ofExcept _) fun _ =>
      Keeps.bind (hI.changeShader fun _ => ⟨⟨rfl, rfl, rfl, rfl, rfl, rfl⟩, rfl⟩) fun _ => .pure _
  rw [Studio.interface]
  refine Keeps.bind (fun _ h => h) fun s => ?_
  split
  · exact .ite (.pure _) (hread _)
  · exact hread _

theorem expandMacros (k : Stage) (source : Text) : Keeps I (expandMacros k source) := by
  intro s h
  change I ((if contains (s.1.shaders.get k).settings.macroDirective source then
    _ else _ : Act _ Text).outcome s).2
  rw [outcome_ite]
  split
  · cases hr : (s.1.shaders.get k).resolver with
    | none => exact h
    | some e => exact hI.expand k s.1 s.2 e hr h source
  · exact h

theorem convertAndExpand {s : Studio W P} (k : Stage) (settings : Settings)
    (i : Option Interface) (code : Text) :
    Keeps (fun w => I (s, w))
      (Legacy.convertAndExpand settings k i (s.shaders.get k).resolver code) := by
  unfold Legacy.convertAndExpand
  extract_lets body
  refine Keeps.bind (Keeps.forM fun _ _ w h => hI.world s w _ (hI.reports _ _ w) h) fun _ => ?_
  refine Keeps.bind (fun w h => ?_) fun text => .ite (fun w h => ?_) (.pure _)
  · cases body.text <;> exact h
  · cases hr : (s.shaders.get k).resolver with
    | none => exact h
    | some e => exact hI.expand k s w e hr h text

theorem toLegacy (k : Stage) : Keeps I (toLegacy k) := by
  intro s h
  -- the resolver is the one that the stage had before its interface was read
  have hresolver : Aloof quiet fun t : Studio W P × W =>
      I t ∧ (t.1.shaders.get k).resolver = (s.1.shaders.get k).resolver :=
    hI.withShader fun _ _ hab h => hab.resolver.trans h
  have hrest : Leads (fun t : Studio W P × W =>
      I t ∧ (t.1.shaders.get k).resolver = (s.1.shaders.get k).resolver)
      (Studio.interface k >>= fun i => Act.outside (Legacy.convertAndExpand
        (s.1.shaders.get k).settings k (some i) (s.1.shaders.get k).resolver
        (s.1.shaders.get k).code)) fun _ => I := by
    refine Leads.bind (hresolver.interface k) (fun i t ht => ?_) fun _ _ h => h.1
    rw [← ht.2]
    exact hI.convertAndExpand k _ (some i) _ t.2 ht.1
  exact hrest s ⟨h, rfl⟩

theorem toLegacyPair : Keeps I toLegacyPair :=
  (hI.toLegacy .vertex).bind fun _ => (hI.toLegacy .fragment).bind fun _ => .pure _

theorem mergedInterface : Keeps I mergedInterface :=
  (Keeps.mapM fun k _ => hI.interface k).map _

theorem setUniform {device : Device W P V} (hd : Discreet quiet device) (name : Text)
    (value : Value V) : Keeps I (setUniform device name value) := by
  rw [Studio.setUniform]
  refine Keeps.bind keeps_own fun s => ?_
  split
  · exact .pure _
  · refine .ite ?_ (.pure _)
    extract_lets rest
    have hrest (r : Unit) : Keeps I (rest r) := .pure _
    cases value with
    | numbers a =>
        refine Keeps.bind hI.mergedInterface fun i => ?_
        exact Keeps.bind (hI.outside (hd.write _ _ _)) hrest
    | bytes bs => exact Keeps.bind (hI.outside (hd.write _ _ _)) hrest
    | other v => exact Keeps.bind (hI.outside (hd.assign _ _ _)) hrest

theorem poll (k : Stage) : Keeps I (poll k) := by
  refine Keeps.bind (fun _ h => h) fun s => ?_
  exact Keeps.bind (hI.changeShader fun _ => ⟨⟨rfl, rfl, rfl, rfl, rfl, rfl⟩, rfl⟩) fun _ => .pure _

theorem respond {device : Device W P V} (hd : Discreet quiet device)
    (call : Text → Change → Act (Studio W P × W) Unit) {r : Request W P V} (hr : r.Reads) :
    Keeps I (respond device call r) := by
  cases r with
  | look => exact keeps_own
  | interface k => exact hI.interface k
  | toLegacy k => exact hI.toLegacy k
  | poll k => exact hI.poll k
  | subscribe k name => exact hI.changeShader fun _ => ⟨⟨rfl, rfl, rfl, rfl, rfl, rfl⟩, rfl⟩
  | unsubscribe k name => exact hI.changeShader fun _ => ⟨⟨rfl, rfl, rfl, rfl, rfl, rfl⟩, rfl⟩
  | setSettings k settings => exact hI.changeShader fun _ => ⟨⟨rfl, rfl, rfl, rfl, rfl, rfl⟩, rfl⟩
  | toLegacyPair => exact hI.toLegacyPair
  | mergedInterface => exact hI.mergedInterface
  | setUniform name value => exact hI.setUniform hd name value
  | setCode | setHandle | compile | reset | setCompiler | setResolver | setContext
  | compileProgram | release | drain => exact hr.elim

theorem perform {device : Device W P V} (hd : Discreet quiet device) (listener : Listener W P V)
    (depth : Nat) {r : Request W P V} (hr : r.Reads) :
    Keeps I (perform device listener depth r) := by
  obtain ⟨call, he⟩ := perform_eq_respond device listener depth
  rw [he]
  exact hI.respond hd call hr

end Aloof

namespace Indifferent

theorem withShader (hI : Indifferent quiet I) {p : Shader W → Prop}
    (hp : ∀ a b, Alike a b → p a → p b) :
    Indifferent quiet fun s => I s ∧ p (s.1.shaders.get k) where
  shader j f s w hf h := by
    refine ⟨hI.shader j f s w hf h.1, ?_⟩
    rw [get_updateShader]
    split
    · exact hp _ _ (hf _) h.2
    · exact h.2
  links s w ds h := ⟨hI.links s w ds h.1, h.2⟩
  world s w v hq h := ⟨hI.world s w v hq h.1, h.2⟩
  reports := hI.reports
  expand j s w e he h source := ⟨hI.expand j s w e he h.1 source, h.2⟩

variable (hI : Indifferent quiet I)
include hI

theorem aloof : Aloof quiet I where
  shader k f s w hf h := hI.shader k f s w (fun a => (hf a).toAlike) h
  world := hI.world
  reports := hI.reports
  expand := hI.expand

theorem changeShader {f : Shader W → Shader W} (hf : ∀ a, Alike a (f a)) :
    Keeps I (changeShader k f) :=
  fun s h => hI.shader k f s.1 s.2 hf h

theorem outside {a : Act W α} (ha : ∀ w, quiet w (a.outcome w).2) : Keeps I (outside a) :=
  hI.aloof.outside ha

theorem report (level : Level) (text : Text) : Keeps I (report level text) :=
  hI.aloof.report level text

theorem explain (k : Stage) (text : Text) : Keeps I (explain k text) := by
  refine Keeps.forM fun line _ => .ite ?_ (.pure _)
  exact Keeps.bind (.ofExcept _) fun _ =>
    hI.changeShader fun _ => ⟨rfl, rfl, rfl, rfl, rfl, rfl⟩

theorem explainLink (text : Text) : Keeps I (explainLink text) := by
  refine Keeps.forM fun line _ => .ite ?_ (.pure _)
  exact Keeps.bind (.ofExcept _) fun _ s h => hI.links s.1 s.2 _ h

theorem submit {c : Compiler W} (k : Stage) {x : Int} {source : Text}
    (hset : ∀ w, quiet w ((c.setSource x source).outcome w).2)
    (hcompile : ∀ w, quiet w ((c.compile x).outcome w).2)
    (hlog : ∀ w, quiet w ((c.infoLog x).outcome w).2) : Keeps I (submit c k x source) := by
  rw [Studio.submit]
  refine Keeps.bind (hI.outside hset) fun _ => Keeps.bind (hI.outside hcompile) fun compiled => ?_
  extract_lets rest
  have hrest (r : Unit) : Keeps I (rest r) := .pure _
  refine .ite ?_ (hrest ())
  exact Keeps.bind (hI.outside hlog) fun text => Keeps.bind (hI.explain k text) hrest

theorem attemptCompile {call : Text → Change → Act (Studio W P × W) Unit}
    {Q : Except Fault Bool → Studio W P × W → Prop}
    (hblank : ∀ s, I s → allBlank (s.1.shaders.get k).code = true → Q (.ok true) s)
    (hfail : ∀ r s, I s → r ≠ .ok true → Q r s)
    (hwith : ∀ c source, Leads (fun s => I s ∧ Ready I k c source s)
      (compileWith call c k source) Q) : Leads I (attemptCompile call k) Q := by
  intro s h
  rw [Studio.attemptCompile]
  change Q ((if allBlank (s.1.shaders.get k).code then _ else _ : Act _ Bool).outcome s).1
    ((if allBlank (s.1.shaders.get k).code then _ else _ : Act _ Bool).outcome s).2
  by_cases hb : allBlank (s.1.shaders.get k).code = true
  · rw [if_pos hb]
    exact hblank s h hb
  · rw [if_neg hb]
    cases hc : (s.1.shaders.get k).compiler with
    | none => exact hfail _ s h (by rintro ⟨⟩)
    | some c =>
        have hexpand : Leads (fun t => t = s) (Studio.expandMacros k (s.1.shaders.get k).code)
            fun r t => I t ∧ ∀ source, r = .ok source → allBlank source = false →
              Ready I k c source t := by
          rintro t rfl
          have hstudio := studio_expandMacros k (t.1.shaders.get k).code t
          refine ⟨hI.aloof.expandMacros k _ t h, fun source hr hs => ?_⟩
          refine ⟨by rw [hstudio]; exact hc, by rw [hstudio]; simpa using hb, hs, t.2, ?_, ?_⟩
          · rw [hstudio]; exact h
          · rw [hstudio]; exact Prod.ext hr rfl
        have herror (fault : Fault) (t : Studio W P × W) (ht : I t) : Q (.error fault) t :=
          hfail _ t ht nofun
        have hrefused : Leads I (Pure.pure false) Q := Leads.pure fun t ht => hfail _ t ht nofun
        refine Leads.attempt_bind hexpand (fun r => ?_) s rfl
        cases r with
        | error fault =>
            refine Leads.mono (P := I) ?_ (fun _ h => h.1) fun _ _ h => h
            refine Leads.ite (fun _ => ?_) fun _ => herror fault
            refine Leads.bind (hI.explain k _) (fun _ => ?_) herror
            exact Leads.bind (hI.report _ _) (fun _ => hrefused) herror
        | ok source =>
            refine Leads.ite (fun _ => ?_) fun hs => ?_
            · refine Leads.mono (P := I) ?_ (fun _ h => h.1) fun _ _ h => h
              exact Leads.bind (hI.explain k _) (fun _ => hrefused) herror
            · refine (hwith c source).mono (fun t ht => ⟨ht.1, ?_⟩) fun _ _ h => h
              exact ht.2 source rfl (Bool.eq_false_iff.mpr hs)

theorem compile {call : Text → Change → Act (Studio W P × W) Unit}
    {B : Studio W P × W → Prop}
    (hknown : ∀ s, I s → (s.1.shaders.get k).handle ≠ 0 ∨
      (s.1.shaders.get k).verdict = some true ∨ allBlank (s.1.shaders.get k).code = true → B s)
    (hverdict : ∀ r s w, I (s, w) → (r = true → B (s, w)) →
      I (s.updateShader k fun a => { a with verdict := some r }, w) ∧
      (r = true → B (s.updateShader k fun a => { a with verdict := some r }, w)))
    (hwith : ∀ c source, Leads
      (fun s => I s ∧ (s.1.shaders.get k).handle = 0 ∧ Ready I k c source s)
      (compileWith call c k source) fun r s => I s ∧ (r = .ok true → B s)) :
    Leads I (compile call k) fun r s => I s ∧ (r = .ok true → B s) := by
  have hopen : Indifferent quiet fun s : Studio W P × W => I s ∧ (s.1.shaders.get k).handle = 0 :=
    hI.withShader fun _ _ hab h => hab.handle.trans h
  have hattempt : Leads (fun s => I s ∧ (s.1.shaders.get k).handle = 0)
      (Studio.attemptCompile call k) fun r s => I s ∧ (r = .ok true → B s) := by
    refine hopen.attemptCompile (fun s h hb => ⟨h.1, fun _ => hknown s h.1 (.inr (.inr hb))⟩)
      (fun r s h hr => ⟨h.1, fun he => absurd he hr⟩) fun c source => ?_
    refine (hwith c source).mono (fun s h => ⟨h.1.1, h.1.2, ?_⟩) fun _ _ h => h
    obtain ⟨w, hw, he⟩ := h.2.expanded
    exact ⟨h.2.compiler, h.2.hasCode, h.2.hasSource, w, hw.1, he⟩
  have hrecorded : Leads (fun s => I s ∧ (s.1.shaders.get k).handle = 0)
      (do
        let compiled ← Studio.attemptCompile call k
        Studio.changeShader k fun a => { a with verdict := some compiled }
        return compiled) fun r s => I s ∧ (r = .ok true → B s) := by
    refine Leads.bind hattempt (fun r s h => ?_) fun _ _ h => ⟨h.1, nofun⟩
    have hset := hverdict r s.1 s.2 h.1 fun hr => h.2 (by rw [hr])
    exact ⟨hset.1, fun hr => hset.2 (Except.ok.inj hr)⟩
  intro s h
  by_cases hh : (s.1.shaders.get k).handle = 0
  · cases hv : (s.1.shaders.get k).verdict with
    | some r =>
        rw [outcome_compile_known call hh hv]
        refine ⟨h, fun hr => hknown s h (.inr (.inl ?_))⟩
        rw [hv, Except.ok.inj hr]
    | none =>
        rw [outcome_compile_unknown call hh hv]
        exact hrecorded _ (hopen.shader k _ s.1 s.2 (fun _ => ⟨rfl, rfl, rfl, rfl, rfl, rfl⟩) ⟨h, hh⟩)
  · rw [outcome_compile_held call hh]
    exact ⟨h, fun _ => hknown s h (.inl hh)⟩

theorem compileWith {call : Text → Change → Act (Studio W P × W) Unit} {c : Compiler W}
    {source : Text} {Pre B : Studio W P × W → Prop} {A V : Int → Studio W P × W → Prop}
    {N : Int → Prop} (hgiven : ∀ w x, ((c.create k.token).outcome w).1 = .ok x → N x)
    (hcreate : Leads Pre (Act.outside (c.create k.token)) (Returned A I))
    (hsubmit : ∀ x, Leads (A x) (Studio.submit c k x source) fun r s =>
      A x s ∧ (r = .ok true → V x s))
    (hdelete : ∀ x, Leads (A x) (Act.outside (c.delete x)) fun _ => I)
    (hset : ∀ x, N x → Leads (fun s => A x s ∧ V x s) (Studio.setHandle call k x) fun r s =>
      I s ∧ (r = .ok () → B s))
    (hB : Indifferent quiet fun s => I s ∧ B s)
    (hnoted : ∀ s w, I (s, w) ∧ B (s, w) →
      I (s.updateShader k fun a => { a with compiledText := source }, w) ∧
      B (s.updateShader k fun a => { a with compiledText := source }, w)) :
    Leads Pre (Studio.compileWith call c k source) fun r s => I s ∧ (r = .ok true → B s) := by
  refine Leads.bind (R := fun r s => Returned A I r s ∧ ∀ x, r = .ok x → N x)
    (fun s h => ⟨hcreate s h, hgiven s.2⟩) (fun x => ?_) fun _ _ h => ⟨h.1, nofun⟩
  by_cases hx : N x
  case neg => exact fun s h => absurd (h.2 x rfl) hx
  refine Leads.mono (P := A x) ?_ (fun s h => h.1) fun _ _ h => h
  have hundone (r : Except Fault Bool) : Leads (fun s => A x s ∧ (r = .ok true → V x s))
      (Act.outside (c.delete x)) fun _ => I := (hdelete x).mono (fun _ h => h.1) fun _ _ h => h
  refine Leads.bind (Leads.onFault (hsubmit x) fun _ => hundone _) (fun compiled => ?_)
    fun _ _ h => ⟨h, nofun⟩
  refine Leads.ite (fun hpassed => ?_) fun _ => ?_
  · refine Leads.bind ((hset x hx).mono (fun s h => ⟨h.1, h.2 (by rw [hpassed])⟩) fun _ _ h => h)
      (fun _ => ?_) fun _ _ h => ⟨h.1, nofun⟩
    refine Leads.mono (P := fun s => I s ∧ B s) ?_ (fun s h => ⟨h.1, h.2 rfl⟩) fun _ _ h => h
    refine Leads.change_bind (R := fun s => I s ∧ B s) hnoted ?_
    refine Leads.bind (hB.report _ _) (fun _ => ?_) fun _ _ h => ⟨h.1, nofun⟩
    exact Leads.pure fun s h => ⟨h.1, fun _ => h.2⟩
  · refine Leads.bind (hundone _) (fun _ => ?_) fun _ _ h => ⟨h, nofun⟩
    refine Leads.bind (R := fun _ => I) (fun s h => h) (fun a => ?_) fun _ _ h => ⟨h, nofun⟩
    refine Leads.bind (hI.report _ _) (fun _ => ?_) fun _ _ h => ⟨h, nofun⟩
    exact Leads.pure fun s h => ⟨h, nofun⟩

theorem linkWith {link : Context W P} {args : LinkArgs} {Pre : Studio W P × W → Prop}
    {R : Except Fault P → Studio W P × W → Prop} (hlink : Leads Pre (Act.outside (link args)) R)
    (hadopt : ∀ p s w, R (.ok p) (s, w) → I ({ s with program := some p }, w))
    (hrefused : ∀ fault s, R (.error fault) s → I s) :
    Leads Pre (linkWith link args) fun _ => I := by
  rw [Studio.linkWith]
  refine Leads.attempt_bind hlink fun r => ?_
  cases r with
  | ok p =>
      refine Leads.change_bind (hadopt p) ?_
      exact Keeps.bind (hI.report _ _) fun _ => .pure _
  | error fault =>
      refine Leads.mono (P := I) ?_ (hrefused fault) fun _ _ h => h
      refine Keeps.ite ?_ (.throw fault)
      refine Keeps.bind (hI.explainLink _) fun _ => Keeps.bind keeps_own fun s => ?_
      exact Keeps.bind (hI.report _ _) fun _ => .pure _

theorem compileProgram {call : Text → Change → Act (Studio W P × W) Unit}
    {J : Studio W P × W → Prop}
    (hstages : Leads I (Stage.all.mapM (Studio.compile call)) fun r s =>
      I s ∧ ∀ rs, r = .ok rs → rs.all id = true → J s)
    (hlink : ∀ link args, Leads (fun s => I s ∧ J s ∧ s.1.program = none ∧
      s.1.context = some link ∧ linkArgs? s.1 = some args) (Studio.linkWith link args) fun _ => I) :
    Keeps I (compileProgram call) := by
  rw [Studio.compileProgram]
  refine Keeps.bind (fun s h => hI.links s.1 s.2 [] h) fun _ => ?_
  refine Leads.bind hstages (fun rs => ?_) fun _ _ h => h.1
  refine Leads.ite (fun hall => ?_) fun _ => Leads.pure fun _ h => h.1
  refine Leads.bind leads_own (fun t => ?_) fun _ _ h => h.1.1
  split
  case h_1 link args hp hc ha =>
      rintro s ⟨h, ht⟩
      cases ht
      exact hlink link args s ⟨h.1, h.2 rs rfl hall, hp, hc, ha⟩
  case h_2 => exact Leads.pure fun _ h => h.1.1

end Indifferent

def Overlooking (call : Text → Change → Act (Studio W P × W) Unit) : Prop :=
  ∀ I : Studio W P × W → Prop, Aloof (fun _ _ => True) I → ∀ name c, Keeps I (call name c)

def Onlooking (call : Text → Change → Act (Studio W P × W) Unit) : Prop :=
  ∀ I : Studio W P × W → Prop, Indifferent (fun _ _ => True) I → ∀ name c, Keeps I (call name c)

section Onlooking

variable {call : Text → Change → Act (Studio W P × W) Unit}

theorem Overlooking.tell (hcall : Overlooking call) (hI : Aloof (fun _ _ => True) I) (k : Stage)
    (property : Property) (s : Studio W P) : Keeps I (Studio.tell call k property s) :=
  Keeps.forM fun name _ => hcall I hI name _

theorem Overlooking.onlooking (hcall : Overlooking call) : Onlooking call :=
  fun I hI => hcall I hI.aloof

theorem Overlooking.notifyCode (hcall : Overlooking call) (hI : Aloof (fun _ _ => True) I)
    (k : Stage) : Keeps I (notify call k .code) := by
  rintro ⟨s, w⟩ h
  rw [outcome_notify_code]
  exact hcall.tell hI k .code s _
    (hI.shader k _ s w (fun _ => ⟨⟨rfl, rfl, rfl, rfl, rfl, rfl⟩, rfl⟩) h)

variable (hcall : Onlooking call)
include hcall

theorem Onlooking.tell (hI : Indifferent (fun _ _ => True) I) (k : Stage) (property : Property)
    (s : Studio W P) : Keeps I (Studio.tell call k property s) :=
  Keeps.forM fun name _ => hcall I hI name _

theorem Onlooking.notifyCode (hI : Indifferent (fun _ _ => True) I) (k : Stage) :
    Keeps I (notify call k .code) := by
  rintro ⟨s, w⟩ h
  rw [outcome_notify_code]
  exact hcall.tell hI k .code s _
    (hI.shader k _ s w (fun _ => ⟨rfl, rfl, rfl, rfl, rfl, rfl⟩) h)

end Onlooking

/-- The listener only reads the studio, whatever it does to the world and whether it fails. -/
def Listener.OnlyReads (listener : Listener W P V) : Prop :=
  ∀ name c, (listener name c).Within Request.Reads fun _ => True

omit [Records W] in
theorem Listener.idle_onlyReads : (Listener.idle : Listener W P V).OnlyReads :=
  fun _ _ => trivial

omit [Records W] in
theorem Listener.onlooker_onlyReads : (Listener.onlooker : Listener W P V).OnlyReads :=
  fun _ _ => ⟨trivial, fun _ => trivial⟩

theorem Listener.OnlyReads.overlooking {device : Device W P V} {listener : Listener W P V}
    (hl : listener.OnlyReads) (depth : Nat) :
    Overlooking fun name c => (listener name c).run (perform device listener depth) := by
  refine fun I hI name c => Client.keeps_run (fun r hr => ?_) (fun update _ s w h => ?_) (hl name c)
  · exact hI.perform ⟨fun _ _ _ _ => trivial, fun _ _ _ _ => trivial⟩ listener depth hr
  · exact hI.world s w _ trivial h

theorem throw_overlooking : Overlooking fun _ _ => (throw .budgetSpent : Act (Studio W P × W) Unit) :=
  fun _ _ _ _ => .throw _

theorem Listener.OnlyReads.exists_call {listener : Listener W P V} (hl : listener.OnlyReads)
    (device : Device W P V) (depth : Nat) :
    ∃ call, Overlooking call ∧ perform device listener depth = respond device call :=
  Studio.exists_call throw_overlooking hl.overlooking depth

end

end ShaderPipeline.Studio
