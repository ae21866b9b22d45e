import ShaderPipeline.Proofs.Studio.Run
import ShaderPipeline.Proofs.Studio.Services

namespace ShaderPipeline.Studio

open Text Glsl Act

variable {W P V : Type}

/-- A stage has kept nothing but what its code comes to. -/
structure Settled (v : Services W P) (b : Answers) (k : Stage) (a : Shader W) : Prop where
  served : Served v a
  kept : a.handle ≠ 0 →
    compiled v b k a.code = .ok a.compiledText ∧ a.compiledText ≠ [] ∧ a.diagnostics = []
  bare : a.handle = 0 → a.compiledText = []
  passed : a.handle = 0 → a.verdict = some true →
    compiled v b k a.code = .ok [] ∧ a.diagnostics = []
  failed : a.handle = 0 → a.verdict = some false → compiled v b k a.code = .error a.diagnostics

def Built (v : Services W P) (b : Answers) (k : Stage) (r : Bool) (a : Shader W) : Prop :=
  match compiled v b k a.code with
  | .ok text => r = true ∧ a.compiledText = text ∧ a.diagnostics = []
  | .error ds => r = false ∧ a.compiledText = [] ∧ a.diagnostics = ds

section Stages

variable {Q : Type} {v : Services W P} {b : Answers} {k : Stage} {a a' : Shader W} {r : Bool}
variable {s : Studio W Q}

theorem Settled.of_bare (hs : Served v a) (hh : a.handle = 0) (ht : a.compiledText = [])
    (hv : a.verdict = none) : Settled v b k a := by
  refine ⟨hs, fun h => absurd hh h, fun _ => ht, fun _ h => ?_, fun _ h => ?_⟩
  · rw [hv] at h; cases h
  · rw [hv] at h; cases h

theorem Settled.built_of_kept (h : Settled v b k a) (hh : a.handle ≠ 0) :
    Built v b k a.diagnostics.isEmpty a := by
  obtain ⟨hc, _, hd⟩ := h.kept hh
  rw [Built]
  rw [hc, hd]
  exact ⟨rfl, rfl, rfl⟩

theorem Settled.built_of_verdict (h : Settled v b k a) (hh : a.handle = 0)
    (hv : a.verdict = some r) : Built v b k r a := by
  rw [Built]
  cases r with
  | true =>
      obtain ⟨hc, hd⟩ := h.passed hh hv
      rw [hc]
      exact ⟨rfl, h.bare hh, hd⟩
  | false =>
      rw [h.failed hh hv]
      exact ⟨rfl, h.bare hh, rfl⟩

theorem Attempt.code_eq (h : Attempt v b k a r a') : a'.code = a.code := by
  cases h with
  | blank => rfl
  | refused => rfl
  | @accepted text x hc ht hx =>
      obtain ⟨scanned, channel, he, _⟩ := withHandle_eq (k := k) x a
      rw [he]

theorem Attempt.settled (h : Attempt v b k a r a') (hs : Served v a) (hh : a.handle = 0)
    (ht : a.compiledText = []) (hd : a.diagnostics = []) :
    Settled v b k { a' with verdict := some r } ∧ Built v b k r { a' with verdict := some r } := by
  cases h with
  | blank hc =>
      have hset : Settled v b k { a with verdict := some true } := by
        refine ⟨⟨hs.compiler, hs.resolver, hs.settings, hs.unheard⟩, fun h => absurd hh h,
          fun _ => ht, fun _ _ => ⟨hc, hd⟩, fun _ h => ?_⟩
        cases h
      exact ⟨hset, hset.built_of_verdict hh rfl⟩
  | @refused ds hc =>
      have hset : Settled v b k
          { a with diagnostics := a.diagnostics ++ ds, verdict := some false } := by
        refine ⟨⟨hs.compiler, hs.resolver, hs.settings, hs.unheard⟩, fun h => absurd hh h,
          fun _ => ht, fun _ h => ?_, fun _ _ => ?_⟩
        · cases h
        · rw [hd]; exact hc
      exact ⟨hset, hset.built_of_verdict hh rfl⟩
  | @accepted text x hc ht hx =>
      obtain ⟨scanned, channel, he, hl⟩ := withHandle_eq (k := k) x a
      rw [he]
      have hset : Settled v b k { a with
          handle := x, scanned := scanned, channel := channel, compiledText := text,
          verdict := some true } := by
        refine ⟨⟨hs.compiler, hs.resolver, hs.settings, hl.trans hs.unheard⟩,
          fun _ => ⟨hc, ht, hd⟩, fun h => absurd h hx, fun h => absurd h hx, fun h => absurd h hx⟩
      refine ⟨hset, ?_⟩
      rw [Built]
      dsimp only
      rw [hc]
      exact ⟨rfl, rfl, hd⟩

variable [Records W] (call : Text → Change → Act (Studio W Q × W) Unit)

theorem compile_steady (hv : v.Steady b) (hs : Settled v b k (s.shaders.get k)) (w : W) :
    ∃ r t w', (compile call k).outcome (s, w) = (.ok r, (t, w')) ∧ Confined k s t ∧
      (t.shaders.get k).code = (s.shaders.get k).code ∧ Settled v b k (t.shaders.get k) ∧
      Built v b k r (t.shaders.get k) := by
  by_cases hh : (s.shaders.get k).handle = 0
  · cases hr : (s.shaders.get k).verdict with
    | some r =>
        exact ⟨r, s, w, outcome_compile_known call hh hr, Confined.refl s, rfl, hs,
          hs.built_of_verdict hh hr⟩
    | none =>
        let f : Shader W → Shader W := fun a => { a with diagnostics := [] }
        have hf := get_updateShader_self s k f
        have hserved : Served v ((s.updateShader k f).shaders.get k) := by
          rw [hf]
          exact ⟨hs.served.compiler, hs.served.resolver, hs.served.settings, hs.served.unheard⟩
        obtain ⟨r, t, w', ht, hc, ha⟩ := attemptCompile_steady call hv hserved w
        let g : Shader W → Shader W := fun a => { a with verdict := some r }
        rw [hf] at ha hserved
        obtain ⟨hset, hbuilt⟩ := ha.settled hserved hh (hs.bare hh) rfl
        refine ⟨r, t.updateShader k g, w', ?_, ?_, ?_, ?_, ?_⟩
        · rw [outcome_compile_unknown call hh hr, outcome_bind_ok _ ht]
          rfl
        · exact (Confined.updateShader s rfl).trans (hc.trans (Confined.updateShader t rfl))
        · rw [get_updateShader_self]; exact ha.code_eq
        · rw [get_updateShader_self]; exact hset
        · rw [get_updateShader_self]; exact hbuilt
  · exact ⟨_, s, w, outcome_compile_held call hh, Confined.refl s, rfl, hs, hs.built_of_kept hh⟩

end Stages

section Links

/-- The context gives each program together with what it was linked from. -/
def labelled (link : Context W P) : Context W (P × LinkArgs) :=
  fun args => (fun p => (p, args)) <$> link args

variable {Q : Type}

def codes (s : Studio W Q) (k : Stage) : Text := (s.shaders.get k).code

def texts (s : Studio W Q) (k : Stage) : Text := (s.shaders.get k).compiledText

def argsFor (guards texts : Stage → Text) (feedback : Text) : Option LinkArgs :=
  let others := (laterStages.map fun k => (k, texts k)).filter (·.2 != [])
  if !allBlank (guards .vertex) then some ⟨texts .vertex, others, none⟩
  else if !allBlank (guards .feedbackVertex) then
    some ⟨texts .feedbackVertex, others, some (outputNames feedback)⟩
  else none

theorem linkArgs?_eq (s : Studio W Q) :
    linkArgs? s = argsFor (codes s) (texts s) (codes s .feedbackVertex) := rfl

theorem argsFor_congr {g g' t t' : Stage → Text} {f f' : Text}
    (hg : ∀ k, allBlank (g k) = allBlank (g' k)) (ht : ∀ k, t k = t' k)
    (hf : allBlank (g .feedbackVertex) = false → f = f') : argsFor g t f = argsFor g' t' f' := by
  obtain rfl : t = t' := funext ht
  unfold argsFor
  rw [← hg, ← hg]
  split
  · rfl
  · split
    case isTrue h => rw [hf (by simpa using h)]
    case isFalse => rfl

/-- A studio that has kept nothing but what its codes come to: a program it has is the one it would
link from the texts it has compiled. -/
structure Steadied (v : Services W P) (b : Answers) (s : Studio W (P × LinkArgs)) : Prop where
  stages : ∀ k, Settled v b k (s.shaders.get k)
  context : s.context = v.context.map labelled
  program : ∀ p args, s.program = some (p, args) →
    argsFor (texts s) (texts s) (codes s .feedbackVertex) = some args ∧ b.refusal args = none ∧
      v.context.isSome

variable {v : Services W P} {b : Answers} {k : Stage} {s t : Studio W (P × LinkArgs)}

theorem Steadied.of_program (h : Steadied v b s) (hs : t.shaders = s.shaders)
    (hc : t.context = s.context) (hp : t.program = s.program ∨ t.program = none) :
    Steadied v b t := by
  refine ⟨fun k => hs ▸ h.stages k, hc.trans h.context, fun p args ht => ?_⟩
  rcases hp with hp | hn
  · unfold texts codes
    rw [hs]
    exact h.program p args (hp ▸ ht)
  · rw [hn] at ht
    cases ht

theorem Steadied.confined (h : Steadied v b s) (hc : Confined k s t)
    (hk : Settled v b k (t.shaders.get k))
    (hcode : (t.shaders.get k).handle ≠ 0 → (t.shaders.get k).code = (s.shaders.get k).code) :
    Steadied v b t := by
  refine ⟨fun j => ?_, hc.context.trans h.context, fun p args hp => ?_⟩
  · by_cases hj : j = k
    · exact hj ▸ hk
    · rw [hc.others j hj]; exact h.stages j
  · rcases hc.program with ⟨hps, hh⟩ | hn
    · have htext : ∀ j, texts s j = texts t j := by
        intro j
        by_cases hj : j = k
        · subst hj
          by_cases h0 : (t.shaders.get j).handle = 0
          · exact ((h.stages j).bare (hh ▸ h0)).trans (hk.bare h0).symm
          · have hs := ((h.stages j).kept (hh ▸ h0)).1
            have ht := (hk.kept h0).1
            rw [hcode h0, hs] at ht
            exact Except.ok.inj ht
        · exact congrArg Shader.compiledText (hc.others j hj).symm
      have hargs : argsFor (texts s) (texts s) (codes s .feedbackVertex) =
          argsFor (texts t) (texts t) (codes t .feedbackVertex) := by
        refine argsFor_congr (fun j => congrArg allBlank (htext j)) htext fun hf => ?_
        by_cases hj : Stage.feedbackVertex = k
        · subst hj
          refine (hcode fun h0 => ?_).symm
          have hbare : texts s .feedbackVertex = [] := (htext _).trans (hk.bare h0)
          rw [hbare] at hf
          cases hf
        · exact congrArg Shader.code (hc.others _ hj).symm
      rw [← hargs]
      exact h.program p args (hps ▸ hp)
    · rw [hn] at hp
      cases hp

end Links

section Requests

variable {v : Services W P} {b : Answers} {k : Stage} {s : Studio W (P × LinkArgs)}

theorem Settled.zeroed {a : Shader W} (h : Settled v b k a) :
    Settled v b k (withHandle k 0 (cleared a)) := by
  obtain ⟨scanned, channel, he, hl⟩ := withHandle_eq (k := k) 0 (cleared a)
  rw [he]
  exact .of_bare ⟨h.served.compiler, h.served.resolver, h.served.settings, hl.trans h.served.unheard⟩
    rfl rfl rfl

theorem Settled.reset {a : Shader W} (h : Settled v b k a) :
    Settled v b k { withHandle k 0 (cleared a) with diagnostics := [] } := by
  obtain ⟨scanned, channel, he, hl⟩ := withHandle_eq (k := k) 0 (cleared a)
  rw [he]
  exact .of_bare ⟨h.served.compiler, h.served.resolver, h.served.settings, hl.trans h.served.unheard⟩
    rfl rfl rfl

theorem Settled.setCode {a : Shader W} (h : Settled v b k a) (code : Text) :
    Settled v b k (posted k .code { withHandle k 0 (cleared { a with
      code := code, scanned := none, diagnostics := [] }) with verdict := none }) := by
  obtain ⟨scanned, channel, he, hl⟩ := withHandle_eq (k := k) 0
    (cleared { a with code := code, scanned := none, diagnostics := [] })
  rw [he]
  exact .of_bare ⟨h.served.compiler, h.served.resolver, h.served.settings, hl.trans h.served.unheard⟩
    rfl rfl rfl

variable (call : Text → Change → Act (Studio W (P × LinkArgs) × W) Unit)

theorem setHandle_zero_steadied (h : Steadied v b s) (k : Stage) (w : W) :
    ∃ t, (setHandle call k 0).outcome (s, w) = (.ok (), (t, w)) ∧ Steadied v b t := by
  obtain ⟨t, ht, hc, hg⟩ := setHandle_unheard call (h.stages k).served.unheard 0 w
  rw [if_pos rfl] at hg
  refine ⟨t, ht, h.confined hc ?_ fun h0 => absurd ?_ h0⟩
  · rw [hg]; exact (h.stages k).zeroed
  · rw [hg]; exact handle_withHandle 0 _

theorem reset_steadied (h : Steadied v b s) (k : Stage) (w : W) :
    ∃ t, (reset call k).outcome (s, w) = (.ok (), (t, w)) ∧ Steadied v b t := by
  obtain ⟨t, ht, hc, hg⟩ := reset_unheard call (h.stages k).served.unheard w
  refine ⟨t, ht, h.confined hc ?_ fun h0 => absurd ?_ h0⟩
  · rw [hg]; exact (h.stages k).reset
  · rw [hg]; exact handle_withHandle 0 _

theorem setCode_steadied (h : Steadied v b s) (k : Stage) (code : Text) (w : W) :
    ∃ t, (setCode call k code).outcome (s, w) = (.ok (), (t, w)) ∧ Steadied v b t ∧
      ∀ j, codes t j = if j = k then code else codes s j := by
  obtain ⟨t, ht, hc, hg⟩ := setCode_unheard call (h.stages k).served.unheard code w
  refine ⟨t, ht, ?_, fun j => ?_⟩
  · by_cases hx : code = (s.shaders.get k).code
    · rw [if_pos hx] at hg
      exact h.confined hc (hg ▸ h.stages k) fun _ => by rw [hg]
    · rw [if_neg hx] at hg
      refine h.confined hc ?_ fun h0 => absurd ?_ h0
      · rw [hg]; exact (h.stages k).setCode code
      · rw [hg]; exact handle_withHandle (k := k) 0 _
  · by_cases hj : j = k
    · rw [if_pos hj, hj, codes, hg]
      split
      case isTrue hx => exact hx.symm
      case isFalse hx =>
          obtain ⟨scanned, channel, he, _⟩ := withHandle_eq (k := k) 0 (cleared
            { s.shaders.get k with code := code, scanned := none, diagnostics := [] })
          rw [he]
          rfl
    · rw [if_neg hj]
      exact congrArg Shader.code (hc.others j hj)

theorem retireProgram_steadied (h : Steadied v b s) :
    Steadied v b { s with bin := s.bin.addProgram s.program, program := none } :=
  h.of_program rfl rfl (.inr rfl)

variable [Records W]

theorem compile_steadied (hv : v.Steady b) (h : Steadied v b s) (k : Stage) (w : W) :
    ∃ r t w', (compile call k).outcome (s, w) = (.ok r, (t, w')) ∧ Steadied v b t ∧
      codes t = codes s ∧ Built v b k r (t.shaders.get k) ∧
      (∀ j, j ≠ k → t.shaders.get j = s.shaders.get j) ∧
      t.linkDiagnostics = s.linkDiagnostics := by
  obtain ⟨r, t, w', ht, hc, hcode, hk, hb⟩ := compile_steady call hv (h.stages k) w
  refine ⟨r, t, w', ht, h.confined hc hk fun _ => hcode, funext fun j => ?_, hb, hc.others, hc.links⟩
  by_cases hj : j = k
  · rw [hj]; exact hcode
  · exact congrArg Shader.code (hc.others j hj)

theorem compiles_steadied (hv : v.Steady b) (h : Steadied v b s) (ks : List Stage) (w : W) :
    ∃ rs t w', (ks.mapM (compile call)).outcome (s, w) = (.ok rs, (t, w')) ∧ Steadied v b t ∧
      codes t = codes s ∧ t.linkDiagnostics = s.linkDiagnostics ∧
      rs = ks.map (fun k => (compiled v b k (codes s k)).isOk) ∧
      ∀ k, (k ∈ ks ∨ ∃ r, Built v b k r (s.shaders.get k)) → ∃ r, Built v b k r (t.shaders.get k) := by
  induction ks generalizing s w with
  | nil => exact ⟨[], s, w, rfl, h, rfl, rfl, rfl, fun k hk => hk.resolve_left (by simp)⟩
  | cons k ks ih =>
      obtain ⟨r, t, w', ht, hst, hcode, hb, hothers, hl⟩ := compile_steadied call hv h k w
      obtain ⟨rs, u, w'', hu, hsu, hcode', hl', hrs, hbs⟩ := ih hst w'
      have hr : r = (compiled v b k (codes s k)).isOk := by
        rw [← hcode]
        rw [Built] at hb
        rw [codes]
        split at hb
        case h_1 hc => rw [hc]; exact hb.1
        case h_2 hc => rw [hc]; exact hb.1
      refine ⟨r :: rs, u, w'', ?_, hsu, hcode'.trans hcode, hl'.trans hl, ?_, fun j hj => ?_⟩
      · rw [List.mapM_cons, outcome_bind_ok _ ht, outcome_bind_ok _ hu]
        rfl
      · rw [List.map_cons, hr, hrs, hcode]
      · apply hbs j
        by_cases hjk : j = k
        · exact .inr ⟨r, hjk ▸ hb⟩
        · rw [hothers j hjk]
          exact hj.imp_left fun hm => (List.mem_cons.mp hm).resolve_left hjk

end Requests

/-- What compiling and linking comes to: whether it passes, what is reported, and what was
linked. -/
structure Build where
  passed : Bool
  diagnostics : List Diagnostic
  linked : Option LinkArgs
  deriving DecidableEq, Repr

section Build

variable (v : Services W P) (b : Answers)

def complaints (codes : Stage → Text) (k : Stage) : List Diagnostic :=
  match compiled v b k (codes k) with
  | .ok _ => []
  | .error ds => ds

def outputs (codes : Stage → Text) (k : Stage) : Text := (compiled v b k (codes k)).toOption.getD []

def linkBuild (codes : Stage → Text) : Build :=
  match v.context, argsFor codes (outputs v b codes) (codes .feedbackVertex) with
  | some _, some args =>
    match b.refusal args with
    | none => ⟨true, [], some args⟩
    | some reason => ⟨false, diagnose none reason, none⟩
  | _, _ => ⟨true, [], none⟩

/-- The build of some codes, by nothing but the codes. -/
def cleanBuild (codes : Stage → Text) : Build :=
  let stages := Stage.all.flatMap (complaints v b codes)
  if Stage.all.all fun k => (compiled v b k (codes k)).isOk then
    let build := linkBuild v b codes
    { build with diagnostics := stages ++ build.diagnostics }
  else ⟨false, stages, none⟩

variable {v b} {k : Stage}

theorem Built.diagnostics_eq {s : Studio W (P × LinkArgs)} {r : Bool}
    (h : Built v b k r (s.shaders.get k)) :
    (s.shaders.get k).diagnostics = complaints v b (codes s) k := by
  rw [Built] at h
  unfold complaints codes
  split at h
  · exact h.2.2
  · exact h.2.2

theorem Built.texts_eq {s : Studio W (P × LinkArgs)} {r : Bool}
    (h : Built v b k r (s.shaders.get k)) : texts s k = outputs v b (codes s) k := by
  rw [Built] at h
  unfold outputs texts codes
  split at h
  case h_1 hc => rw [hc]; exact h.2.1
  case h_2 hc => rw [hc]; exact h.2.1

theorem allBlank_of_compiled {code text : Text} (h : compiled v b k code = .ok text) :
    allBlank text = allBlank code := by
  rw [compiled] at h
  split at h
  case isTrue hb =>
      cases h
      rw [hb]
      rfl
  case isFalse hb =>
      split at h
      · cases h
      · split at h
        · cases h
        · split at h
          case isTrue hs _ =>
              cases h
              simp only [Bool.not_eq_true] at hb hs
              rw [hb, hs]
          case isFalse => cases h

theorem allBlank_outputs {codes : Stage → Text} (h : (compiled v b k (codes k)).isOk = true) :
    allBlank (outputs v b codes k) = allBlank (codes k) := by
  rw [outputs]
  cases hc : compiled v b k (codes k) with
  | error ds => rw [hc] at h; cases h
  | ok text => exact allBlank_of_compiled hc

variable {s : Studio W (P × LinkArgs)}

theorem linkArgs?_of_built (hb : ∀ k, ∃ r, Built v b k r (s.shaders.get k)) :
    linkArgs? s = argsFor (codes s) (outputs v b (codes s)) (codes s .feedbackVertex) := by
  rw [linkArgs?_eq]
  exact argsFor_congr (fun _ => rfl) (fun k => (hb k).choose_spec.texts_eq) fun _ => rfl

theorem argsFor_texts (hb : ∀ k, ∃ r, Built v b k r (s.shaders.get k))
    (hok : ∀ k, (compiled v b k (codes s k)).isOk = true) :
    argsFor (texts s) (texts s) (codes s .feedbackVertex) = linkArgs? s := by
  rw [linkArgs?_eq]
  refine argsFor_congr (fun k => ?_) (fun _ => rfl) fun _ => rfl
  rw [(hb k).choose_spec.texts_eq, allBlank_outputs (hok k)]

variable [Records W] (call : Text → Change → Act (Studio W (P × LinkArgs) × W) Unit)

theorem linkWith_labelled (hv : v.Steady b) {link : Context W P} (hlink : v.context = some link)
    (args : LinkArgs) (s : Studio W (P × LinkArgs)) (w : W) :
    ∃ t w', (linkWith (labelled link) args).outcome (s, w) =
        (.ok (b.refusal args).isNone, (t, w')) ∧
      match b.refusal args with
      | none => ∃ p, t = { s with program := some (p, args) }
      | some reason => t = { s with linkDiagnostics := s.linkDiagnostics ++ diagnose none reason } := by
  have h := hv.link link hlink args w
  rw [linkWith]
  cases hr : b.refusal args with
  | none =>
      rw [hr] at h
      obtain ⟨p, hp⟩ := h
      have hl : (labelled link args).outcome w = (.ok (p, args), ((link args).outcome w).2) :=
        outcome_bind_ok _ (Prod.ext hp rfl)
      have ho : (outside (labelled link args)).outcome (s, w) =
          (.ok (p, args), (s, ((link args).outcome w).2)) := by rw [outcome_outside, hl]
      rw [outcome_attempt_bind _ ho]
      exact ⟨{ s with program := some (p, args) }, _, rfl, p, rfl⟩
  | some reason =>
      rw [hr] at h
      obtain ⟨kind, hkind, hraised⟩ := h
      have hl : (labelled link args).outcome w =
          (.error (.raised kind reason), ((link args).outcome w).2) :=
        outcome_bind_error _ (Prod.ext hraised rfl)
      have ho : (outside (labelled link args)).outcome (s, w) =
          (.error (.raised kind reason), (s, ((link args).outcome w).2)) := by
        rw [outcome_outside, hl]
      rw [outcome_attempt_bind _ ho]
      have hfamily : (Fault.raised kind reason).family = .link := hkind
      have hexplain := explainLink_readable (hv.refusal args reason hr) s ((link args).outcome w).2
      dsimp only
      rw [if_pos hfamily,
        outcome_bind_ok (a := explainLink (Fault.raised kind reason).message) _ hexplain]
      exact ⟨{ s with linkDiagnostics := s.linkDiagnostics ++ diagnose none reason }, _, rfl, rfl⟩

omit [Records W] in
theorem diagnostics_of_built (hb : ∀ k, ∃ r, Built v b k r (s.shaders.get k)) :
    s.diagnostics = Stage.all.flatMap (complaints v b (codes s)) ++ s.linkDiagnostics :=
  congrArg (· ++ s.linkDiagnostics)
    (List.flatMap_congr fun k _ => (hb k).choose_spec.diagnostics_eq)

theorem link_steadied (hv : v.Steady b) (h : Steadied v b s)
    (hb : ∀ k, ∃ r, Built v b k r (s.shaders.get k))
    (hok : ∀ k, (compiled v b k (codes s k)).isOk = true) (w : W) :
    ∃ t w', (match s.program, s.context, linkArgs? s with
        | none, some link, some args => (linkWith link args).outcome (s, w)
        | _, _, _ => (.ok true, (s, w))) = (.ok (linkBuild v b (codes s)).passed, (t, w')) ∧
      Steadied v b t ∧ t.shaders = s.shaders ∧
      t.linkDiagnostics = s.linkDiagnostics ++ (linkBuild v b (codes s)).diagnostics ∧
      ((linkBuild v b (codes s)).passed = true →
        t.program.map (·.2) = (linkBuild v b (codes s)).linked) := by
  have htexts := argsFor_texts hb hok
  have hargs := linkArgs?_of_built hb
  rw [linkBuild]
  rw [← hargs]
  cases hp : s.program with
  | some q =>
      obtain ⟨p, args⟩ := q
      obtain ⟨ha, hr, hc⟩ := h.program p args hp
      obtain ⟨link, hlink⟩ := Option.isSome_iff_exists.mp hc
      rw [← htexts, ha, hlink]
      dsimp only
      rw [hr]
      exact ⟨s, w, rfl, h, rfl, (List.append_nil _).symm, fun _ => by rw [hp]; rfl⟩
  | none =>
      have hkept : ∃ t w', (Except.ok (α := Bool) (ε := Fault) true, (s, w)) = (.ok true, (t, w')) ∧
          Steadied v b t ∧ t.shaders = s.shaders ∧ t.linkDiagnostics = s.linkDiagnostics ++ [] ∧
          (true = true → t.program.map (·.2) = none) :=
        ⟨s, w, rfl, h, rfl, (List.append_nil _).symm, fun _ => by rw [hp]; rfl⟩
      have hcontext := h.context
      cases hc : v.context with
      | none =>
          rw [hc] at hcontext
          rw [hcontext]
          exact hkept
      | some link =>
          rw [hc] at hcontext
          rw [hcontext]
          cases ha : linkArgs? s with
          | none => exact hkept
          | some args =>
              obtain ⟨t, w', ht, hcase⟩ := linkWith_labelled hv hc args s w
              dsimp only [Option.map_some]
              cases hr : b.refusal args with
              | none =>
                  rw [hr] at ht hcase
                  obtain ⟨p, rfl⟩ := hcase
                  refine ⟨_, w', ht, ?_, rfl, (List.append_nil _).symm, fun _ => rfl⟩
                  refine ⟨h.stages, h.context, fun q args' hq => ?_⟩
                  cases hq
                  exact ⟨htexts.trans ha, hr, Option.isSome_iff_exists.mpr ⟨link, hc⟩⟩
              | some reason =>
                  rw [hr] at ht hcase
                  subst hcase
                  exact ⟨_, w', ht, h.of_program rfl rfl (.inl rfl), rfl, rfl, fun h => nomatch h⟩

theorem compileProgram_outcome {s t : Studio W (P × LinkArgs)} {rs : List Bool} {w w' : W}
    (ht : (Stage.all.mapM (compile call)).outcome ({ s with linkDiagnostics := [] }, w) =
      (.ok rs, (t, w'))) :
    (compileProgram call).outcome (s, w) =
      if rs.all id then
        match t.program, t.context, linkArgs? t with
        | none, some link, some args => (linkWith link args).outcome (t, w')
        | _, _, _ => (.ok true, (t, w'))
      else (.ok false, (t, w')) := by
  rw [compileProgram]
  rw [outcome_bind_ok (s := (s, w)) (t := ({ s with linkDiagnostics := [] }, w)) _ rfl,
    outcome_bind_ok _ ht, outcome_ite]
  split
  · rw [outcome_bind_ok _ (outcome_own (t, w'))]
    dsimp only
    cases t.program <;> cases t.context <;> cases linkArgs? t <;> rfl
  · rfl

theorem compileProgram_steadied (hv : v.Steady b) (h : Steadied v b s) (w : W) :
    ∃ t w', (compileProgram call).outcome (s, w) =
        (.ok (cleanBuild v b (codes s)).passed, (t, w')) ∧
      Steadied v b t ∧ codes t = codes s ∧
      t.diagnostics = (cleanBuild v b (codes s)).diagnostics ∧
      ((cleanBuild v b (codes s)).passed = true →
        t.program.map (·.2) = (cleanBuild v b (codes s)).linked) := by
  have hs : Steadied v b { s with linkDiagnostics := [] } := h.of_program rfl rfl (.inl rfl)
  obtain ⟨rs, t, w', ht, hst, hcode, hl, hrs, hbs⟩ := compiles_steadied call hv hs Stage.all w
  have hb : ∀ k, ∃ r, Built v b k r (t.shaders.get k) := fun k => hbs k (.inl (Stage.mem_all k))
  have hcodes : codes t = codes s := hcode
  have hdiag := diagnostics_of_built hb
  rw [hcodes, hl, List.append_nil] at hdiag
  have hall : rs.all id = Stage.all.all fun k => (compiled v b k (codes s k)).isOk := by
    rw [hrs, List.all_map]
    rfl
  rw [compileProgram_outcome call ht, hall]
  rw [cleanBuild]
  by_cases hok : (Stage.all.all fun k => (compiled v b k (codes s k)).isOk) = true
  · have hok' : ∀ k, (compiled v b k (codes t k)).isOk = true := fun k =>
      hcodes ▸ List.all_eq_true.mp hok k (Stage.mem_all k)
    obtain ⟨u, w'', hu, hsu, hshaders, hlinks, hprogram⟩ := link_steadied hv hst hb hok' w'
    rw [if_pos hok, if_pos hok]
    rw [hcodes] at hu hlinks hprogram
    refine ⟨u, w'', hu, hsu, ?_, ?_, hprogram⟩
    · unfold codes at hcodes ⊢
      rw [hshaders, hcodes]
    · have hu : u.diagnostics =
          Stage.all.flatMap (fun k => (t.shaders.get k).diagnostics) ++ u.linkDiagnostics := by
        rw [diagnostics]
        rw [hshaders]
      rw [hu, hlinks, hl, List.nil_append, ← hcodes]
      exact congrArg (· ++ _) (List.flatMap_congr fun k _ => (hb k).choose_spec.diagnostics_eq)
  · rw [if_neg hok, if_neg hok]
    exact ⟨t, w', rfl, hst, hcodes, hdiag, fun h => nomatch h⟩

end Build

def Request.Edits : Request W P V → Prop
  | .setCode _ _ => True
  | .setHandle _ handle => handle = 0
  | .compile _ => True
  | .reset _ => True
  | .compileProgram => True
  | .release => True
  | .drain _ => True
  | _ => False

section Histories

variable [Records W] {v : Services W P} {b : Answers}

omit [Records W] in
theorem opened_steadied (v : Services W P) (b : Answers) : Steadied v b
    (opened (some v.compiler) v.resolver v.settings (v.context.map labelled)) := by
  refine ⟨fun k => ?_, rfl, fun p args hp => nomatch hp⟩
  rw [get_opened]
  exact .of_bare ⟨rfl, rfl, rfl, rfl⟩ rfl rfl rfl

theorem respond_steadied (hv : v.Steady b) (device : Device W (P × LinkArgs) V)
    (call : Text → Change → Act (Studio W (P × LinkArgs) × W) Unit)
    {r : Request W (P × LinkArgs) V} (hr : r.Edits) :
    Keeps (fun s => Steadied v b s.1) (respond device call r) := by
  rintro ⟨s, w⟩ h
  cases r with
  | setCode k code =>
      obtain ⟨t, ht, hst, _⟩ := setCode_steadied call h k code w
      change Steadied v b ((setCode call k code).outcome (s, w)).2.1
      rw [ht]; exact hst
  | setHandle k x =>
      cases hr
      obtain ⟨t, ht, hst⟩ := setHandle_zero_steadied call h k w
      change Steadied v b ((setHandle call k 0).outcome (s, w)).2.1
      rw [ht]; exact hst
  | compile k =>
      obtain ⟨r, t, w', ht, hst, _⟩ := compile_steadied call hv h k w
      change Steadied v b ((compile call k).outcome (s, w)).2.1
      rw [ht]; exact hst
  | reset k =>
      obtain ⟨t, ht, hst⟩ := reset_steadied call h k w
      change Steadied v b ((reset call k).outcome (s, w)).2.1
      rw [ht]; exact hst
  | compileProgram =>
      obtain ⟨t, w', ht, hst, _⟩ := compileProgram_steadied call hv h w
      change Steadied v b ((compileProgram call).outcome (s, w)).2.1
      rw [ht]; exact hst
  | release =>
      refine Keeps.bind (I := fun s => Steadied v b s.1) (.forM fun k _ => ?_) (fun _ => ?_) (s, w) h
      · rintro ⟨s, w⟩ h
        obtain ⟨t, ht, hst⟩ := reset_steadied call h k w
        rw [ht]; exact hst
      · exact fun s h => retireProgram_steadied h
  | drain delete => exact h.of_program rfl rfl (.inl rfl)
  | look | interface | toLegacy | poll | subscribe | unsubscribe | setCompiler | setResolver
  | setSettings | setContext | toLegacyPair | mergedInterface | setUniform => exact hr.elim

theorem perform_steadied (hv : v.Steady b) (device : Device W (P × LinkArgs) V)
    (listener : Listener W (P × LinkArgs) V) (depth : Nat)
    {r : Request W (P × LinkArgs) V} (hr : r.Edits) :
    Keeps (fun s => Steadied v b s.1) (perform device listener depth r) := by
  obtain ⟨call, he⟩ := perform_eq_respond device listener depth
  rw [he]
  exact respond_steadied hv device call hr

theorem performAll_steadied (hv : v.Steady b) (device : Device W (P × LinkArgs) V)
    (listener : Listener W (P × LinkArgs) V) (depth : Nat)
    {rs : List (Request W (P × LinkArgs) V)} (hrs : ∀ r ∈ rs, r.Edits)
    {s : Studio W (P × LinkArgs) × W} (h : Steadied v b s.1) :
    Steadied v b (performAll device listener depth rs s).1 := by
  induction rs generalizing s with
  | nil => exact h
  | cons r rs ih =>
      refine ih (fun q hq => hrs q (List.mem_cons_of_mem r hq)) ?_
      exact perform_steadied hv device listener depth (hrs r (by simp)) s h

theorem perform_setCode_codes (device : Device W (P × LinkArgs) V)
    (listener : Listener W (P × LinkArgs) V) (depth : Nat) {s : Studio W (P × LinkArgs) × W}
    (h : Steadied v b s.1) (k : Stage) (code : Text) :
    Steadied v b ((perform device listener depth (.setCode k code)).outcome s).2.1 ∧
      ∀ j, codes ((perform device listener depth (.setCode k code)).outcome s).2.1 j =
        if j = k then code else codes s.1 j := by
  obtain ⟨call, he⟩ := perform_eq_respond device listener depth
  obtain ⟨t, ht, hst, hcodes⟩ := setCode_steadied call h k code s.2
  have hset : (respond device call (.setCode k code)).outcome s = (.ok (), (t, s.2)) := ht
  rw [he, hset]
  exact ⟨hst, hcodes⟩

def writes (codes : Stage → Text) (ks : List Stage) : List (Request W P V) :=
  ks.map fun k => .setCode k (codes k)

theorem codes_performAll_writes (device : Device W (P × LinkArgs) V)
    (listener : Listener W (P × LinkArgs) V) (depth : Nat) (c : Stage → Text) (ks : List Stage)
    {s : Studio W (P × LinkArgs) × W} (h : Steadied v b s.1) (k : Stage) :
    codes (performAll device listener depth (writes c ks) s).1 k =
      if k ∈ ks then c k else codes s.1 k := by
  induction ks generalizing s with
  | nil => rfl
  | cons j ks ih =>
      obtain ⟨hst, hcodes⟩ := perform_setCode_codes device listener depth h j (c j)
      have hrec := ih hst
      rw [hcodes k] at hrec
      apply hrec.trans
      by_cases hk : k ∈ ks
      · rw [if_pos hk, if_pos (List.mem_cons_of_mem j hk)]
      · by_cases hj : k = j
        · rw [if_neg hk, if_pos hj, if_pos (List.mem_cons.mpr (.inl hj)), hj]
        · rw [if_neg hk, if_neg hj, if_neg (by simp [hk, hj])]

theorem perform_compileProgram (hv : v.Steady b) (device : Device W (P × LinkArgs) V)
    (listener : Listener W (P × LinkArgs) V) (depth : Nat) {s : Studio W (P × LinkArgs) × W}
    (h : Steadied v b s.1) :
    ∃ t, (perform device listener depth .compileProgram).outcome s =
        (.ok (cleanBuild v b (codes s.1)).passed, t) ∧
      t.1.diagnostics = (cleanBuild v b (codes s.1)).diagnostics ∧
      ((cleanBuild v b (codes s.1)).passed = true →
        t.1.program.map (·.2) = (cleanBuild v b (codes s.1)).linked) := by
  obtain ⟨call, he⟩ := perform_eq_respond device listener depth
  obtain ⟨t, w', ht, _, _, hd, hp⟩ := compileProgram_steadied call hv h s.2
  rw [he]
  exact ⟨(t, w'), ht, hd, hp⟩

/-- After any edits, building gives the verdict, the diagnostics and the linked texts that a new
studio gives for the same codes. -/
theorem rebuild_eq_clean (hv : v.Steady b) (device : Device W (P × LinkArgs) V)
    (listener : Listener W (P × LinkArgs) V) (depth : Nat)
    {rs : List (Request W (P × LinkArgs) V)} (hrs : ∀ r ∈ rs, r.Edits) (w w' : W) :
    let new := opened (some v.compiler) v.resolver v.settings (v.context.map labelled)
    let edited := performAll device listener depth rs (new, w)
    let clean := performAll device listener depth (writes (codes edited.1) Stage.all) (new, w')
    ∃ passed t t',
      (perform device listener depth .compileProgram).outcome edited = (.ok passed, t) ∧
      (perform device listener depth .compileProgram).outcome clean = (.ok passed, t') ∧
      t.1.diagnostics = t'.1.diagnostics ∧
      (passed = true → t.1.program.map (·.2) = t'.1.program.map (·.2)) := by
  intro new edited clean
  have hedited : Steadied v b edited.1 :=
    performAll_steadied hv device listener depth hrs (opened_steadied v b)
  have hclean : Steadied v b clean.1 := by
    refine performAll_steadied hv device listener depth (fun r hr => ?_) (opened_steadied v b)
    obtain ⟨k, _, rfl⟩ := List.mem_map.mp hr
    exact trivial
  have hcodes : codes clean.1 = codes edited.1 := by
    funext k
    have hk := codes_performAll_writes device listener depth (codes edited.1) Stage.all
      (s := (new, w')) (opened_steadied v b) k
    rwa [if_pos (Stage.mem_all k)] at hk
  obtain ⟨t, ht, hd, hp⟩ := perform_compileProgram hv device listener depth hedited
  obtain ⟨t', ht', hd', hp'⟩ := perform_compileProgram hv device listener depth hclean
  rw [hcodes] at ht' hd' hp'
  exact ⟨_, t, t', ht, ht', hd.trans hd'.symm, fun h => (hp h).trans (hp' h).symm⟩

end Histories

namespace Bench

def services : Services Bench Nat where
  compiler := compiler ['x']
  resolver := some fun text => pure ('r' :: text)
  settings := {}
  context := some context

def answers : Answers where
  verdict _ text := !contains ['x'] text
  log _ _ := "0(1) : error".toList
  expansion text := .ok ('r' :: text)
  refusal _ := none

theorem services_steady : services.Steady answers where
  compile _ _ w := ⟨w.handles + 1, _, _, _, _, by omega, rfl, rfl, rfl, rfl⟩
  delete _ w := ⟨w, rfl⟩
  expand e he source w := by
    cases he
    rfl
  link c hc args w := by
    cases hc
    exact ⟨_, rfl⟩
  log _ _ := show Readable "0(1) : error".toList from .of_length (by decide)
  expansion _ _ h := nomatch h
  refusal _ _ h := nomatch h

def edits : List (Request Bench (Nat × LinkArgs) Unit) :=
  [.setCode .vertex ['v'], .compileProgram, .setCode .vertex ['x'], .compileProgram,
    .setCode .fragment ['f'], .compile .fragment, .drain fun _ => pure (), .setCode .vertex ['w']]

theorem rebuild_edits :
    let new := opened (some (compiler ['x'])) services.resolver {} (some (labelled context))
    let edited := performAll device Listener.idle 1 edits (new, {})
    let clean := performAll device Listener.idle 1
      (writes (codes edited.1) Stage.all) (new, {})
    ∃ passed t t',
      (perform device Listener.idle 1 .compileProgram).outcome edited
        = (.ok passed, t) ∧
      (perform device Listener.idle 1 .compileProgram).outcome clean
        = (.ok passed, t') ∧
      t.1.diagnostics = t'.1.diagnostics ∧
      (passed = true → t.1.program.map (·.2) = t'.1.program.map (·.2)) := by
  refine rebuild_eq_clean services_steady device Listener.idle 1 (fun r hr => ?_) {} {}
  simp only [edits, List.mem_cons, List.not_mem_nil, or_false] at hr
  rcases hr with rfl | rfl | rfl | rfl | rfl | rfl | rfl | rfl
  all_goals exact trivial

end Bench

end ShaderPipeline.Studio
