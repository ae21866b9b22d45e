import ShaderPipeline.Proofs.Diagnostic
import ShaderPipeline.Proofs.Studio.Quiet
import ShaderPipeline.Proofs.Text.Pieces

namespace ShaderPipeline.Studio

open Text Glsl Act

structure Services (W P : Type) where
  compiler : Compiler W
  resolver : Option (Resolver W)
  settings : Settings
  context : Option (Context W P)

/-- Answers that depend on the question only; a refusal gives its reason. -/
structure Answers where
  verdict : (token : Nat) → Text → Bool
  log : (token : Nat) → Text → Text
  expansion : Text → Except Fault Text
  refusal : LinkArgs → Option Text

variable {W P : Type}

/-- The services give these answers in every world, and nothing they say holds a number too long
to be read. -/
structure Services.Steady (v : Services W P) (b : Answers) : Prop where
  compile : ∀ token source w, ∃ x w₁ w₂ w₃ w₄, x ≠ 0 ∧
    (v.compiler.create token).outcome w = (.ok x, w₁) ∧
    (v.compiler.setSource x source).outcome w₁ = (.ok (), w₂) ∧
    (v.compiler.compile x).outcome w₂ = (.ok (b.verdict token source), w₃) ∧
    (v.compiler.infoLog x).outcome w₃ = (.ok (b.log token source), w₄)
  delete : ∀ x w, ∃ w', (v.compiler.delete x).outcome w = (.ok (), w')
  expand : ∀ e, v.resolver = some e → ∀ source w, ((e source).outcome w).1 = b.expansion source
  link : ∀ c, v.context = some c → ∀ args w, match b.refusal args with
    | none => ∃ p, ((c args).outcome w).1 = .ok p
    | some reason => ∃ kind : FaultKind, kind.family = .link ∧
        ((c args).outcome w).1 = .error (.raised kind reason)
  log : ∀ token source, Readable (b.log token source)
  expansion : ∀ source fault, b.expansion source = .error fault →
    fault.family = .expansion ∧ Readable fault.explanation
  refusal : ∀ args reason, b.refusal args = some reason → Readable reason

def diagnose (stage : Option Stage) (log : Text) : List Diagnostic :=
  ((lines log).filter (!allBlank ·)).filterMap fun line => (Diagnostic.ofLine line stage).toOption

section Answers

variable (v : Services W P) (b : Answers)

def expandedText (code : Text) : Except Fault Text :=
  if contains v.settings.macroDirective code then
    match v.resolver with
    | none => .error .noResolver
    | some _ => b.expansion code
  else .ok code

/-- What compiling a code comes to: the text that is compiled, which is empty for a stage without
code, or diagnostics. -/
def compiled (k : Stage) (code : Text) : Except (List Diagnostic) Text :=
  if allBlank code then .ok []
  else match expandedText v b code with
    | .error fault => .error (diagnose (some k) fault.explanation)
    | .ok source =>
      if allBlank source then
        .error (diagnose (some k) "Macro expansion produced no source".toList)
      else if b.verdict k.token source then .ok source
      else .error (diagnose (some k) (b.log k.token source))

theorem compiled_eq_ok_nil {k : Stage} {code : Text} :
    compiled v b k code = .ok [] ↔ allBlank code = true := by
  rw [compiled]
  constructor
  · intro h
    split at h
    case isTrue hb => exact hb
    case isFalse hb =>
        split at h
        · cases h
        · split at h
          · cases h
          · split at h
            case isTrue hs _ =>
                cases h
                exact absurd rfl hs
            · cases h
  · intro h
    rw [if_pos h]

end Answers

section Explain

theorem exists_ofLine {line : Text} (h : Readable line) (stage : Option Stage) :
    ∃ d, Diagnostic.ofLine line stage = .ok d := by
  obtain ⟨n, hn⟩ := lineNumber_ok (h.of_infix (prefix_trimEnd line).isInfix)
  refine ⟨⟨trimEnd line, stage, n⟩, ?_⟩
  change (lineNumber (trimEnd line) >>= fun n => .ok _) = _
  rw [hn]
  rfl

def explaining (stage : Option Stage) (add : Diagnostic → Studio W P → Studio W P)
    (ls : List Text) : Act (Studio W P × W) Unit :=
  ls.forM fun line => do
    if !allBlank line then
      let d ← Act.ofExcept (Diagnostic.ofLine line stage)
      change (add d)

def readLines (stage : Option Stage) : List Text → Except Fault Unit × List Diagnostic
  | [] => (.ok (), [])
  | line :: ls =>
    if allBlank line then readLines stage ls
    else match Diagnostic.ofLine line stage with
      | .ok d => ((readLines stage ls).1, d :: (readLines stage ls).2)
      | .error fault => (.error fault, [])

theorem outcome_explaining (stage : Option Stage) (add : Diagnostic → Studio W P → Studio W P)
    (ls : List Text) (s : Studio W P) (w : W) : (explaining stage add ls).outcome (s, w) =
      ((readLines stage ls).1, ((readLines stage ls).2.foldl (fun s d => add d s) s, w)) := by
  induction ls generalizing s with
  | nil => rfl
  | cons line ls ih =>
      have hcons : explaining stage add (line :: ls) =
          (if !allBlank line then
              Act.ofExcept (Diagnostic.ofLine line stage) >>= fun d => change (add d)
            else pure ()) >>= fun _ => explaining stage add ls := rfl
      rw [hcons, readLines]
      by_cases hb : allBlank line = true
      · rw [if_neg (by simp [hb]), if_pos hb]
        exact ih s
      · rw [if_pos (by simp [hb]), if_neg hb]
        cases Diagnostic.ofLine line stage with
        | ok d => exact ih (add d s)
        | error fault => rfl

theorem readLines_readable {stage : Option Stage} {ls : List Text}
    (h : ∀ line ∈ ls, Readable line) : readLines stage ls =
      (.ok (), (ls.filter (!allBlank ·)).filterMap fun line =>
        (Diagnostic.ofLine line stage).toOption) := by
  induction ls with
  | nil => rfl
  | cons line ls ih =>
      have ih' := ih fun l hl => h l (List.mem_cons_of_mem line hl)
      rw [readLines]
      by_cases hb : allBlank line = true
      · rw [if_pos hb, List.filter_cons_of_neg (by simp [hb])]
        exact ih'
      · obtain ⟨d, hd⟩ := exists_ofLine (h line (by simp)) stage
        have hd' := congrArg Except.toOption hd
        rw [if_neg hb, List.filter_cons_of_pos (by simp [hb]),
          List.filterMap_cons_some (f := fun line => (Diagnostic.ofLine line stage).toOption) hd',
          hd, ih']

theorem readLines_ne_nil {stage : Option Stage} {ls : List Text}
    (h : (readLines stage ls).1 = .ok ()) (hl : ∃ line ∈ ls, allBlank line = false) :
    (readLines stage ls).2 ≠ [] := by
  induction ls with
  | nil =>
      obtain ⟨line, hm, _⟩ := hl
      cases hm
  | cons line ls ih =>
      rw [readLines] at h ⊢
      by_cases hb : allBlank line = true
      · rw [if_pos hb] at h ⊢
        obtain ⟨l, hm, hn⟩ := hl
        refine ih h ⟨l, (List.mem_cons.mp hm).resolve_left ?_, hn⟩
        rintro rfl
        rw [hb] at hn
        cases hn
      · rw [if_neg hb] at h ⊢
        cases ho : Diagnostic.ofLine line stage with
        | ok d => exact List.cons_ne_nil d _
        | error fault =>
            rw [ho] at h
            cases h

theorem readable_lines {log : Text} (h : Readable log) : ∀ line ∈ lines log, Readable line :=
  fun _ hl => h.of_infix (infix_of_mem_pieces hl)

theorem foldl_updateShader {k : Stage} (ds : List Diagnostic) (s : Studio W P) :
    ds.foldl (fun s d => updateShader k (fun a => { a with diagnostics := a.diagnostics ++ [d] }) s) s
      = s.updateShader k fun a => { a with diagnostics := a.diagnostics ++ ds } := by
  induction ds generalizing s with
  | nil => cases k <;> simp [updateShader, PerStage.update]
  | cons d ds ih =>
      rw [List.foldl_cons, ih]
      cases k <;> simp [updateShader, PerStage.update]

def noted (ds : List Diagnostic) (a : Shader W) : Shader W :=
  { a with diagnostics := a.diagnostics ++ ds }

theorem outcome_explain (k : Stage) (log : Text) (s : Studio W P) (w : W) :
    (explain k log).outcome (s, w) = ((readLines (some k) (lines log)).1,
      (s.updateShader k (noted (readLines (some k) (lines log)).2), w)) := by
  have hnoted := foldl_updateShader (k := k) (readLines (some k) (lines log)).2 s
  change _ = (_, (s.updateShader k fun a => { a with diagnostics := a.diagnostics ++ _ }, w))
  rw [← hnoted]
  exact outcome_explaining (some k) (fun d => updateShader k fun a =>
    { a with diagnostics := a.diagnostics ++ [d] }) (lines log) s w

theorem explain_readable {k : Stage} {log : Text} (h : Readable log) (s : Studio W P) (w : W) :
    (explain k log).outcome (s, w) = (.ok (), (s.updateShader k fun a =>
      { a with diagnostics := a.diagnostics ++ diagnose (some k) log }, w)) := by
  rw [outcome_explain, readLines_readable (readable_lines h)]
  rfl

theorem foldl_links (ds : List Diagnostic) (s : Studio W P) :
    ds.foldl (fun s d => { s with linkDiagnostics := s.linkDiagnostics ++ [d] }) s
      = { s with linkDiagnostics := s.linkDiagnostics ++ ds } := by
  induction ds generalizing s with
  | nil => simp
  | cons d ds ih => rw [List.foldl_cons, ih]; simp

theorem outcome_explainLink (log : Text) (s : Studio W P) (w : W) :
    (explainLink log).outcome (s, w) = ((readLines none (lines log)).1, ({ s with
      linkDiagnostics := s.linkDiagnostics ++ (readLines none (lines log)).2 }, w)) := by
  rw [← foldl_links]
  exact outcome_explaining none (fun d s => { s with linkDiagnostics := s.linkDiagnostics ++ [d] })
    (lines log) s w

theorem explainLink_readable {log : Text} (h : Readable log) (s : Studio W P) (w : W) :
    (explainLink log).outcome (s, w) = (.ok (), ({ s with
      linkDiagnostics := s.linkDiagnostics ++ diagnose none log }, w)) := by
  rw [outcome_explainLink, readLines_readable (readable_lines h)]
  rfl

end Explain

section Outcomes

variable {Q : Type} {v : Services W P} {b : Answers} {k : Stage} {s : Studio W Q}

structure Served (v : Services W P) (a : Shader W) : Prop where
  compiler : a.compiler = some v.compiler
  resolver : a.resolver = v.resolver
  settings : a.settings = v.settings
  unheard : a.channel.listeners = []

/-- What trying to compile a stage makes of it. -/
inductive Attempt (v : Services W P) (b : Answers) (k : Stage) (a : Shader W) :
    Bool → Shader W → Prop
  | blank (h : compiled v b k a.code = .ok []) : Attempt v b k a true a
  | accepted {text : Text} {x : Int} (h : compiled v b k a.code = .ok text) (ht : text ≠ [])
      (hx : x ≠ 0) : Attempt v b k a true { withHandle k x a with compiledText := text }
  | refused {ds : List Diagnostic} (h : compiled v b k a.code = .error ds) :
      Attempt v b k a false { a with diagnostics := a.diagnostics ++ ds }

theorem expandMacros_steady (h : v.Steady b) (hs : Served v (s.shaders.get k)) (source : Text)
    (w : W) : ∃ w', (expandMacros k source).outcome (s, w) = (expandedText v b source, (s, w')) := by
  change ∃ w', (if contains (s.shaders.get k).settings.macroDirective source then
    match (s.shaders.get k).resolver with
    | none => throw .noResolver
    | some expand => outside (expand source)
    else pure source : Act (Studio W Q × W) Text).outcome (s, w) = _
  rw [hs.settings, hs.resolver, outcome_ite]
  rw [expandedText]
  split
  · cases hr : v.resolver with
    | none => exact ⟨w, rfl⟩
    | some e => exact ⟨_, Prod.ext (h.expand e hr source w) rfl⟩
  · exact ⟨w, rfl⟩

theorem submit_accepted {c : Compiler W} {x : Int} {source : Text} {w w₁ w₂ : W}
    (h₁ : (c.setSource x source).outcome w = (.ok (), w₁))
    (h₂ : (c.compile x).outcome w₁ = (.ok true, w₂)) :
    (submit c k x source).outcome (s, w) = (.ok true, (s, w₂)) := by
  have hset : (outside (c.setSource x source)).outcome (s, w) = (.ok (), (s, w₁)) := by
    rw [outcome_outside, h₁]
  have hcompile : (outside (c.compile x)).outcome (s, w₁) = (.ok true, (s, w₂)) := by
    rw [outcome_outside, h₂]
  rw [submit]
  rw [outcome_bind_ok _ hset, outcome_bind_ok _ hcompile]
  rfl

theorem submit_refused {c : Compiler W} {x : Int} {source log : Text} {w w₁ w₂ w₃ : W}
    (h₁ : (c.setSource x source).outcome w = (.ok (), w₁))
    (h₂ : (c.compile x).outcome w₁ = (.ok false, w₂))
    (h₃ : (c.infoLog x).outcome w₂ = (.ok log, w₃)) (hl : Readable log) :
    (submit c k x source).outcome (s, w) = (.ok false, (s.updateShader k fun a =>
      { a with diagnostics := a.diagnostics ++ diagnose (some k) log }, w₃)) := by
  have hset : (outside (c.setSource x source)).outcome (s, w) = (.ok (), (s, w₁)) := by
    rw [outcome_outside, h₁]
  have hcompile : (outside (c.compile x)).outcome (s, w₁) = (.ok false, (s, w₂)) := by
    rw [outcome_outside, h₂]
  have hlog : (outside (c.infoLog x)).outcome (s, w₂) = (.ok log, (s, w₃)) := by
    rw [outcome_outside, h₃]
  rw [submit]
  rw [outcome_bind_ok _ hset, outcome_bind_ok _ hcompile]
  extract_lets rest
  rw [if_pos (by decide), outcome_bind_ok _ hlog, outcome_bind_ok _ (explain_readable hl s w₃)]
  rfl

theorem outcome_attempt_bind {σ α β : Type} {a : Act σ α} {s t : σ} {r : Except Fault α}
    (f : Except Fault α → Act σ β) (h : a.outcome s = (r, t)) :
    (a.attempt >>= f).outcome s = (f r).outcome t := by
  apply outcome_bind_ok f
  rw [outcome_attempt, h]

theorem outcome_onFault_ok {σ α : Type} {a : Act σ α} {s t : σ} {x : α} (cleanUp : Act σ Unit)
    (h : a.outcome s = (.ok x, t)) : (a.onFault cleanUp).outcome s = (.ok x, t) := by
  unfold onFault Act.handling
  dsimp only
  rw [h]

theorem outcome_onFault_error {σ α : Type} {a : Act σ α} {s t : σ} {fault : Fault}
    (cleanUp : Act σ Unit) (h : a.outcome s = (.error fault, t)) :
    (a.onFault cleanUp).outcome s =
      ((cleanUp.outcome t).1 >>= fun _ => .error fault, (cleanUp.outcome t).2) := by
  unfold onFault Act.handling
  dsimp only
  rw [h]
  dsimp only
  rw [outcome_bind]
  cases cleanUp.outcome t with
  | mk r u => cases r <;> rfl

variable [Records W] (call : Text → Change → Act (Studio W Q × W) Unit)

theorem compileWith_accepted (h : v.Steady b) (hu : Unheard k s) {source : Text}
    (hv : b.verdict k.token source = true) (w : W) : ∃ x t w', x ≠ 0 ∧
      (compileWith call v.compiler k source).outcome (s, w) = (.ok true, (t, w')) ∧
      Confined k s t ∧
      t.shaders.get k = { withHandle k x (s.shaders.get k) with compiledText := source } := by
  obtain ⟨x, w₁, w₂, w₃, w₄, hx, h₁, h₂, h₃, h₄⟩ := h.compile k.token source w
  rw [hv] at h₃
  have hcreate : (outside (v.compiler.create k.token)).outcome (s, w) = (.ok x, (s, w₁)) := by
    rw [outcome_outside, h₁]
  have hsubmit := outcome_onFault_ok (outside (v.compiler.delete x))
    (submit_accepted (k := k) (s := s) h₂ h₃)
  obtain ⟨t, ht, hc, hg⟩ := setHandle_unheard call hu x w₃
  rw [if_neg hx] at hg
  have hcompiled : ∃ w', (compileWith call v.compiler k source).outcome (s, w) =
      (.ok true, (t.updateShader k fun a => { a with compiledText := source }, w')) := by
    rw [compileWith]
    rw [outcome_bind_ok _ hcreate, outcome_bind_ok _ hsubmit, if_pos rfl, outcome_bind_ok _ ht]
    exact ⟨_, rfl⟩
  obtain ⟨w', hw'⟩ := hcompiled
  refine ⟨x, _, w', hx, hw', hc.trans (Confined.updateShader t rfl), ?_⟩
  rw [get_updateShader_self, hg]

theorem compileWith_refused (h : v.Steady b) {source : Text}
    (hv : b.verdict k.token source = false) (w : W) : ∃ w',
      (compileWith call v.compiler k source).outcome (s, w) = (.ok false, (s.updateShader k fun a =>
        { a with diagnostics := a.diagnostics ++ diagnose (some k) (b.log k.token source) }, w')) := by
  obtain ⟨x, w₁, w₂, w₃, w₄, hx, h₁, h₂, h₃, h₄⟩ := h.compile k.token source w
  rw [hv] at h₃
  have hcreate : (outside (v.compiler.create k.token)).outcome (s, w) = (.ok x, (s, w₁)) := by
    rw [outcome_outside, h₁]
  have hsubmit := outcome_onFault_ok (outside (v.compiler.delete x))
    (submit_refused (k := k) (s := s) h₂ h₃ h₄ (h.log k.token source))
  obtain ⟨w₅, h₅⟩ := h.delete x w₄
  have hdelete (t : Studio W Q) :
      (outside (v.compiler.delete x)).outcome (t, w₄) = (.ok (), (t, w₅)) := by
    rw [outcome_outside, h₅]
  rw [compileWith]
  rw [outcome_bind_ok _ hcreate, outcome_bind_ok _ hsubmit, if_neg (by decide),
    outcome_bind_ok _ (hdelete _)]
  exact ⟨_, rfl⟩

theorem attemptCompile_blank (hb : allBlank (s.shaders.get k).code = true) (w : W) :
    (attemptCompile call k).outcome (s, w) = (.ok true, (s, w)) := by
  change (if allBlank (s.shaders.get k).code then _ else _ : Act _ Bool).outcome (s, w) = _
  rw [if_pos hb]
  rfl

theorem attemptCompile_eq {c : Compiler W} (hb : allBlank (s.shaders.get k).code = false)
    (hc : (s.shaders.get k).compiler = some c) (w : W) :
    (attemptCompile call k).outcome (s, w) =
      ((expandMacros k (s.shaders.get k).code).attempt >>= fun
        | .error fault => do
          if fault.family = .expansion then
            explain k fault.explanation
            report .warning (k.title ++ " stage: macro expansion failed".toList)
            return false
          else throw fault
        | .ok source => do
          if allBlank source then
            explain k "Macro expansion produced no source".toList
            return false
          else compileWith call c k source).outcome (s, w) := by
  change (if allBlank (s.shaders.get k).code then _ else _ : Act _ Bool).outcome (s, w) = _
  rw [if_neg (by simp [hb])]
  generalize (s.shaders.get k).compiler = compiler at hc ⊢
  subst hc
  rfl

omit [Records W] in
theorem Services.Steady.readable_expansion (h : v.Steady b) {code : Text} {fault : Fault}
    (he : expandedText v b code = .error fault) :
    fault.family = .expansion ∧ Readable fault.explanation := by
  rw [expandedText] at he
  split at he
  case isTrue =>
      split at he
      · cases he
        exact ⟨rfl, .of_not_isDigit (by decide)⟩
      · exact h.expansion code fault he
  case isFalse => cases he

theorem attemptCompile_steady (h : v.Steady b) (hs : Served v (s.shaders.get k)) (w : W) :
    ∃ r t w', (attemptCompile call k).outcome (s, w) = (.ok r, (t, w')) ∧ Confined k s t ∧
      Attempt v b k (s.shaders.get k) r (t.shaders.get k) := by
  -- a refusal only adds diagnostics to the stage
  have hrefused {ds : List Diagnostic} (hd : compiled v b k (s.shaders.get k).code = .error ds)
      (ho : ∃ w', (attemptCompile call k).outcome (s, w) = (.ok false, (s.updateShader k fun a =>
        { a with diagnostics := a.diagnostics ++ ds }, w'))) :
      ∃ r t w', (attemptCompile call k).outcome (s, w) = (.ok r, (t, w')) ∧ Confined k s t ∧
        Attempt v b k (s.shaders.get k) r (t.shaders.get k) := by
    obtain ⟨w', ho⟩ := ho
    refine ⟨false, _, w', ho, Confined.updateShader s rfl, ?_⟩
    rw [get_updateShader_self]
    exact .refused hd
  cases hb : allBlank (s.shaders.get k).code with
  | true =>
      have hc := (compiled_eq_ok_nil v b (k := k)).mpr hb
      exact ⟨true, s, w, attemptCompile_blank call hb w, Confined.refl s, .blank hc⟩
  | false =>
      obtain ⟨w₁, he⟩ := expandMacros_steady h hs (s.shaders.get k).code w
      have heq := (attemptCompile_eq call hb hs.compiler w).trans (outcome_attempt_bind _ he)
      have hcompiled : compiled v b k (s.shaders.get k).code = _ := if_neg (by simp [hb])
      cases hx : expandedText v b (s.shaders.get k).code with
      | error fault =>
          obtain ⟨hf, hl⟩ := h.readable_expansion hx
          rw [hx] at heq hcompiled
          apply hrefused hcompiled
          rw [heq]
          dsimp only
          rw [if_pos hf, outcome_bind_ok _ (explain_readable hl s w₁)]
          exact ⟨_, rfl⟩
      | ok source =>
          rw [hx] at heq hcompiled
          dsimp only at heq hcompiled
          by_cases hs₀ : allBlank source = true
          · rw [if_pos hs₀] at heq hcompiled
            refine hrefused hcompiled ⟨w₁, heq.trans ?_⟩
            rw [outcome_bind_ok _ (explain_readable (.of_not_isDigit (by decide)) s w₁)]
            rfl
          · rw [if_neg hs₀] at heq hcompiled
            cases hv : b.verdict k.token source with
            | false =>
                obtain ⟨w', hw'⟩ := compileWith_refused call h (s := s) hv w₁
                rw [hv] at hcompiled
                exact hrefused hcompiled ⟨w', heq.trans hw'⟩
            | true =>
                obtain ⟨x, t, w', hx₀, ht, hc, hg⟩ := compileWith_accepted call h hs.unheard hv w₁
                rw [hv, if_pos rfl] at hcompiled
                refine ⟨true, t, w', heq.trans ht, hc, ?_⟩
                rw [hg]
                refine .accepted hcompiled ?_ hx₀
                rintro rfl
                exact hs₀ rfl

end Outcomes

end ShaderPipeline.Studio
