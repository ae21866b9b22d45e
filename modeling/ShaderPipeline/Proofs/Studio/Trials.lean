import ShaderPipeline.Proofs.Act.Leads
import ShaderPipeline.Proofs.Studio.Services

namespace ShaderPipeline.Studio

open Text Glsl Act

variable {W P : Type} {k : Stage}

def expansion (a : Shader W) : Act W Text :=
  if contains a.settings.macroDirective a.code then
    match a.resolver with
    | none => throw .noResolver
    | some expand => expand a.code
  else pure a.code

def judge (c : Compiler W) (x : Int) (source : Text) : Act W (Option Text) := do
  c.setSource x source
  if ← c.compile x then return none else return some (← c.infoLog x)

def ruling (k : Stage) : Except Fault (Option Text) → Except Fault Bool × List Diagnostic
  | .ok none => (.ok true, [])
  | .ok (some log) =>
    ((readLines (some k) (lines log)).1.map fun _ => false, (readLines (some k) (lines log)).2)
  | .error fault => (.error fault, [])

def Reported [Records W] (w v : W) : Prop := v = w ∨ ∃ level text, v = Records.record level text w

/-- How an attempt on the shader `a` ends that does not pass: with which outcome, which diagnostics
made on the way, and which world left behind. -/
inductive Declined [Records W] (k : Stage) (a : Shader W) (w : W) :
    Except Fault Bool → List Diagnostic → W → Prop
  | idle (hc : a.compiler = none) : Declined k a w (.error (.noCompiler k a.handle)) [] w
  | broken {c : Compiler W} {fault : Fault} {v : W} (hc : a.compiler = some c)
      (he : (expansion a).outcome w = (.error fault, v)) (hf : fault.family ≠ .expansion) :
      Declined k a w (.error fault) [] v
  | unexpanded {c : Compiler W} {fault : Fault} {v u : W} (hc : a.compiler = some c)
      (he : (expansion a).outcome w = (.error fault, v)) (hf : fault.family = .expansion)
      (hu : Reported v u) :
      Declined k a w ((readLines (some k) (lines fault.explanation)).1.map fun _ => false)
        (readLines (some k) (lines fault.explanation)).2 u
  | empty {c : Compiler W} {source : Text} {v : W} (hc : a.compiler = some c)
      (he : (expansion a).outcome w = (.ok source, v)) (hs : allBlank source = true) :
      Declined k a w (.ok false) (diagnose (some k) "Macro expansion produced no source".toList) v
  | homeless {c : Compiler W} {source : Text} {fault : Fault} {v u : W} (hc : a.compiler = some c)
      (he : (expansion a).outcome w = (.ok source, v)) (hs : allBlank source = false)
      (hx : (c.create k.token).outcome v = (.error fault, u)) :
      Declined k a w (.error fault) [] u
  -- the handle is given back, and what that fails with is the outcome
  | undone {c : Compiler W} {source : Text} {x : Int} {v v₁ v₂ v₃ u : W}
      {j : Except Fault (Option Text)} {d : Except Fault Unit} (hc : a.compiler = some c)
      (he : (expansion a).outcome w = (.ok source, v)) (hs : allBlank source = false)
      (hx : (c.create k.token).outcome v = (.ok x, v₁))
      (hj : (judge c x source).outcome v₁ = (j, v₂)) (hn : j ≠ .ok none)
      (hd : (c.delete x).outcome v₂ = (d, v₃)) (hu : Reported v₃ u) :
      Declined k a w (d >>= fun _ => (ruling k j).1) (ruling k j).2 u

/-- The compiler of the shader `a` takes what its code is expanded to, for the handle `x`. -/
structure Accepted (k : Stage) (a : Shader W) (w : W) (x : Int) (source : Text) (v : W) : Prop where
  hasSource : allBlank source = false
  taken : ∃ c v₁ v₂, a.compiler = some c ∧ (expansion a).outcome w = (.ok source, v₁) ∧
    (c.create k.token).outcome v₁ = (.ok x, v₂) ∧ (judge c x source).outcome v₂ = (.ok none, v)

section Steps

variable (s : Studio W P) (w : W)

theorem updateShader_noted_nil (k : Stage) : s.updateShader k (noted []) = s := by
  cases k <;> simp [updateShader, PerStage.update, noted]

theorem outcome_expandMacros (k : Stage) :
    (expandMacros k (s.shaders.get k).code).outcome (s, w) =
      (((expansion (s.shaders.get k)).outcome w).1,
        (s, ((expansion (s.shaders.get k)).outcome w).2)) := by
  change (if contains (s.shaders.get k).settings.macroDirective (s.shaders.get k).code then
    _ else _ : Act _ Text).outcome (s, w) = _
  rw [expansion]
  rw [outcome_ite]
  split
  · cases (s.shaders.get k).resolver <;> rfl
  · rfl

theorem outside_bind {S α β : Type} (a : Act W α) (f : α → Act W β) :
    (outside (a >>= f) : Act (S × W) β) = outside a >>= fun x => outside (f x) := by
  ext1
  funext t
  rw [outcome_outside, outcome_bind, outcome_bind, outcome_outside]
  cases a.outcome t.2 with
  | mk r v => cases r <;> rfl

theorem submit_eq (c : Compiler W) (k : Stage) (x : Int) (source : Text) :
    (submit c k x source : Act (Studio W P × W) Bool) = (do
      match ← outside (judge c x source) with
      | none => return true
      | some log => do
        explain k log
        return false) := by
  rw [submit, judge]
  simp only [outside_bind, bind_assoc]
  congr 1
  funext _
  congr 1
  funext compiled
  cases compiled with
  | true => rfl
  | false =>
      simp only [Bool.not_false, if_true, Bool.false_eq_true, if_false, outside_bind, bind_assoc]
      rfl

theorem outcome_submit (c : Compiler W) (k : Stage) (x : Int) (source : Text) :
    (submit c k x source).outcome (s, w) =
      ((ruling k ((judge c x source).outcome w).1).1,
        (s.updateShader k (noted (ruling k ((judge c x source).outcome w).1).2),
          ((judge c x source).outcome w).2)) := by
  rw [submit_eq, outcome_bind, outcome_outside]
  cases (judge c x source).outcome w with
  | mk j v =>
      cases j with
      | error fault => exact congrArg (fun t => (_, (t, v))) (updateShader_noted_nil s k).symm
      | ok j =>
          cases j with
          | none => exact congrArg (fun t => (_, (t, v))) (updateShader_noted_nil s k).symm
          | some log =>
              dsimp only
              rw [outcome_bind, outcome_explain, ruling]
              cases (readLines (some k) (lines log)).1 <;> rfl

theorem ruling_passed {j : Except Fault (Option Text)} (h : (ruling k j).1 = .ok true) :
    j = .ok none := by
  match j, h with
  | .ok none, _ => rfl
  | .ok (some log), h =>
    rw [ruling] at h
    cases hl : (readLines (some k) (lines log)).1 with
    | ok _ => rw [hl] at h; cases h
    | error fault => rw [hl] at h; cases h

variable [Records W] (call : Text → Change → Act (Studio W P × W) Unit)

def adopt (k : Stage) (x : Int) (source : Text) : Act (Studio W P × W) Bool := do
  setHandle call k x
  changeShader k fun s => { s with compiledText := source }
  report .debug (k.title ++ " stage compiled (handle ".toList ++ ofInt x ++ [')'])
  return true

omit call in
def refuse (c : Compiler W) (k : Stage) (x : Int) : Act (Studio W P × W) Bool := do
  outside (c.delete x)
  let count := (← shader k).diagnostics.length
  report .warning
    (k.title ++ " stage failed to compile (".toList ++ ofNat count ++ " diagnostic(s))".toList)
  return false

omit call in
theorem outcome_refuse {c : Compiler W} {x : Int} {d : Except Fault Unit} {v v' : W}
    (hd : (c.delete x).outcome v = (d, v')) (t : Studio W P) :
    ∃ u, Reported v' u ∧
      (refuse c k x).outcome (t, v) = (d >>= fun _ => .ok false, (t, u)) := by
  have hdelete : (outside (c.delete x)).outcome (t, v) = (d, (t, v')) := by
    rw [outcome_outside, hd]
  rw [refuse]
  cases d with
  | error fault => exact ⟨v', .inl rfl, outcome_bind_error _ hdelete⟩
  | ok _ =>
      rw [outcome_bind_ok _ hdelete]
      exact ⟨_, .inr ⟨_, _, rfl⟩, rfl⟩

theorem compileWith_eq (c : Compiler W) (k : Stage) (source : Text) :
    compileWith call c k source = outside (c.create k.token) >>= fun x =>
      (submit c k x source).onFault (outside (c.delete x)) >>= fun compiled =>
        if compiled then adopt call k x source else refuse c k x := rfl

variable {s w}

omit call in
theorem outcome_compileWith {c : Compiler W} {source : Text} {v : W}
    (hc : (s.shaders.get k).compiler = some c)
    (he : (expansion (s.shaders.get k)).outcome w = (.ok source, v))
    (hs : allBlank source = false) :
    (∃ r ds u, Declined k (s.shaders.get k) w r ds u ∧ ∀ call,
      (compileWith call c k source).outcome (s, v) = (r, (s.updateShader k (noted ds), u))) ∨
    ∃ x u, Accepted k (s.shaders.get k) w x source u ∧ ∀ call,
      (compileWith call c k source).outcome (s, v) = (adopt call k x source).outcome (s, u) := by
  have houtside {α : Type} {t : Studio W P} {a : Act W α} {v v' : W} {r : Except Fault α}
      (h : a.outcome v = (r, v')) : (outside a).outcome (t, v) = (r, (t, v')) := by
    rw [outcome_outside, h]
  cases hx : (c.create k.token).outcome v with
  | mk r v₁ =>
      cases r with
      | error fault =>
          refine .inl ⟨_, _, _, .homeless hc he hs hx, fun call => ?_⟩
          rw [compileWith]
          rw [outcome_bind_error _ (houtside hx), updateShader_noted_nil]
      | ok x =>
          have hcreated (call : Text → Change → Act (Studio W P × W) Unit) :=
            outcome_bind_ok (fun x => (submit c k x source).onFault (outside (c.delete x)) >>=
              fun compiled => if compiled then adopt call k x source else refuse c k x)
              (houtside (t := s) hx)
          have hsubmit := outcome_submit s v₁ c k x source
          cases hj : (judge c x source).outcome v₁ with
          | mk j v₂ =>
              rw [hj] at hsubmit
              by_cases hn : j = .ok none
              · subst hn
                refine .inr ⟨x, v₂, ⟨hs, c, v, v₁, hc, he, hx, hj⟩, fun call => ?_⟩
                dsimp only [ruling] at hsubmit
                rw [updateShader_noted_nil] at hsubmit
                rw [compileWith_eq, hcreated, outcome_bind_ok _ (outcome_onFault_ok _ hsubmit),
                  if_pos rfl]
              · cases hd : (c.delete x).outcome v₂ with
                | mk d v₃ =>
                    have hundone (u : W) (hu : Reported v₃ u) :=
                      Declined.undone hc he hs hx hj hn hd hu
                    cases hr : (ruling k j).1 with
                    | error fault =>
                        refine .inl ⟨_, _, v₃, hundone v₃ (.inl rfl), fun call => ?_⟩
                        rw [hr] at hsubmit ⊢
                        have hfault := outcome_onFault_error (outside (c.delete x)) hsubmit
                        rw [outcome_outside, hd] at hfault
                        rw [compileWith_eq, hcreated, outcome_bind, hfault]
                        cases d <;> rfl
                    | ok passed =>
                        obtain rfl : passed = false := by
                          cases passed with
                          | true => exact absurd (ruling_passed hr) hn
                          | false => rfl
                        rw [hr] at hsubmit
                        obtain ⟨u, hu, hrefused⟩ := outcome_refuse (k := k) hd
                          (s.updateShader k (noted (ruling k j).2))
                        refine .inl ⟨_, _, u, hundone u hu, fun call => ?_⟩
                        rw [compileWith_eq, hcreated,
                          outcome_bind_ok _ (outcome_onFault_ok _ hsubmit), if_neg (by decide),
                          hrefused, hr]

omit call in
theorem outcome_attemptCompile (hb : allBlank (s.shaders.get k).code = false) :
    (∃ r ds u, Declined k (s.shaders.get k) w r ds u ∧ ∀ call,
      (attemptCompile call k).outcome (s, w) = (r, (s.updateShader k (noted ds), u))) ∨
    ∃ x source u, Accepted k (s.shaders.get k) w x source u ∧ ∀ call,
      (attemptCompile call k).outcome (s, w) = (adopt call k x source).outcome (s, u) := by
  cases hc : (s.shaders.get k).compiler with
  | none =>
      refine .inl ⟨_, _, _, .idle hc, fun call => ?_⟩
      rw [updateShader_noted_nil]
      change (if allBlank (s.shaders.get k).code then _ else _ : Act _ Bool).outcome (s, w) = _
      rw [if_neg (by simp [hb])]
      simp only [hc]
      rfl
  | some c =>
      have hexpand := outcome_expandMacros s w k
      cases he : (expansion (s.shaders.get k)).outcome w with
      | mk e v =>
          rw [he] at hexpand
          have hexpanded (call : Text → Change → Act (Studio W P × W) Unit) :=
            (attemptCompile_eq call hb hc w).trans (outcome_attempt_bind _ hexpand)
          cases e with
          | ok source =>
              dsimp only at hexpanded
              cases hs : allBlank source with
              | true =>
                  refine .inl ⟨_, _, _, .empty hc he hs, fun call => ?_⟩
                  rw [hexpanded, if_pos hs,
                    outcome_bind_ok _ (explain_readable (.of_not_isDigit (by decide)) s v)]
                  rfl
              | false =>
                  simp only [hexpanded, hs, Bool.false_eq_true, if_false]
                  refine (outcome_compileWith hc he hs).imp id ?_
                  rintro ⟨x, u, h⟩
                  exact ⟨x, source, u, h⟩
          | error fault =>
              left
              dsimp only at hexpanded
              by_cases hf : fault.family = .expansion
              · have hexplain := outcome_explain k fault.explanation s v
                have hnoted (u : W) (hu : Reported v u) := Declined.unexpanded (k := k) hc he hf hu
                cases hr : (readLines (some k) (lines fault.explanation)).1 with
                | error f =>
                    rw [hr] at hexplain
                    refine ⟨_, _, v, hnoted v (.inl rfl), fun call => ?_⟩
                    rw [hexpanded, if_pos hf, outcome_bind_error _ hexplain, hr]
                    rfl
                | ok _ =>
                    rw [hr] at hexplain
                    refine ⟨_, _, _, hnoted _ (.inr ⟨.warning, k.title ++
                      " stage: macro expansion failed".toList, rfl⟩), fun call => ?_⟩
                    rw [hexpanded, if_pos hf, outcome_bind_ok _ hexplain, hr]
                    rfl
              · refine ⟨_, _, v, .broken hc he hf, fun call => ?_⟩
                rw [hexpanded, if_neg hf, updateShader_noted_nil]
                rfl

def explained (ds : List Diagnostic) (a : Shader W) : Shader W := { a with diagnostics := ds }

def judged (r : Bool) (ds : List Diagnostic) (a : Shader W) : Shader W :=
  { a with diagnostics := ds, verdict := some r }

def settled (source : Text) (a : Shader W) : Shader W :=
  { a with compiledText := source, verdict := some true }

/-- All that compiling a stage of which nothing is known can come to. -/
inductive Tried (k : Stage) (s : Studio W P) (w : W) :
    Except Fault Bool × (Studio W P × W) → Prop
  | blank (hb : allBlank (s.shaders.get k).code = true) :
      Tried k s w (.ok true, (s.updateShader k (judged true []), w))
  | refused {ds : List Diagnostic} {u : W} (hb : allBlank (s.shaders.get k).code = false)
      (h : Declined k (s.shaders.get k) w (.ok false) ds u) :
      Tried k s w (.ok false, (s.updateShader k (judged false ds), u))
  | raised {fault : Fault} {ds : List Diagnostic} {u : W}
      (hb : allBlank (s.shaders.get k).code = false)
      (h : Declined k (s.shaders.get k) w (.error fault) ds u) :
      Tried k s w (.error fault, (s.updateShader k (explained ds), u))
  | passed {x : Int} {source : Text} {u v : W} {t : Studio W P}
      (hb : allBlank (s.shaders.get k).code = false)
      (h : Accepted k (s.shaders.get k) w x source u)
      (ht : (setHandle call k x).outcome (s.updateShader k (explained []), u) = (.ok (), (t, v))) :
      Tried k s w (.ok true, (t.updateShader k (settled source), Records.record .debug
        (k.title ++ " stage compiled (handle ".toList ++ ofInt x ++ [')']) v))
  -- the handle is taken, and who is told of it fails
  | interrupted {x : Int} {source : Text} {fault : Fault} {u : W} {t : Studio W P × W}
      (hb : allBlank (s.shaders.get k).code = false)
      (h : Accepted k (s.shaders.get k) w x source u)
      (ht : (setHandle call k x).outcome (s.updateShader k (explained []), u) = (.error fault, t)) :
      Tried k s w (.error fault, t)

omit call in
theorem Declined.of_explained {a : Shader W} {ds es : List Diagnostic} {r : Except Fault Bool} {u : W}
    (h : Declined k (explained es a) w r ds u) : Declined k a w r ds u := by
  cases h with
  | idle hc => exact .idle hc
  | broken hc he hf => exact .broken hc he hf
  | unexpanded hc he hf hu => exact .unexpanded hc he hf hu
  | empty hc he hs => exact .empty hc he hs
  | homeless hc he hs hx => exact .homeless hc he hs hx
  | undone hc he hs hx hj hn hd hu => exact .undone hc he hs hx hj hn hd hu

omit call in
theorem Declined.ne_true {a : Shader W} {ds : List Diagnostic} {r : Except Fault Bool} {u : W}
    (h : Declined k a w r ds u) : r ≠ .ok true := by
  intro hr
  cases h with
  | idle | broken | empty | homeless => cases hr
  | unexpanded =>
      cases hl : (readLines (some k) (lines (Fault.explanation _))).1 with
      | ok _ => rw [hl] at hr; cases hr
      | error fault => rw [hl] at hr; cases hr
  | @undone _ _ _ _ _ _ _ _ j d hc he hs hx hj hn hd hu =>
      cases d with
      | ok _ => exact hn (ruling_passed hr)
      | error fault => cases hr

theorem outcome_compile (hh : (s.shaders.get k).handle = 0)
    (hv : (s.shaders.get k).verdict = none) :
    Tried call k s w ((compile call k).outcome (s, w)) := by
  have hget : (s.updateShader k (explained [])).shaders.get k = explained [] (s.shaders.get k) :=
    get_updateShader_self s k (explained [])
  have hunknown := outcome_compile_unknown call (s := (s, w)) hh hv
  change _ = Act.outcome _ (s.updateShader k (explained []), w) at hunknown
  rw [hunknown]
  cases hb : allBlank (s.shaders.get k).code with
  | true =>
      have hattempt := attemptCompile_blank call (k := k) (s := s.updateShader k (explained []))
        (by rw [hget]; exact hb) w
      rw [outcome_bind_ok _ hattempt]
      change Tried call k s w (.ok true, ((s.updateShader k (explained [])).updateShader k _, w))
      rw [updateShader_updateShader]
      exact .blank hb
  | false =>
      have hattempt := outcome_attemptCompile (k := k) (s := s.updateShader k (explained []))
        (w := w) (by rw [hget]; exact hb)
      rw [hget] at hattempt
      obtain ⟨r, ds, u, hd, ho⟩ | ⟨x, source, u, ha, ho⟩ := hattempt
      · replace ho := ho call
        rw [updateShader_updateShader] at ho
        cases r with
        | error fault =>
            rw [outcome_bind_error _ ho]
            exact .raised hb hd.of_explained
        | ok passed =>
            obtain rfl : passed = false := by
              cases passed with
              | true => exact absurd rfl hd.ne_true
              | false => rfl
            rw [outcome_bind_ok _ ho]
            change Tried call k s w (.ok false, ((s.updateShader k (explained ds)).updateShader k _, u))
            rw [updateShader_updateShader]
            exact .refused hb hd.of_explained
      · rw [outcome_bind, ho, adopt, outcome_bind]
        cases ht : (setHandle call k x).outcome (s.updateShader k (explained []), u) with
        | mk r t =>
            cases r with
            | error fault => exact .interrupted hb ⟨ha.hasSource, ha.taken⟩ ht
            | ok _ =>
                obtain ⟨t, v⟩ := t
                change Tried call k s w (.ok true, ((t.updateShader k _).updateShader k _, _))
                rw [updateShader_updateShader]
                exact .passed hb ⟨ha.hasSource, ha.taken⟩ ht

omit [Records W] in
theorem setHandle_returns (hcall : ∀ name c, Returns (call name c)) (k : Stage) (x : Int) :
    Returns (setHandle call k x) := by
  rintro ⟨s, w⟩
  rw [outcome_setHandle]
  split
  · exact ⟨_, rfl⟩
  · exact Returns.forM (fun name _ => hcall name _) _

theorem raised_of_compile (hcall : ∀ name c, Returns (call name c)) {fault : Fault}
    {t : Studio W P × W} (h : (compile call k).outcome (s, w) = (.error fault, t)) :
    (s.shaders.get k).handle = 0 ∧ (s.shaders.get k).verdict = none ∧ ∃ ds u,
      Declined k (s.shaders.get k) w (.error fault) ds u ∧
      t = (s.updateShader k (explained ds), u) := by
  by_cases hh : (s.shaders.get k).handle = 0
  case neg =>
      rw [outcome_compile_held call (s := (s, w)) hh] at h
      cases h
  cases hv : (s.shaders.get k).verdict with
  | some r =>
      rw [outcome_compile_known call (s := (s, w)) hh hv] at h
      cases h
  | none =>
      have htried := outcome_compile call (w := w) hh hv
      rw [h] at htried
      refine ⟨hh, rfl, ?_⟩
      cases htried with
      | raised hb hd => exact ⟨_, _, hd, rfl⟩
      | @interrupted x source fault u t hb ha ht =>
          obtain ⟨_, hx⟩ := setHandle_returns call hcall k x (s.updateShader k (explained []), u)
          rw [ht] at hx
          cases hx

/-- All that linking can come to. -/
inductive Linked (link : Context W P) (args : LinkArgs) (s : Studio W P) (w : W) :
    Except Fault Bool × (Studio W P × W) → Prop
  | linked {p : P} {v u : W} (h : (link args).outcome w = (.ok p, v)) (hu : Reported v u) :
      Linked link args s w (.ok true, ({ s with program := some p }, u))
  | refused {fault : Fault} {v u : W} (h : (link args).outcome w = (.error fault, v))
      (hf : fault.family = .link) (hu : Reported v u) :
      Linked link args s w ((readLines none (lines fault.message)).1.map fun _ => false,
        ({ s with linkDiagnostics :=
            s.linkDiagnostics ++ (readLines none (lines fault.message)).2 }, u))
  | broken {fault : Fault} {v : W} (h : (link args).outcome w = (.error fault, v))
      (hf : fault.family ≠ .link) : Linked link args s w (.error fault, (s, v))

omit call in
theorem outcome_linkWith (link : Context W P) (args : LinkArgs) :
    Linked link args s w ((linkWith link args).outcome (s, w)) := by
  rw [linkWith]
  cases hl : (link args).outcome w with
  | mk r v =>
      have houtside : (outside (link args)).outcome (s, w) = (r, (s, v)) := by
        rw [outcome_outside, hl]
      rw [outcome_attempt_bind _ houtside]
      cases r with
      | ok p => exact .linked hl (.inr ⟨_, _, rfl⟩)
      | error fault =>
          dsimp only
          by_cases hf : fault.family = .link
          · have hexplain := outcome_explainLink fault.message s v
            have hrefused (u : W) (hu : Reported v u) := Linked.refused (s := s) hl hf hu
            rw [if_pos hf]
            cases hr : (readLines none (lines fault.message)).1 with
            | error f =>
                rw [hr] at hexplain hrefused
                rw [outcome_bind_error _ hexplain]
                exact hrefused v (.inl rfl)
            | ok _ =>
                rw [hr] at hexplain hrefused
                rw [outcome_bind_ok _ hexplain]
                exact hrefused _ (.inr ⟨_, _, rfl⟩)
          · rw [if_neg hf]
            exact .broken hl hf

end Steps

end ShaderPipeline.Studio
