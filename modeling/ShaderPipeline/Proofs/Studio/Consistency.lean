import ShaderPipeline.Proofs.Studio.Neighbours

namespace ShaderPipeline.Studio

open Text Glsl Act

variable {W P V : Type} {candid : Prop} {a b : Shader W} {k : Stage}

def CandidCompiler (c : Compiler W) : Prop :=
  ∀ x w log, ((c.infoLog x).outcome w).1 = .ok log → allBlank log = false

def CandidResolver (e : Resolver W) : Prop :=
  ∀ source w fault, ((e source).outcome w).1 = .error fault → fault.family = .expansion →
    fault.message = [] ∨ allBlank fault.message = false

structure CandidServices (candid : Prop) (a : Shader W) : Prop where
  compiler : candid → ∀ c, a.compiler = some c → CandidCompiler c
  resolver : candid → ∀ e, a.resolver = some e → CandidResolver e

/-- The outcome of compiling is known without another trial. -/
def Known (r : Bool) (a : Shader W) : Prop :=
  if a.handle ≠ 0 then a.diagnostics.isEmpty = r else a.verdict = some r

structure Forgotten (a : Shader W) : Prop where
  handle : a.handle = 0
  verdict : a.verdict = none
  text : a.compiledText = []

/-- The stage has diagnostics if it was refused and none if it has passed. -/
structure Consistent (candid : Prop) (a : Shader W) : Prop extends CandidServices candid a where
  bare : a.handle = 0 → a.verdict = none → a.compiledText = []
  held : a.handle ≠ 0 → a.diagnostics = []
  passed : a.verdict = some true → a.diagnostics = []
  refused : candid → a.verdict = some false → a.diagnostics ≠ []

section Shaders

theorem CandidServices.alike (h : CandidServices candid a) (hab : Alike a b) :
    CandidServices candid b where
  compiler hc c hb := h.compiler hc c (hab.compiler.symm.trans hb)
  resolver hc e hb := h.resolver hc e (hab.resolver.symm.trans hb)

theorem Known.untouched {r : Bool} (h : Known r a) (hab : Untouched a b) : Known r b := by
  rw [Known] at h ⊢
  rw [hab.handle, hab.diagnostics, hab.verdict]
  exact h

theorem Forgotten.untouched (h : Forgotten a) (hab : Untouched a b) : Forgotten b :=
  ⟨hab.handle.trans h.handle, hab.verdict.trans h.verdict, hab.compiledText.trans h.text⟩

theorem Consistent.untouched (h : Consistent candid a) (hab : Untouched a b) :
    Consistent candid b where
  toCandidServices := h.toCandidServices.alike hab.toAlike
  bare hh hv := hab.compiledText.trans (h.bare (hab.handle.symm.trans hh) (hab.verdict.symm.trans hv))
  held hh := hab.diagnostics.trans (h.held (hab.handle ▸ hh))
  passed hv := hab.diagnostics.trans (h.passed (hab.verdict.symm.trans hv))
  refused hc hv := hab.diagnostics ▸ h.refused hc (hab.verdict.symm.trans hv)

theorem Forgotten.consistent (h : Forgotten a) (hs : CandidServices candid a) :
    Consistent candid a where
  toCandidServices := hs
  bare _ _ := h.text
  held hh := absurd h.handle hh
  passed hv := by rw [h.verdict] at hv; cases hv
  refused _ hv := by rw [h.verdict] at hv; cases hv

theorem Consistent.explains (h : Consistent candid a) {r : Bool} (hr : Known r a) :
    (r = true → a.diagnostics = []) ∧ (candid → r = false → a.diagnostics ≠ []) := by
  rw [Known] at hr
  split at hr
  case isTrue hh =>
      rw [h.held hh] at hr ⊢
      exact ⟨fun _ => rfl, fun _ hf => by rw [hf] at hr; cases hr⟩
  case isFalse => exact ⟨fun ht => h.passed (ht ▸ hr), fun hc hf => h.refused hc (hf ▸ hr)⟩

theorem forgotten_withHandle_zero (a : Shader W) : Forgotten (withHandle k 0 (cleared a)) := by
  obtain ⟨scanned, channel, he, _⟩ := withHandle_eq (k := k) 0 (cleared a)
  rw [he]
  exact ⟨rfl, rfl, rfl⟩

theorem CandidServices.withHandle (h : CandidServices candid a) (x : Int) :
    CandidServices candid (withHandle k x a) := by
  obtain ⟨scanned, channel, he, _⟩ := withHandle_eq (k := k) x a
  rw [he]
  exact ⟨h.compiler, h.resolver⟩

theorem consistent_withHandle (hs : CandidServices candid a) (hv : a.verdict = none)
    (hd : a.diagnostics = []) (x : Int) :
    let b := withHandle k x (if x = 0 then cleared a else a)
    Consistent candid b ∧ b.handle = x ∧ b.diagnostics = [] := by
  by_cases hx : x = 0
  · subst hx
    rw [if_pos rfl]
    obtain ⟨scanned, channel, he, _⟩ := withHandle_eq (k := k) 0 (cleared a)
    refine ⟨(forgotten_withHandle_zero a).consistent ?_, handle_withHandle 0 _, ?_⟩
    · exact CandidServices.withHandle (a := cleared a) ⟨hs.compiler, hs.resolver⟩ 0
    · rw [he]
      exact hd
  · rw [if_neg hx]
    obtain ⟨scanned, channel, he, _⟩ := withHandle_eq (k := k) x a
    rw [he]
    refine ⟨⟨⟨hs.compiler, hs.resolver⟩, fun h0 => absurd h0 hx, fun _ => hd, fun _ => hd, ?_⟩,
      rfl, hd⟩
    intro _ hf
    rw [hv] at hf
    cases hf

theorem consistent_judged (hs : CandidServices candid a) (hh : a.handle = 0) {r : Bool}
    {ds : List Diagnostic} (ht : r = true → ds = []) (hf : candid → r = false → ds ≠ []) :
    Consistent candid (judged r ds a) ∧ Known r (judged r ds a) := by
  refine ⟨⟨⟨hs.compiler, hs.resolver⟩, nofun, fun hn => absurd hh hn, fun hv => ?_,
    fun hc hv => ?_⟩, ?_⟩
  · exact ht (Option.some.inj hv)
  · exact hf hc (Option.some.inj hv)
  · rw [Known, if_neg fun hn => hn hh]
    rfl

theorem consistent_settled (hs : CandidServices candid a) (hd : a.diagnostics = [])
    (source : Text) : Consistent candid (settled source a) ∧ Known true (settled source a) := by
  refine ⟨⟨⟨hs.compiler, hs.resolver⟩, nofun, fun _ => hd, fun _ => hd, nofun⟩, ?_⟩
  rw [Known]
  split
  · change a.diagnostics.isEmpty = true
    rw [hd]
    rfl
  · rfl

end Shaders

section Reasons

variable {w u v : W} {ds : List Diagnostic} {r : Except Fault Bool}

theorem exists_line_of_not_allBlank {log : Text} (h : allBlank log = false) :
    ∃ line ∈ lines log, allBlank line = false := by
  obtain ⟨c, hc, hb⟩ := List.all_eq_false.mp h
  have hnewline : (c == '\n') = false := by
    rw [beq_eq_false_iff_ne]
    rintro rfl
    exact hb (by decide)
  obtain ⟨line, hl, hcl⟩ : ∃ line ∈ lines log, c ∈ line := exists_mem_pieces hc hnewline
  exact ⟨line, hl, List.all_eq_false.mpr ⟨c, hcl, hb⟩⟩

theorem not_allBlank_explanation {fault : Fault}
    (h : fault.message = [] ∨ allBlank fault.message = false) :
    allBlank fault.explanation = false := by
  rw [Fault.explanation]
  split
  case isTrue => exact fault.kind.visible
  case isFalse hm => exact h.resolve_left hm

theorem CandidServices.expansion (h : CandidServices True a) {fault : Fault}
    (he : (expansion a).outcome w = (.error fault, v)) (hf : fault.family = .expansion) :
    allBlank fault.explanation = false := by
  apply not_allBlank_explanation
  rw [Studio.expansion] at he
  split at he
  · cases hr : a.resolver with
    | none =>
        rw [hr] at he
        cases he
        exact .inr (by decide)
    | some e =>
        rw [hr] at he
        exact h.resolver trivial e hr _ _ fault (congrArg Prod.fst he) hf
  · cases he

theorem infoLog_of_judge {c : Compiler W} {x : Int} {source log : Text}
    (h : (judge c x source).outcome w = (.ok (some log), v)) :
    ∃ u, ((c.infoLog x).outcome u).1 = .ok log := by
  rw [judge] at h
  obtain ⟨_, _, _, h⟩ := exists_of_bind_ok h
  obtain ⟨passed, w₂, _, h⟩ := exists_of_bind_ok h
  cases passed with
  | true => cases h
  | false =>
      obtain ⟨text, w₃, hlog, h⟩ := exists_of_bind_ok h
      cases h
      exact ⟨w₂, by rw [hlog]⟩

theorem Declined.ne_nil [Records W] (h : Declined k a w r ds u) (hr : r = .ok false)
    (hs : CandidServices True a) : ds ≠ [] := by
  have hread {log : Text} (hb : allBlank log = false)
      (hm : ((readLines (some k) (lines log)).1.map fun _ => false) = .ok false) :
      (readLines (some k) (lines log)).2 ≠ [] := by
    refine readLines_ne_nil ?_ (exists_line_of_not_allBlank hb)
    cases ho : (readLines (some k) (lines log)).1 with
    | ok _ => rfl
    | error fault => rw [ho] at hm; cases hm
  cases h with
  | idle | broken | homeless => cases hr
  | unexpanded hc he hf hu => exact hread (hs.expansion he hf) hr
  | empty => cases k <;> decide
  | @undone c source x v v₁ v₂ v₃ u j d hc he hb hx hj hn hd hu =>
      cases d with
      | error fault => cases hr
      | ok _ =>
          match j, hj, hn, hr with
          | .ok none, _, hn, _ => exact absurd rfl hn
          | .error fault, _, _, hr => cases hr
          | .ok (some log), hj, _, hr =>
            obtain ⟨u, hlog⟩ := infoLog_of_judge hj
            exact hread (hs.compiler trivial c hc x u log hlog) hr

end Reasons

section Steps

variable [Records W] {call : Text → Change → Act (Studio W P × W) Unit} (hcall : Overlooking call)
include hcall

theorem setHandle_forgets (k : Stage) :
    Leads (fun s => CandidServices candid (s.1.shaders.get k)) (setHandle call k 0) fun _ s =>
      Forgotten (s.1.shaders.get k) ∧ CandidServices candid (s.1.shaders.get k) := by
  rintro ⟨s, w⟩ h
  have huntouched (a b : Shader W) (hab : Untouched a b) (h : Forgotten a ∧ CandidServices candid a) :
      Forgotten b ∧ CandidServices candid b := ⟨h.1.untouched hab, h.2.alike hab.toAlike⟩
  refine setHandle_get (p := fun a => Forgotten a ∧ CandidServices candid a)
    (hcall _ (aloof_get huntouched k)) 0 w ?_
  rw [if_pos rfl]
  refine ⟨forgotten_withHandle_zero _, ?_⟩
  exact CandidServices.withHandle (a := cleared (s.shaders.get k)) ⟨h.compiler, h.resolver⟩ 0

theorem reset_forgets (k : Stage) :
    Leads (fun s => CandidServices candid (s.1.shaders.get k)) (reset call k) fun _ s =>
      Forgotten (s.1.shaders.get k) ∧ CandidServices candid (s.1.shaders.get k) := by
  refine Leads.bind (setHandle_forgets hcall k) (fun _ s h => ?_) fun _ _ h => h
  change Forgotten ((s.1.updateShader k _).shaders.get k) ∧
    CandidServices candid ((s.1.updateShader k _).shaders.get k)
  rw [get_updateShader_self]
  exact ⟨⟨h.1.handle, h.1.verdict, h.1.text⟩, h.2.compiler, h.2.resolver⟩

theorem setCode_forgets {s : Studio W P} {w : W} {code : Text}
    (h : CandidServices candid (s.shaders.get k)) (hcode : code ≠ (s.shaders.get k).code) :
    let t := ((setCode call k code).outcome (s, w)).2.1
    Forgotten (t.shaders.get k) ∧ CandidServices candid (t.shaders.get k) := by
  have huntouched (a b : Shader W) (hab : Untouched a b) (h : Forgotten a ∧ CandidServices candid a) :
      Forgotten b ∧ CandidServices candid b := ⟨h.1.untouched hab, h.2.alike hab.toAlike⟩
  refine outcome_setCode_holds (setHandle_forgets hcall k) (fun s w h => ?_)
    (hcall.notifyCode (aloof_get huntouched k) k) hcode ?_
  · rw [get_updateShader_self]
    exact ⟨⟨h.1.handle, rfl, h.1.text⟩, h.2.compiler, h.2.resolver⟩
  · rw [get_updateShader_self]
    exact ⟨h.compiler, h.resolver⟩

theorem compile_consistent (k : Stage) :
    Leads (fun s => Consistent candid (s.1.shaders.get k)) (compile call k) fun r s =>
      Consistent candid (s.1.shaders.get k) ∧ ∀ b, r = .ok b → Known b (s.1.shaders.get k) := by
  rintro ⟨s, w⟩ h
  by_cases hh : (s.shaders.get k).handle = 0
  case neg =>
      rw [outcome_compile_held call (s := (s, w)) hh]
      refine ⟨h, fun b hb => ?_⟩
      rw [Known, if_pos hh]
      exact Except.ok.inj hb
  cases hv : (s.shaders.get k).verdict with
  | some r =>
      rw [outcome_compile_known call (s := (s, w)) hh hv]
      refine ⟨h, fun b hb => ?_⟩
      rw [Known, if_neg (fun hn => hn hh), hv, Except.ok.inj hb]
  | none =>
      have htried := outcome_compile call (w := w) hh hv
      generalize (compile call k).outcome (s, w) = o at htried ⊢
      have huntouched (x : Int) (a b : Shader W) (hab : Untouched a b)
          (h : Consistent candid a ∧ a.handle = x ∧ a.diagnostics = []) :
          Consistent candid b ∧ b.handle = x ∧ b.diagnostics = [] :=
        ⟨h.1.untouched hab, hab.handle.trans h.2.1, hab.diagnostics.trans h.2.2⟩
      -- the stage as it takes the handle `x`, whether those who are told fail or not
      have htaken (x : Int) (u : W) :=
        setHandle_get (p := fun a => Consistent candid a ∧ a.handle = x ∧ a.diagnostics = [])
          (hcall _ (aloof_get (huntouched x) k)) x (s := s.updateShader k (explained [])) u
          (by
            rw [get_updateShader_self]
            exact consistent_withHandle (a := explained [] (s.shaders.get k))
              ⟨h.compiler, h.resolver⟩ hv rfl x)
      have hclose {r : Bool} {t : Studio W P} {f : Shader W → Shader W}
          (hf : Consistent candid (f (t.shaders.get k)) ∧ Known r (f (t.shaders.get k))) :
          Consistent candid ((t.updateShader k f).shaders.get k) ∧
            ∀ b, (.ok r : Except Fault Bool) = .ok b →
              Known b ((t.updateShader k f).shaders.get k) := by
        rw [get_updateShader_self]
        exact ⟨hf.1, fun b hb => Except.ok.inj hb ▸ hf.2⟩
      cases htried with
      | blank hb => exact hclose (consistent_judged h.toCandidServices hh (fun _ => rfl) nofun)
      | refused hb hd =>
          refine hclose (consistent_judged h.toCandidServices hh nofun fun hc _ => ?_)
          exact hd.ne_nil rfl ⟨fun _ => h.compiler hc, fun _ => h.resolver hc⟩
      | @raised fault ds u hb hd =>
          change Consistent candid ((s.updateShader k (explained ds)).shaders.get k) ∧ _
          rw [get_updateShader_self]
          refine ⟨⟨⟨h.compiler, h.resolver⟩, h.bare, fun hn => absurd hh hn, fun hp => ?_,
            fun _ hp => ?_⟩, nofun⟩
          · exact absurd (hv.symm.trans hp) nofun
          · exact absurd (hv.symm.trans hp) nofun
      | @passed x source u v t hb ha ht =>
          have hx := htaken x u
          rw [ht] at hx
          exact hclose (consistent_settled hx.1.toCandidServices hx.2.2 source)
      | @interrupted x source fault u t hb ha ht =>
          have hx := htaken x u
          rw [ht] at hx
          exact ⟨hx.1, nofun⟩

end Steps

section Runs

variable [Records W] {device : Device W P V} {listener : Listener W P V}

/-- Handles are the compiler's to give: a client may only set them to zero. -/
def Request.Unforged : Request W P V → Prop
  | .setHandle _ x => x = 0
  | _ => True

def Request.CandidStages : Request W P V → Prop
  | .setCompiler _ c => ∀ c', c = some c' → CandidCompiler c'
  | .setResolver _ e => ∀ e', e = some e' → CandidResolver e'
  | _ => True

theorem respond_consistent {call : Text → Change → Act (Studio W P × W) Unit}
    (hcall : Overlooking call) (device : Device W P V) {r : Request W P V} (hr : r.Unforged)
    (hc : candid → r.CandidStages) (k : Stage) :
    Keeps (fun s => Consistent candid (s.1.shaders.get k)) (respond device call r) := by
  have hforgets {α : Type} {a : Act (Studio W P × W) α}
      (ha : Leads (fun s => CandidServices candid (s.1.shaders.get k)) a fun _ s =>
        Forgotten (s.1.shaders.get k) ∧ CandidServices candid (s.1.shaders.get k)) :
      Keeps (fun s => Consistent candid (s.1.shaders.get k)) a :=
    ha.mono (fun _ h => h.toCandidServices) fun _ _ h => h.1.consistent h.2
  have huntouched (a b : Shader W) (hab : Untouched a b) (h : Consistent candid a) :
      Consistent candid b := h.untouched hab
  apply respond_get huntouched (hcall _ (aloof_get huntouched k)) device
  case hcode =>
      rintro code - ⟨s, w⟩ h
      by_cases hcode : code = (s.shaders.get k).code
      · rw [hcode, outcome_setCode_same]
        exact h
      · obtain ⟨hf, hs⟩ := setCode_forgets hcall (w := w) h.toCandidServices hcode
        exact hf.consistent hs
  case hhandle =>
      rintro x rfl
      cases hr
      exact hforgets (setHandle_forgets hcall k)
  case hcompile =>
      exact fun _ => (compile_consistent hcall k).mono (fun _ h => h) fun _ _ h => h.1
  case hreset => exact fun _ => hforgets (reset_forgets hcall k)
  case hcompiler =>
      rintro c rfl a h
      exact ⟨⟨fun hq => hc hq, h.resolver⟩, h.bare, h.held, h.passed, h.refused⟩
  case hresolver =>
      rintro e rfl a h
      exact ⟨⟨h.compiler, fun hq => hc hq⟩, h.bare, h.held, h.passed, h.refused⟩

theorem Listener.OnlyReads.perform (hl : listener.OnlyReads) {r : Request W P V}
    {Q : Act (Studio W P × W) r.Answer → Prop}
    (h : ∀ call, Overlooking call → Q (respond device call r)) (depth : Nat) :
    Q (perform device listener depth r) := by
  obtain ⟨call, hcall, he⟩ := hl.exists_call device depth
  rw [he]
  exact h call hcall

theorem Reached.consistent {start s : Studio W P × W} {may : Request W P V → Prop}
    {tame : (W → W) → Prop} (hl : listener.OnlyReads) (hmay : ∀ r, may r → r.Unforged)
    (hcandid : candid → ∀ r, may r → r.CandidStages)
    (h : Reached device listener may tame start s)
    (hstart : ∀ k, Consistent candid (start.1.shaders.get k)) (k : Stage) :
    Consistent candid (s.1.shaders.get k) := by
  refine h.holds (I := fun s => Consistent candid (s.1.shaders.get k)) (hstart k)
    (fun depth r hr => ?_) fun _ _ _ _ h => h
  exact hl.perform (fun call hcall =>
    respond_consistent hcall device (hmay r hr) (fun hq => hcandid hq r hr) k) depth

omit [Records W] in
theorem opened_consistent {compiler : Option (Compiler W)} {resolver : Option (Resolver W)}
    (hc : candid → ∀ c, compiler = some c → CandidCompiler c)
    (he : candid → ∀ e, resolver = some e → CandidResolver e) (settings : Settings)
    (context : Option (Context W P)) (k : Stage) :
    Consistent candid ((opened compiler resolver settings context).shaders.get k) := by
  rw [get_opened]
  exact ⟨⟨hc, he⟩, fun _ _ => rfl, fun hn => absurd rfl hn, nofun, nofun⟩

end Runs

end ShaderPipeline.Studio
