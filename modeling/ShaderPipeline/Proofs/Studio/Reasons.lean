import ShaderPipeline.Proofs.Studio.Consistency

namespace ShaderPipeline.Studio

open Text Glsl Act

variable {W P V : Type} {candid : Prop} {k : Stage}

def CandidContext (link : Context W P) : Prop :=
  ∀ args w fault, ((link args).outcome w).1 = .error fault → fault.family = .link →
    allBlank fault.message = false

structure Reasoned (candid : Prop) (s : Studio W P) : Prop where
  stages : ∀ k, Consistent candid (s.shaders.get k)
  context : candid → ∀ link, s.context = some link → CandidContext link

/-- The diagnostics tell the outcome. -/
def Tells (candid : Prop) (r : Bool) (s : Studio W P) : Prop :=
  (r = true → s.diagnostics = []) ∧ (candid → r = false → s.diagnostics ≠ [])

section Stages

variable [Records W] {call : Text → Change → Act (Studio W P × W) Unit} (hcall : Overlooking call)
include hcall

theorem compile_elsewhere {p : Shader W → Prop} (hp : ∀ a b, Untouched a b → p a → p b) {j : Stage}
    (hj : j ≠ k) : Keeps (fun s => p (s.1.shaders.get j)) (compile call k) :=
  (elsewhere_get hj p).compile (hcall _ (aloof_get hp j))

theorem compile_consistent_all (k : Stage) :
    Leads (fun s => ∀ j, Consistent candid (s.1.shaders.get j)) (compile call k) fun r s =>
      (∀ j, Consistent candid (s.1.shaders.get j)) ∧
        ∀ b, r = .ok b → Known b (s.1.shaders.get k) := by
  refine fun s h => ⟨fun j => ?_, (compile_consistent hcall k s (h k)).2⟩
  by_cases hj : j = k
  · subst hj
    exact (compile_consistent hcall j s (h j)).1
  · exact compile_elsewhere hcall (fun _ _ hab h => h.untouched hab) hj s (h j)

theorem compiles_known {ks : List Stage} (hks : ks.Nodup) :
    Leads (fun s => ∀ j, Consistent candid (s.1.shaders.get j)) (ks.mapM (compile call)) fun r s =>
      (∀ j, Consistent candid (s.1.shaders.get j)) ∧
      ∀ rs, r = .ok rs → List.Forall₂ (fun k r => Known r (s.1.shaders.get k)) ks rs := by
  induction ks with
  | nil =>
      refine fun s h => ⟨h, fun rs hr => ?_⟩
      cases hr
      exact .nil
  | cons k ks ih =>
      obtain ⟨hk, hks⟩ := List.nodup_cons.mp hks
      rw [List.mapM_cons]
      refine Leads.bind (compile_consistent_all hcall k) (fun b => ?_) fun _ _ h => ⟨h.1, nofun⟩
      have hrest : Leads (fun s => (∀ j, Consistent candid (s.1.shaders.get j)) ∧
          ∀ b', (Except.ok b : Except Fault Bool) = .ok b' → Known b' (s.1.shaders.get k))
        (ks.mapM (compile call))
          fun r s => ((∀ j, Consistent candid (s.1.shaders.get j)) ∧
            ∀ rs, r = .ok rs → List.Forall₂ (fun k r => Known r (s.1.shaders.get k)) ks rs) ∧
            Known b (s.1.shaders.get k) := by
        refine fun s h => ⟨ih hks s h.1, ?_⟩
        refine Keeps.mapM (I := fun s => Known b (s.1.shaders.get k)) (fun j hj => ?_) s (h.2 b rfl)
        refine compile_elsewhere hcall (fun _ _ hab h => h.untouched hab) ?_
        rintro rfl
        exact hk hj
      refine Leads.bind hrest (fun rs => Leads.pure fun s h => ⟨h.1.1, fun rs' hr => ?_⟩)
        fun _ _ h => ⟨h.1.1, nofun⟩
      cases hr
      exact .cons h.2 (h.1.2 rs rfl)

end Stages

section Outcomes

variable {s : Studio W P} {ks : List Stage} {rs : List Bool}

theorem diagnostics_eq_nil_iff :
    s.diagnostics = [] ↔ (∀ k, (s.shaders.get k).diagnostics = []) ∧ s.linkDiagnostics = [] := by
  rw [diagnostics, List.append_eq_nil_iff, List.flatMap_eq_nil_iff]
  exact and_congr_left fun _ => ⟨fun h k => h k (Stage.mem_all k), fun h k _ => h k⟩

theorem known_of_all (h : List.Forall₂ (fun k r => Known r (s.shaders.get k)) ks rs)
    (hrs : rs.all id = true) : ∀ k ∈ ks, Known true (s.shaders.get k) := by
  induction h with
  | nil => nofun
  | @cons k r ks rs hk h ih =>
      obtain ⟨hr, hrs⟩ : r = true ∧ rs.all id = true := Bool.and_eq_true_iff.mp hrs
      subst hr
      exact List.forall_mem_cons.mpr ⟨hk, ih hrs⟩

theorem exists_known_of_not_all (h : List.Forall₂ (fun k r => Known r (s.shaders.get k)) ks rs)
    (hrs : rs.all id = false) : ∃ k ∈ ks, Known false (s.shaders.get k) := by
  induction h with
  | nil => cases hrs
  | @cons k r ks rs hk h ih =>
      cases r with
      | false => exact ⟨k, List.mem_cons_self, hk⟩
      | true =>
          obtain ⟨j, hj, hf⟩ := ih hrs
          exact ⟨j, List.mem_cons_of_mem k hj, hf⟩

end Outcomes

section Linking

variable [Records W] {call : Text → Change → Act (Studio W P × W) Unit} {s : Studio W P} {w : W}

theorem linkWith_tells {link : Context W P} (hlink : candid → CandidContext link) (args : LinkArgs) :
    Leads (fun s => s.1.diagnostics = []) (linkWith link args) fun r s =>
      ∀ b, r = .ok b → Tells candid b s.1 := by
  rintro ⟨s, w⟩ hs
  have hlinked := outcome_linkWith (s := s) (w := w) link args
  generalize (linkWith link args).outcome (s, w) = o at hlinked ⊢
  intro b hb
  cases hlinked with
  | linked =>
      cases hb
      exact ⟨fun _ => hs, nofun⟩
  | broken => cases hb
  | @refused fault v u hl hf hu =>
      dsimp only at hb
      cases hread : (readLines none (lines fault.message)).1 with
      | error f => rw [hread] at hb; cases hb
      | ok _ =>
          rw [hread] at hb
          cases hb
          refine ⟨nofun, fun hc _ hd => ?_⟩
          have hreason := hlink hc args w fault (by rw [hl]) hf
          exact readLines_ne_nil hread (exists_line_of_not_allBlank hreason)
            (List.append_eq_nil_iff.mp (diagnostics_eq_nil_iff.mp hd).2).2

theorem compiles_reasoned (hcall : Overlooking call) :
    Leads (fun s => Reasoned candid s.1 ∧ s.1.linkDiagnostics = [])
      (Stage.all.mapM (compile call)) fun r s => (Reasoned candid s.1 ∧ s.1.linkDiagnostics = []) ∧
        ∀ rs, r = .ok rs → List.Forall₂ (fun k r => Known r (s.1.shaders.get k)) Stage.all rs := by
  have hkept : Keeps (fun s => (candid → ∀ link, s.1.context = some link → CandidContext link) ∧
      s.1.linkDiagnostics = []) (Stage.all.mapM (compile call)) :=
    .mapM fun k _ => Elsewhere.compile ⟨fun _ _ _ _ _ _ h => h, fun _ _ _ _ h => h⟩
      (hcall _ ⟨fun _ _ _ _ _ h => h, fun _ _ _ _ h => h, fun _ _ _ => trivial,
        fun _ _ _ _ _ h _ => h⟩)
  intro s h
  obtain ⟨hconsistent, hknown⟩ :=
    compiles_known hcall (show Stage.all.Nodup by decide) s h.1.stages
  obtain ⟨hcontext, hlink⟩ := hkept s ⟨h.1.context, h.2⟩
  exact ⟨⟨⟨hconsistent, hcontext⟩, hlink⟩, hknown⟩

theorem compileProgram_tells (hcall : Overlooking call) :
    Leads (fun s => Reasoned candid s.1) (compileProgram call) fun r s =>
      ∀ b, r = .ok b → Tells candid b s.1 := by
  refine Leads.change_bind (R := fun s => Reasoned candid s.1 ∧ s.1.linkDiagnostics = [])
    (fun s w h => ⟨⟨h.stages, h.context⟩, rfl⟩) ?_
  refine (compiles_reasoned hcall).bind_returned fun rs => Leads.ite (fun hrs => ?_) fun hrs => ?_
  · rintro ⟨s, w⟩ ⟨⟨⟨hstages, hcontext⟩, hlink⟩, hknown⟩
    have hpassed := known_of_all (hknown rs rfl) hrs
    have hnone : s.diagnostics = [] := diagnostics_eq_nil_iff.mpr
      ⟨fun k => ((hstages k).explains (hpassed k (Stage.mem_all k))).1 rfl, hlink⟩
    rw [outcome_bind_ok _ (outcome_own (s, w))]
    dsimp only
    split
    · exact linkWith_tells (fun hc => hcontext hc _ ‹_›) _ _ hnone
    · exact fun b hb => ⟨fun _ => hnone, fun _ hf => by cases hb; cases hf⟩
  · rintro ⟨s, w⟩ ⟨⟨⟨hstages, _⟩, _⟩, hknown⟩ b hb
    obtain ⟨k, _, hk⟩ := exists_known_of_not_all (hknown rs rfl) (Bool.eq_false_iff.mpr hrs)
    cases hb
    exact ⟨nofun, fun hc _ hd => ((hstages k).explains hk).2 hc rfl ((diagnostics_eq_nil_iff.mp hd).1 k)⟩

end Linking

section Runs

variable [Records W] {device : Device W P V} {listener : Listener W P V}

structure Request.Candid (r : Request W P V) : Prop where
  stages : r.CandidStages
  context : ∀ c link, r = .setContext c → c = some link → CandidContext link

theorem Reached.reasoned {start s : Studio W P × W} {may : Request W P V → Prop}
    {tame : (W → W) → Prop} (hl : listener.OnlyReads) (hmay : ∀ r, may r → r.Unforged)
    (hcandid : candid → ∀ r, may r → r.Candid)
    (h : Reached device listener may tame start s) (hstart : Reasoned candid start.1) :
    Reasoned candid s.1 := by
  refine ⟨h.consistent hl hmay (fun hc r hr => (hcandid hc r hr).stages) hstart.stages, ?_⟩
  refine h.holds (I := fun s => candid → ∀ link, s.1.context = some link → CandidContext link)
    hstart.context (fun depth r hr => ?_) fun _ _ _ _ h => h
  exact hl.perform (fun call hcall =>
    respond_context (p := fun c => candid → ∀ link, c = some link → CandidContext link) hcall device
      fun c hr' hc link hlink => (hcandid hc r hr).context c link hr' hlink) depth

omit [Records W] in
theorem opened_reasoned {compiler : Option (Compiler W)} {resolver : Option (Resolver W)}
    {context : Option (Context W P)} (hc : candid → ∀ c, compiler = some c → CandidCompiler c)
    (he : candid → ∀ e, resolver = some e → CandidResolver e)
    (hlink : candid → ∀ link, context = some link → CandidContext link) (settings : Settings) :
    Reasoned candid (opened compiler resolver settings context) :=
  ⟨opened_consistent hc he settings context, hlink⟩

theorem perform_tells (hl : listener.OnlyReads) (device : Device W P V) (depth : Nat) :
    Leads (fun s => Reasoned candid s.1) (perform device listener depth .compileProgram) fun r s =>
      ∀ b, r = .ok b → Tells candid b s.1 :=
  hl.perform (r := .compileProgram)
    (Q := fun act => Leads (fun s => Reasoned candid s.1) act fun r s =>
      ∀ b, r = .ok b → Tells candid b s.1)
    (fun _ hcall => compileProgram_tells hcall) depth

/-- When compiling the program returns true there are no diagnostics. When it returns false there
are some, if the compilers, the resolvers and the contexts of the run say why they refuse
something. -/
theorem compileProgram_explained (hl : listener.OnlyReads) (device : Device W P V)
    (compiler : Option (Compiler W)) (resolver : Option (Resolver W)) (settings : Settings)
    (context : Option (Context W P)) (w : W) (depth : Nat) :
    (∀ s t, Reached device listener Request.Unforged (fun _ => True)
        (opened compiler resolver settings context, w) s →
      (perform device listener depth .compileProgram).outcome s = (.ok true, t) →
      t.1.diagnostics = []) ∧
    ((∀ c, compiler = some c → CandidCompiler c) → (∀ e, resolver = some e → CandidResolver e) →
      (∀ link, context = some link → CandidContext link) →
      ∀ s t r, Reached device listener (fun q => q.Unforged ∧ q.Candid) (fun _ => True)
          (opened compiler resolver settings context, w) s →
        (perform device listener depth .compileProgram).outcome s = (.ok r, t) →
        (r = true ↔ t.1.diagnostics = [])) := by
  have htells {candid : Prop} {s t : Studio W P × W} {r : Bool} (hs : Reasoned candid s.1)
      (h : (perform device listener depth .compileProgram).outcome s = (.ok r, t)) :
      Tells candid r t.1 := by
    have hs := perform_tells hl device depth s hs r
    rw [h] at hs
    exact hs rfl
  refine ⟨fun s t hs h => ?_, fun hc he hlink s t r hs h => ?_⟩
  · have hreasoned := hs.reasoned hl (fun _ h => h) False.elim
      (opened_reasoned False.elim False.elim False.elim settings)
    exact (htells hreasoned h).1 rfl
  · have hopened : Reasoned True (opened compiler resolver settings context) :=
      opened_reasoned (fun _ => hc) (fun _ => he) (fun _ => hlink) settings
    have hreasoned := hs.reasoned hl (fun _ h => h.1) (fun _ _ h => h.2) hopened
    obtain ⟨hpassed, hrefused⟩ := htells hreasoned h
    refine ⟨hpassed, fun hnone => ?_⟩
    cases r with
    | true => rfl
    | false => exact absurd hnone (hrefused trivial rfl)

end Runs

namespace Bench

/-- It refuses what holds the mark, and does not say why. -/
def silentCompiler (mark : Text) : Compiler Bench :=
  { compiler mark with infoLog := fun _ => pure [] }

def rejectedStudio (c : Compiler Bench) : Studio Bench Nat × Bench :=
  performAll device Listener.onlooker 1 [.setCode .vertex ['x']]
    (opened (some c) none {} (some context), {})

theorem rejectedStudio_reached (c : Compiler Bench) {may : Request Bench Nat Unit → Prop}
    (hmay : may (.setCode .vertex ['x'])) : Reached device Listener.onlooker may (fun _ => True)
      (opened (some c) none {} (some context), {}) (rejectedStudio c) := by
  refine Reached.start.performAll 1 fun r hr => ?_
  rw [List.mem_singleton.mp hr]
  exact hmay

theorem compileProgram_explained_refusal :
    (∃ t, (perform device Listener.onlooker 1 .compileProgram).outcome
      (rejectedStudio (compiler ['x'])) = (.ok false, t) ∧ t.1.diagnostics ≠ []) ∧
    ∃ t, (perform device Listener.onlooker 1 .compileProgram).outcome
      (rejectedStudio (compiler ['y'])) = (.ok true, t) ∧ t.1.diagnostics = [] := by
  have hcandid (mark : Text) : ∀ c, some (compiler mark) = some c → CandidCompiler c := by
    rintro c hc x w log hlog
    cases hc
    cases hlog
    decide
  have hlink : ∀ link, some context = some link → CandidContext link := by
    rintro link hlink args w fault hfault
    cases hlink
    cases hfault
  have hrefused : ((perform device Listener.onlooker 1 .compileProgram).outcome
      (rejectedStudio (compiler ['x']))).1 = .ok false := by decide +kernel
  have hpassed : ((perform device Listener.onlooker 1 .compileProgram).outcome
      (rejectedStudio (compiler ['y']))).1 = .ok true := by decide +kernel
  obtain ⟨_, hexplained⟩ := compileProgram_explained Listener.onlooker_onlyReads device
    (some (compiler ['x'])) none {} (some context) {} 1
  obtain ⟨hquiet, _⟩ := compileProgram_explained Listener.onlooker_onlyReads device
    (some (compiler ['y'])) none {} (some context) {} 1
  refine ⟨⟨_, Prod.ext hrefused rfl, fun hnone => ?_⟩, _, Prod.ext hpassed rfl, ?_⟩
  · have hreached : Reached device Listener.onlooker (fun q => q.Unforged ∧ q.Candid)
        (fun _ => True) (opened (some (compiler ['x'])) none {} (some context), {})
        (rejectedStudio (compiler ['x'])) :=
      rejectedStudio_reached _ ⟨trivial, trivial, nofun⟩
    have htrue := (hexplained (hcandid ['x']) nofun hlink _ _ false hreached
      (Prod.ext hrefused rfl)).mpr hnone
    cases htrue
  · exact hquiet _ _ (rejectedStudio_reached (compiler ['y']) trivial) (Prod.ext hpassed rfl)

/-- A refusal that no one explains. -/
theorem rejectedStudio_silent :
    Reached device Listener.onlooker Request.Unforged (fun _ => True)
      (opened (some (silentCompiler ['x'])) none {} (some context), {})
      (rejectedStudio (silentCompiler ['x'])) ∧
    let o := (perform device Listener.onlooker 1 .compileProgram).outcome
      (rejectedStudio (silentCompiler ['x']))
    o.1 = .ok false ∧ o.2.1.diagnostics = [] :=
  ⟨rejectedStudio_reached _ trivial, by decide +kernel, by decide +kernel⟩

end Bench

end ShaderPipeline.Studio
