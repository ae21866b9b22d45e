import ShaderPipeline.Proofs.Studio.Edited
import ShaderPipeline.Proofs.Studio.Uniforms

namespace ShaderPipeline.Studio

open Text Glsl Act ShaderPipeline.Uniform Uniform.NumberArray

variable {W P V : Type}

section Declared

variable {code name : Text}

theorem liveLines_of_blank (h : allBlank code = true) : ∀ l ∈ liveLines code, l = [] := by
  have hslash : '/' ∉ code := slash_not_mem_of_allBlank h
  have hlines : liveLines code = (lines code).map trim :=
    liveLines_of_no_mark (fun hi => hslash (hi.subset (by simp [lineMark])))
      fun hi => hslash (hi.subset (by simp [openMark]))
  intro l hl
  rw [hlines] at hl
  obtain ⟨line, hline, rfl⟩ := List.mem_map.mp hl
  rw [trim_eq_nil_iff, allBlank_iff]
  exact fun c hc => allBlank_iff.mp h c ((infix_of_mem_lines hline).subset hc)

theorem not_allBlank_of_declared (h : declaredType? code name ≠ none) : allBlank code = false := by
  refine Bool.eq_false_iff.mpr fun hb => h ?_
  rw [declaredType?]
  cases hscan : scan code with
  | error fault => rfl
  | ok i =>
      have hwritten : i.Written (· = []) :=
        scan_good (fun hb hi => List.infix_nil.mp (hb ▸ hi)) (liveLines_of_blank hb) hscan
      have hnone : i.uniforms = [] := by
        refine List.eq_nil_iff_forall_not_mem.mpr fun u hu => ?_
        have hname := (hwritten.uniforms u hu).name
        exact hname.1.1 hname.2
      change (i.uniforms.find? (·.name == name)).map (·.type) = none
      rw [hnone]
      rfl

variable {s : Studio W P} {type : Text}

theorem elementIn_cases (among : Stage → Prop)
    (hdeclared : ∃ k, among k ∧ declaredType? (s.shaders.get k).code name = some type)
    (hsame : ∀ k other, among k → declaredType? (s.shaders.get k).code name = some other →
      other = type) :
    elementIn s name = .ofType type ∨ ∃ k other, ¬among k ∧
      declaredType? (s.shaders.get k).code name = some other ∧ elementIn s name = .ofType other := by
  obtain ⟨k, _, hk⟩ := hdeclared
  rw [elementIn]
  cases hfirst : Stage.all.findSome? fun k => declaredType? (s.shaders.get k).code name with
  | none =>
      have hnone := List.findSome?_eq_none_iff.mp hfirst k (Stage.mem_all k)
      rw [hk] at hnone
      cases hnone
  | some other =>
      obtain ⟨j, _, hj⟩ := List.exists_of_findSome?_eq_some hfirst
      by_cases hamong : among j
      · exact .inl (congrArg Element.ofType (hsame j other hamong hj))
      · exact .inr ⟨j, other, hamong, hj, rfl⟩

theorem elementIn_of_others (hothers : ∀ k other, k ≠ .feedbackVertex →
      declaredType? (s.shaders.get k).code name = some other → other = type)
    (hdeclared : ∃ k, declaredType? (s.shaders.get k).code name = some type) :
    elementIn s name =
      .ofType ((declaredType? (s.shaders.get .feedbackVertex).code name).getD type) := by
  cases hfeedback : declaredType? (s.shaders.get .feedbackVertex).code name with
  | some other =>
      rw [elementIn, Stage.all, List.findSome?_cons, hfeedback]
      rfl
  | none =>
      obtain ⟨k, hk⟩ := hdeclared
      have hk' : k ≠ .feedbackVertex := by
        rintro rfl
        rw [hfeedback] at hk
        cases hk
      refine (elementIn_cases (· ≠ .feedbackVertex) ⟨k, hk', hk⟩ hothers).resolve_right ?_
      rintro ⟨j, other, hj, hdeclared, _⟩
      rw [not_not.mp hj, hfeedback] at hdeclared
      cases hdeclared

end Declared

/-- A text is compiled from code, and its handle is not zero. -/
structure Textual (a : Shader W) : Prop where
  proper : ∀ c, a.compiler = some c → Proper c
  coded : allBlank a.code = true → a.compiledText = []

/-- The program was linked from every stage that has a text, but for the feedback stage. -/
structure Fitting (s : Studio W (P × LinkArgs)) : Prop where
  stages : ∀ j, Textual (s.shaders.get j)
  context : ∀ c, s.context = some c → ∃ link : Context W P, c = labelled link
  program : ∀ p args, s.program = some (p, args) → ∀ j, j ≠ .feedbackVertex →
    (s.shaders.get j).compiledText ≠ [] → j ∈ linkedStages args

section Fitting

variable {k : Stage} {s : Studio W (P × LinkArgs)} {args : LinkArgs}

theorem Textual.alike {a b : Shader W} (h : Textual a) (hab : Alike a b) : Textual b where
  proper c hc := h.proper c (hab.compiler.symm.trans hc)
  coded hb := hab.compiledText.trans (h.coded (hab.code ▸ hb))

theorem Fitting.updateShader (h : Fitting s) {f : Shader W → Shader W}
    (hk : Textual (f (s.shaders.get k)))
    (htext : (f (s.shaders.get k)).compiledText ≠ [] → (s.shaders.get k).compiledText ≠ []) :
    Fitting (s.updateShader k f) := by
  refine ⟨fun j => ?_, h.context, fun p args hp j hj ht => h.program p args hp j hj ?_⟩
  · rw [get_updateShader]
    split
    · next hjk => exact hjk ▸ hk
    · exact h.stages j
  · rw [get_updateShader] at ht
    split at ht
    · next hjk =>
        rw [hjk] at ht ⊢
        exact htext ht
    · exact ht

theorem Fitting.zeroed (h : Fitting s) (k : Stage) (x : Int) : Fitting (zeroed k x s) := by
  rw [Studio.zeroed]
  split
  · exact h.updateShader ⟨(h.stages k).proper, fun _ => rfl⟩ (absurd rfl)
  · exact h

theorem Fitting.exchanged (h : Fitting s) (k : Stage) (x : Int) : Fitting (exchanged k x s) := by
  have hhandle : Fitting (s.updateShader k fun a => { a with handle := x, scanned := none }) :=
    h.updateShader ⟨(h.stages k).proper, (h.stages k).coded⟩ id
  have hposted := hhandle.updateShader (f := posted k .handle)
    ((hhandle.stages k).alike ⟨rfl, rfl, rfl, rfl, rfl, rfl⟩) id
  exact ⟨hposted.stages, hposted.context, nofun⟩

theorem Fitting.recoded (h : Fitting s) (k : Stage) (code : Text) :
    Fitting (Studio.zeroed k 0 (s.updateShader k (Studio.recoded code))) := by
  rw [zeroed_zero, updateShader_updateShader]
  exact h.updateShader ⟨(h.stages k).proper, fun _ => rfl⟩ (absurd rfl)

theorem Fitting.linked (h : Fitting s) (ha : linkArgs? s = some args) {j : Stage}
    (hj : j ≠ .feedbackVertex) (ht : (s.shaders.get j).compiledText ≠ []) :
    j ∈ linkedStages args := by
  have hlater (texts : List (Stage × Text)) (hs : texts =
      (laterStages.map fun k => (k, (s.shaders.get k).compiledText)).filter (·.2 != []))
      (hvertex : j ≠ .vertex) : j ∈ texts.map (·.1) := by
    have hmem : j ∈ laterStages := by
      cases j with
      | feedbackVertex => exact absurd rfl hj
      | vertex => exact absurd rfl hvertex
      | geometry | tessControl | tessEvaluation | fragment => decide
    subst hs
    refine List.mem_map.mpr ⟨(j, (s.shaders.get j).compiledText), List.mem_filter.mpr ⟨?_, ?_⟩, rfl⟩
    · exact List.mem_map.mpr ⟨j, hmem, rfl⟩
    · exact bne_iff_ne.mpr ht
  unfold linkArgs? at ha
  extract_lets others vertex feedback at ha
  by_cases hvertex : j = .vertex
  · subst hvertex
    have hcode : (!allBlank vertex.code) = true := by
      rw [Bool.not_eq_true', ← Bool.not_eq_true]
      exact fun hb => ht ((h.stages .vertex).coded hb)
    rw [if_pos hcode] at ha
    cases ha
    exact List.mem_cons_self
  · split at ha
    case isTrue =>
        cases ha
        exact List.mem_cons_of_mem _ (hlater _ rfl hvertex)
    case isFalse =>
        split at ha
        case isTrue =>
            cases ha
            exact List.mem_cons_of_mem _ (hlater _ rfl hvertex)
        case isFalse => cases ha

variable [Records W]

theorem fitting_indifferent : Indifferent (fun _ _ => True)
    fun s : Studio W (P × LinkArgs) × W => Fitting s.1 where
  shader k f s _ hf h := h.updateShader ((h.stages k).alike (hf _)) fun ht => by
    rwa [(hf _).compiledText] at ht
  links _ _ _ h := ⟨h.stages, h.context, h.program⟩
  world _ _ _ _ h := h
  reports _ _ _ := trivial
  expand _ _ _ _ _ h _ := h

omit [Records W] in
theorem fitting_portable : Portable fun s : Studio W (P × LinkArgs) × W => Fitting s.1 := by
  rintro s bin program w v (rfl | rfl) h
  · exact ⟨h.stages, h.context, h.program⟩
  · exact ⟨h.stages, h.context, nofun⟩

omit [Records W] in
theorem fitting_yielding : Yielding fun s : Studio W (P × LinkArgs) × W => Fitting s.1 where
  zeroed k _ _ h := h.zeroed k 0
  exchanged k _ _ h := h.exchanged k 0
  recoded k code _ _ h := h.recoded k code
  unjudged k _ _ h := h.updateShader ⟨(h.stages k).proper, (h.stages k).coded⟩ id

theorem fitting_open (k : Stage) : Indifferent (fun _ _ => True)
    fun s : Studio W (P × LinkArgs) × W =>
      Fitting s.1 ∧ s.1.program = none ∧ allBlank (s.1.shaders.get k).code = false where
  shader j f s w hf h := by
    refine ⟨fitting_indifferent.shader j f s w hf h.1, h.2.1, ?_⟩
    rw [get_updateShader]
    split
    · rw [(hf _).code]; exact h.2.2
    · exact h.2.2
  links s w ds h := ⟨fitting_indifferent.links s w ds h.1, h.2⟩
  world _ _ _ _ h := h
  reports _ _ _ := trivial
  expand _ _ _ _ _ h _ := h

end Fitting

section Requests

variable [Records W] {call : Text → Change → Act (Studio W (P × LinkArgs) × W) Unit}

theorem setHandle_opens (hcall : Onlooking call) (k : Stage) {x : Int} (hx : x ≠ 0) :
    Leads (fun s => (Fitting s.1 ∧ (s.1.shaders.get k).handle = 0) ∧
      allBlank (s.1.shaders.get k).code = false) (setHandle call k x)
      fun _ s => Fitting s.1 ∧ s.1.program = none ∧ allBlank (s.1.shaders.get k).code = false := by
  rintro ⟨s, w⟩ ⟨⟨h, h0⟩, hcode⟩
  have hcode' : allBlank ((exchanged k x (zeroed k x s)).shaders.get k).code = false := by
    rw [get_exchanged, get_zeroed, if_neg hx]
    exact hcode
  rw [outcome_setHandle, if_neg fun he => hx (he.trans h0)]
  exact hcall.tell (fitting_open k) k .handle s _ ⟨(h.zeroed k x).exchanged k x, rfl, hcode'⟩

theorem compileWith_fitting (hcall : Onlooking call) {c : Compiler W} (hc : Proper c) (k : Stage)
    (source : Text) : Leads (fun s => (Fitting s.1 ∧ (s.1.shaders.get k).handle = 0) ∧
      allBlank (s.1.shaders.get k).code = false) (compileWith call c k source)
      fun r s => Fitting s.1 ∧ (r = .ok true →
        s.1.program = none ∧ allBlank (s.1.shaders.get k).code = false) := by
  have hI : Indifferent (fun _ _ => True) fun s : Studio W (P × LinkArgs) × W =>
      (Fitting s.1 ∧ (s.1.shaders.get k).handle = 0) ∧ allBlank (s.1.shaders.get k).code = false :=
    (fitting_indifferent.withShader fun _ _ hab hh => hab.handle.trans hh).withShader
      (p := fun a => allBlank a.code = false) fun _ _ hab h => by rwa [hab.code]
  refine fitting_indifferent.compileWith (hc k.token) (V := fun _ _ => True)
    (Leads.returned (hI.outside fun _ => trivial) (fun _ _ h => h) fun _ _ h => h.1.1) (fun x => ?_)
    (fun x s h => h.1.1) (fun x hx => ?_) (fitting_open k) fun s w h => ?_
  · exact Leads.mono (hI.submit k (fun _ => trivial) (fun _ => trivial) fun _ => trivial)
      (fun _ h => h) fun _ _ h => ⟨h, fun _ => trivial⟩
  · exact (setHandle_opens hcall k hx).mono (fun _ h => h.1) fun _ _ h => ⟨h.1, fun _ => h.2⟩
  · obtain ⟨h, hnone, hcode⟩ := h
    refine ⟨⟨fun j => ?_, h.context, fun p args hp => ?_⟩, hnone, ?_⟩
    · rw [get_updateShader]
      split
      · next hjk =>
          rw [hjk]
          refine ⟨(h.stages k).proper, fun hb => ?_⟩
          rw [hcode] at hb
          cases hb
      · exact h.stages j
    · cases hnone.symm.trans hp
    · rw [get_updateShader_self]; exact hcode

theorem compile_fitting (hcall : Onlooking call) (k : Stage) :
    Keeps (fun s => Fitting s.1) (compile call k) := by
  refine Leads.mono (fitting_indifferent.compile (B := fun _ => True) (fun _ _ _ => trivial)
    (fun r s w h _ => ⟨?_, fun _ => trivial⟩) fun c source s h => ?_) (fun _ h => h)
    fun _ _ h => h.1
  · exact h.updateShader ⟨(h.stages k).proper, (h.stages k).coded⟩ id
  · have hproper := (h.1.stages k).proper c h.2.2.compiler
    have hwith := compileWith_fitting hcall hproper k source s ⟨⟨h.1, h.2.1⟩, h.2.2.hasCode⟩
    exact ⟨hwith.1, fun _ => trivial⟩

theorem linkWith_fitting (link : Context W P) (args : LinkArgs) :
    Leads (fun s => Fitting s.1 ∧ linkArgs? s.1 = some args) (linkWith (labelled link) args)
      fun _ s => Fitting s.1 := by
  refine fitting_indifferent.linkWith (outside_labelled (fun _ _ _ h => h) link args)
    (fun q s w h => ?_) fun _ _ h => h.1.1
  refine ⟨h.1.1.stages, h.1.1.context, fun p args' hp => ?_⟩
  cases hp
  obtain rfl : args' = args := h.2 _ rfl
  exact fun j => h.1.1.linked h.1.2

theorem compileProgram_fitting (hcall : Onlooking call) :
    Keeps (fun s => Fitting s.1) (compileProgram call) := by
  refine fitting_indifferent.compileProgram (J := fun _ => True) ?_ fun link args s h => ?_
  · exact Leads.mono (Keeps.mapM fun k _ => compile_fitting hcall k) (fun _ h => h)
      fun _ _ h => ⟨h, fun _ _ _ => trivial⟩
  · obtain ⟨h, _, _, hc, ha⟩ := h
    obtain ⟨link, rfl⟩ := h.context link hc
    exact linkWith_fitting link args s ⟨h, ha⟩

theorem respond_fitting (device : Device W (P × LinkArgs) V) (hcall : Onlooking call)
    {r : Request W (P × LinkArgs) V} (hr : r.Fair) :
    Keeps (fun s => Fitting s.1) (respond device call r) := by
  refine fitting_yielding.respond fitting_indifferent hcall fitting_portable device
    (fun k x he => ?_) (fun k c he s w h => ?_) (fun k e _ s w h => ?_) (fun c he s w h => ?_)
    (compile_fitting hcall) (compileProgram_fitting hcall)
  · cases he
    exact hr
  · cases he
    exact h.updateShader ⟨hr, (h.stages k).coded⟩ id
  · exact h.updateShader ⟨(h.stages k).proper, (h.stages k).coded⟩ id
  · cases he
    exact ⟨h.stages, hr, h.program⟩

theorem compileProgram_backs (hcall : Onlooking call) :
    Leads (fun s => Kept [] s.1) (compileProgram call) fun r s => ∀ b, r = .ok b →
      b = true → ∀ j, Backed (s.1.shaders.get j) := by
  rw [compileProgram]
  refine Leads.bind_returned (R := fun _ s => Kept [] s.1)
    (fun s h => ⟨h.stages, h.backed, h.context, h.program⟩) fun _ => ?_
  refine Leads.bind_returned (compiles_kept hcall Stage.all) fun verdicts => ?_
  refine Leads.ite (fun hall => ?_) fun _ => Leads.pure fun s h b hb ht => ?_
  · refine Leads.mono (P := fun s => ∀ j, Backed (s.1.shaders.get j))
      (Q := fun _ s => ∀ j, Backed (s.1.shaders.get j)) ?_ (fun s h j => ?_) fun _ _ h _ _ _ => h
    · refine Keeps.bind keeps_own fun s => ?_
      split
      · exact Portable.linkWith (fun _ _ _ _ _ _ h => h) (fun _ _ _ h => h) (fun _ _ _ h => h) _ _
      · exact .pure _
    · exact (h.2 verdicts rfl hall).backed j
        (List.mem_append_left _ (List.mem_reverse.mpr (Stage.mem_all j)))
  · cases hb
    cases ht

end Requests

section Runs

variable [Records W] {device : Device W (P × LinkArgs) V} {listener : Listener W (P × LinkArgs) V}

theorem perform_fitting (hl : listener.OnlyReads) (depth : Nat) {r : Request W (P × LinkArgs) V}
    (hr : r.Fair) : Keeps (fun s => Fitting s.1) (perform device listener depth r) := by
  obtain ⟨call, hcall, he⟩ := hl.exists_call device depth
  rw [he]
  exact respond_fitting device hcall.onlooking hr

theorem perform_backs (hl : listener.OnlyReads) (depth : Nat) {s t : Studio W (P × LinkArgs) × W}
    (h : Kept [] s.1)
    (ht : (perform device listener depth .compileProgram).outcome s = (.ok true, t)) (j : Stage) :
    Backed (t.1.shaders.get j) := by
  have hbacks : Leads (fun s => Kept [] s.1) (perform device listener depth .compileProgram)
      fun r s => ∀ b, r = .ok b → b = true → ∀ j, Backed (s.1.shaders.get j) := by
    obtain ⟨call, hcall, he⟩ := hl.exists_call device depth
    rw [he]
    exact compileProgram_backs hcall.onlooking
  have hbacked := hbacks s h
  rw [ht] at hbacked
  exact hbacked true rfl rfl j

omit [Records W] in
theorem opened_fitting {compiler : Option (Compiler W)} (hc : ∀ c, compiler = some c → Proper c)
    (resolver : Option (Resolver W)) (settings : Settings) (context : Option (Context W P)) :
    Fitting (opened compiler resolver settings (context.map labelled)) := by
  refine ⟨fun k => ?_, fun c h => ?_, nofun⟩
  · rw [get_opened]
    exact ⟨hc, fun _ => rfl⟩
  · exact (Option.map_eq_some_iff.mp h).imp fun _ h => h.2.symm

/-- Let the stages that the program was linked from declare a uniform with one type. Then its
elements are of this type, or of one that a stage gives it from which the program was not linked. If
listeners only look on, such a stage is the feedback stage, or one whose text was lost when a
listener failed in the middle of its compilation; and without the latter it is the feedback stage
alone that decides, if it declares the uniform at all. -/
theorem elements_of_linked {compiler : Option (Compiler W)} {resolver : Option (Resolver W)}
    {settings : Settings} {context : Option (Context W P)} {w : W}
    {s t : Studio W (P × LinkArgs) × W} {p : P} {args : LinkArgs} {name type : Text} {depth : Nat}
    (h : Reached device listener (fun _ => True) (fun _ => True)
      (opened compiler resolver settings (context.map labelled), w) s)
    (ht : (perform device listener depth .compileProgram).outcome s = (.ok true, t))
    (hp : t.1.program = some (p, args)) (he : device.exposes (p, args) name = true)
    (hdeclared : ∃ k ∈ linkedStages args,
      declaredType? (t.1.shaders.get k).code name = some type)
    (hsame : ∀ k other, k ∈ linkedStages args →
      declaredType? (t.1.shaders.get k).code name = some other → other = type) :
    let e := elementIn t.1 name
    WritesAs device listener t (p, args) name e ∧
    (e = .ofType type ∨ ∃ k other, k ∉ linkedStages args ∧
      declaredType? (t.1.shaders.get k).code name = some other ∧ e = .ofType other) ∧
    (listener.OnlyReads → (∀ c, compiler = some c → Proper c) →
      Reached device listener Request.Fair (fun _ => True)
        (opened compiler resolver settings (context.map labelled), w) s →
      (∀ k, k ∉ linkedStages args → declaredType? (t.1.shaders.get k).code name ≠ none →
        k = .feedbackVertex ∨
          (t.1.shaders.get k).handle ≠ 0 ∧ (t.1.shaders.get k).compiledText = []) ∧
      ((∀ k, (t.1.shaders.get k).handle ≠ 0 → (t.1.shaders.get k).compiledText ≠ []) →
        e = .ofType ((declaredType? (t.1.shaders.get .feedbackVertex).code name).getD type))) := by
  intro e
  have hreached : Reached device listener (fun _ => True) (fun _ => True)
      (opened compiler resolver settings (context.map labelled), w) t := by
    have hrequest := h.request depth .compileProgram trivial
    rwa [ht] at hrequest
  refine ⟨writesAs_elementIn hreached.wellRead hp he,
    elementIn_cases (· ∈ linkedStages args) hdeclared hsame, fun hl hc hfair => ?_⟩
  have hkept : Kept [] s.1 := hfair.holds (I := fun s => Kept [] s.1)
    (opened_kept hc resolver settings context) (fun depth r hr => perform_kept hl depth hr)
    fun _ _ _ _ h => h
  have hfitting : Fitting t.1 := by
    have hs : Fitting s.1 := hfair.holds (I := fun s => Fitting s.1)
      (opened_fitting hc resolver settings context) (fun depth r hr => perform_fitting hl depth hr)
      fun _ _ _ _ h => h
    have hcompiled : Keeps (fun s => Fitting s.1) (perform device listener depth .compileProgram) :=
      perform_fitting hl depth trivial
    have hs' := hcompiled s hs
    rwa [ht] at hs'
  have hunlinked (k : Stage) (hk : k ∉ linkedStages args)
      (hd : declaredType? (t.1.shaders.get k).code name ≠ none) : k = .feedbackVertex ∨
        (t.1.shaders.get k).handle ≠ 0 ∧ (t.1.shaders.get k).compiledText = [] := by
    by_cases hfeedback : k = .feedbackVertex
    · exact .inl hfeedback
    · refine .inr ⟨(perform_backs hl depth hkept ht k).resolve_right ?_, ?_⟩
      · rw [not_allBlank_of_declared hd]
        exact Bool.false_ne_true
      · by_contra htext
        exact hk (hfitting.program p args hp k hfeedback htext)
  refine ⟨hunlinked, fun htexts => elementIn_of_others (fun k other hk hother => ?_) ?_⟩
  · by_cases hlinked : k ∈ linkedStages args
    · exact hsame k other hlinked hother
    · have hd : declaredType? (t.1.shaders.get k).code name ≠ none := by
        rw [hother]
        exact Option.some_ne_none other
      obtain ⟨hhandle, htext⟩ := (hunlinked k hlinked hd).resolve_left hk
      exact absurd htext (htexts k hhandle)
  · obtain ⟨k, _, hk⟩ := hdeclared
    exact ⟨k, hk⟩

end Runs

namespace Tape

def pairRequests : List (Request Tape (Unit × LinkArgs) Unit) := [
  .setCode .feedbackVertex "uniform int u;\nvoid main() \x7b\x7d".toList,
  .setCode .vertex "uniform float u;\nvoid main() \x7b\x7d".toList]

/-- A feedback stage beside a vertex stage: both are compiled, and only one is linked. -/
def pairStudio : Studio Tape (Unit × LinkArgs) × Tape :=
  performAll device Listener.idle 1 pairRequests
    (opened (some compiler) none {} (some (labelled context)), {})

def linkedPair : Studio Tape (Unit × LinkArgs) × Tape :=
  ((perform device Listener.idle 1 .compileProgram).outcome pairStudio).2

def pairArgs : LinkArgs := ⟨"uniform float u;\nvoid main() \x7b\x7d".toList, [], none⟩

def sesqui : NumberArray := ⟨[1], [.binary (.finite false 3 2)]⟩

theorem compiler_returns_proper : Proper compiler := by
  intro token w x hx
  cases hx
  exact Int.natCast_ne_zero.mpr (Nat.succ_ne_zero w.handles)

theorem pairStudio_reached {may : Request Tape (Unit × LinkArgs) Unit → Prop}
    (hmay : ∀ k code, may (.setCode k code)) :
    Reached device Listener.idle may (fun _ => True)
      (opened (some compiler) none {} ((some context).map labelled), {}) pairStudio := by
  refine Reached.start.performAll 1 fun r hr => ?_
  simp only [pairRequests, List.mem_cons, List.not_mem_nil, or_false] at hr
  rcases hr with rfl | rfl
  all_goals exact hmay _ _

theorem linkedPair_program : linkedPair.1.program = some ((), pairArgs) := by decide +kernel

theorem declaredType?_vertex :
    declaredType? (linkedPair.1.shaders.get .vertex).code ['u'] = some "float".toList := by
  decide +kernel

theorem elements_of_linked_pair :
    (∃ t, (perform device Listener.idle 1 .compileProgram).outcome pairStudio = (.ok true, t)) ∧
    linkedPair.1.program = some ((), pairArgs) ∧
    (∃ k ∈ linkedStages pairArgs,
      declaredType? (linkedPair.1.shaders.get k).code ['u'] = some "float".toList) ∧
    (∀ k other, k ∈ linkedStages pairArgs →
      declaredType? (linkedPair.1.shaders.get k).code ['u'] = some other →
      other = "float".toList) ∧
    elementIn linkedPair.1 ['u'] = .int := by
  have ht : (perform device Listener.idle 1 .compileProgram).outcome pairStudio
      = (.ok true, linkedPair) := Prod.ext (by decide +kernel) rfl
  have hstages : linkedStages pairArgs = [.vertex] := rfl
  have hdeclared : ∃ k ∈ linkedStages pairArgs,
      declaredType? (linkedPair.1.shaders.get k).code ['u'] = some "float".toList :=
    ⟨.vertex, by rw [hstages]; exact List.mem_singleton_self _, declaredType?_vertex⟩
  have hsame : ∀ k other, k ∈ linkedStages pairArgs →
      declaredType? (linkedPair.1.shaders.get k).code ['u'] = some other →
      other = "float".toList := by
    intro k other hk hother
    rw [hstages] at hk
    rw [List.mem_singleton.mp hk, declaredType?_vertex] at hother
    exact (Option.some.inj hother).symm
  have htexts : ∀ k, (linkedPair.1.shaders.get k).handle ≠ 0 →
      (linkedPair.1.shaders.get k).compiledText ≠ [] := by
    intro k
    cases k <;> decide +kernel
  have hproper : ∀ c, some compiler = some c → Proper c := by
    rintro c ⟨⟩
    exact compiler_returns_proper
  obtain ⟨_, _, hfair⟩ := elements_of_linked (pairStudio_reached fun _ _ => trivial) ht
    linkedPair_program rfl hdeclared hsame
  have helement := (hfair Listener.idle_onlyReads hproper
    (pairStudio_reached fun _ _ => trivial)).2 htexts
  refine ⟨⟨_, ht⟩, linkedPair_program, hdeclared, hsame, helement.trans ?_⟩
  decide +kernel

/-- The float of the vertex stage is written as an integer, as the feedback stage has it. -/
theorem rounded_by_feedback :
    ((perform device Listener.idle 1 .compileProgram).outcome pairStudio).1 = .ok true ∧
    linkedPair.1.program = some ((), pairArgs) ∧ linkedStages pairArgs = [.vertex] ∧
    declaredType? (linkedPair.1.shaders.get .vertex).code ['u'] = some "float".toList ∧
    let o := (perform device Listener.idle 1 (.setUniform ['u'] (.numbers sesqui))).outcome
      linkedPair
    o.1 = .ok true ∧ o.2.2.written = [[1, 0, 0, 0]] ∧
      sesqui.bytes Scalar.casts (.ofType "float".toList) = [0, 0, 192, 63] :=
  ⟨by decide +kernel, linkedPair_program, rfl, declaredType?_vertex, by decide +kernel,
    by decide +kernel, by decide +kernel⟩

end Tape

end ShaderPipeline.Studio
