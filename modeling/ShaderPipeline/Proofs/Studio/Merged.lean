import ShaderPipeline.Proofs.Glsl.Joined
import ShaderPipeline.Proofs.Studio.Neighbours

namespace ShaderPipeline.Studio

open Text Glsl Act

variable {W P V : Type}

/-- What the stage has read off a source is what the source declares. -/
def Remembers (a : Shader W) : Prop := ∀ code i, a.scanned = some (code, i) → scan code = .ok i

def WellRead (s : Studio W P × W) : Prop := ∀ k, Remembers (s.1.shaders.get k)

def joinedCode (s : Studio W P) : Text := unlines (Stage.all.map fun k => (s.shaders.get k).code)

section Stages

variable {k : Stage} {s : Studio W P} {w : W}

theorem remembers_of_none {a : Shader W} (h : a.scanned = none) : Remembers a := by
  intro code i hi
  rw [h] at hi
  cases hi

theorem WellRead.updateShader (h : WellRead (s, w)) {f : Shader W → Shader W}
    (hf : Remembers (s.shaders.get k) → Remembers (f (s.shaders.get k))) (v : W) :
    WellRead (s.updateShader k f, v) := by
  intro j
  by_cases hj : j = k
  · subst hj
    rw [get_updateShader_self]
    exact hf (h j)
  · rw [get_updateShader_of_ne s f hj]
    exact h j

theorem portable_wellRead : Portable (W := W) (P := P) WellRead := fun _ _ _ _ _ _ h => h

theorem WellRead.zeroed (h : WellRead (s, w)) (k : Stage) (x : Int) :
    WellRead (zeroed k x s, w) := by
  rw [Studio.zeroed]
  split
  · exact h.updateShader (fun h => h) w
  · exact h

theorem WellRead.exchanged (h : WellRead (s, w)) (k : Stage) (x : Int) :
    WellRead (exchanged k x s, w) := by
  have hforgotten :
      WellRead (s.updateShader k fun a => { a with handle := x, scanned := none }, w) :=
    h.updateShader (fun _ => remembers_of_none rfl) w
  exact portable_wellRead _ _ _ w w (.inr rfl)
    (hforgotten.updateShader (f := posted k .handle) (fun h => h) w)

theorem outcome_interface (h : WellRead (s, w)) (k : Stage) :
    ∃ t, (interface k).outcome (s, w) = (scan (s.shaders.get k).code, (t, w)) ∧
      WellRead (t, w) ∧ ∀ j, (t.shaders.get j).code = (s.shaders.get j).code := by
  have hagain : ∃ t, (interface.readAgain k (s.shaders.get k).code).outcome (s, w) =
      (scan (s.shaders.get k).code, (t, w)) ∧ WellRead (t, w) ∧
        ∀ j, (t.shaders.get j).code = (s.shaders.get j).code := by
    cases hscan : scan (s.shaders.get k).code with
    | error fault =>
        refine ⟨s, ?_, h, fun _ => rfl⟩
        rw [interface.readAgain, hscan]
        rfl
    | ok i =>
        refine ⟨s.updateShader k fun a => { a with scanned := some ((s.shaders.get k).code, i) },
          ?_, ?_, fun j => ?_⟩
        · rw [interface.readAgain, hscan]
          rfl
        · refine h.updateShader (fun _ code j hj => ?_) w
          obtain ⟨rfl, rfl⟩ := Prod.mk.inj (Option.some.inj hj)
          exact hscan
        · rw [get_updateShader]
          split <;> rfl
  rw [interface, outcome_bind_ok (a := shader k) _ rfl]
  cases hscanned : (s.shaders.get k).scanned with
  | none => exact hagain
  | some read =>
      obtain ⟨code, i⟩ := read
      dsimp only
      by_cases hcode : code = (s.shaders.get k).code
      · rw [if_pos hcode]
        have hscan := h k code i hscanned
        rw [hcode] at hscan
        exact ⟨s, by rw [hscan]; rfl, h, fun _ => rfl⟩
      · rw [if_neg hcode]
        exact hagain

theorem interface_wellRead (k : Stage) : Keeps WellRead (interface (W := W) (P := P) k) := by
  rintro ⟨s, w⟩ h
  obtain ⟨t, ht, hread, _⟩ := outcome_interface h k
  rw [ht]
  exact hread

theorem outcome_interfaces (h : WellRead (s, w)) (ks : List Stage) :
    ∃ t, (ks.mapM interface).outcome (s, w) =
      (ks.mapM fun k => scan (s.shaders.get k).code, (t, w)) := by
  induction ks generalizing s with
  | nil => exact ⟨s, rfl⟩
  | cons k ks ih =>
      obtain ⟨t, ht, hread, hcode⟩ := outcome_interface h k
      rw [List.mapM_cons, List.mapM_cons]
      cases hscan : scan (s.shaders.get k).code with
      | error fault =>
          rw [hscan] at ht
          exact ⟨t, outcome_bind_error _ ht⟩
      | ok i =>
          rw [hscan] at ht
          obtain ⟨u, hrest⟩ := ih hread
          simp only [hcode] at hrest
          refine ⟨u, ?_⟩
          rw [outcome_bind_ok _ ht, outcome_bind, hrest]
          cases ks.mapM fun k => scan (s.shaders.get k).code <;> rfl

theorem outcome_merged (h : WellRead (s, w)) : ∃ t, mergedInterface.outcome (s, w) =
    ((Stage.all.mapM fun k => scan (s.shaders.get k).code).map Interface.merge, (t, w)) := by
  obtain ⟨t, ht⟩ := outcome_interfaces h Stage.all
  refine ⟨t, ?_⟩
  rw [mergedInterface, map_eq_pure_bind, outcome_bind, ht]
  cases Stage.all.mapM fun k => scan (s.shaders.get k).code <;> rfl

theorem outcome_mergedInterface (h : WellRead (s, w))
    (hclosed : ∀ k, leavesBlockOpen (s.shaders.get k).code = false) :
    (mergedInterface.outcome (s, w)).1 = scan (joinedCode s) := by
  have hscan : scan (unlines (Stage.all.map fun k => (s.shaders.get k).code)) = _ :=
    scan_unlines (by simp [Stage.all]) (by simpa using fun k _ => hclosed k)
  have hmap : (Stage.all.map fun k => (s.shaders.get k).code).mapM scan =
      Stage.all.mapM fun k => scan (s.shaders.get k).code := List.mapM_map
  obtain ⟨t, ht⟩ := outcome_merged h
  rw [ht, joinedCode, hscan, hmap]

end Stages

section Requests

variable {call : Text → Change → Act (Studio W P × W) Unit}
variable (hcall : ∀ name c, Keeps WellRead (call name c))
include hcall

theorem setHandle_wellRead (k : Stage) (x : Int) : Keeps WellRead (setHandle call k x) := by
  rintro ⟨s, w⟩ h
  rw [outcome_setHandle]
  have htell : Keeps WellRead (tell call k .handle s) := Keeps.forM fun name _ => hcall name _
  split
  · exact h.zeroed k x
  · exact htell _ ((h.zeroed k x).exchanged k x)

theorem setCode_wellRead (k : Stage) (code : Text) : Keeps WellRead (setCode call k code) := by
  rintro ⟨s, w⟩ h
  by_cases hcode : code = (s.shaders.get k).code
  · rw [hcode, outcome_setCode_same]
    exact h
  · refine outcome_setCode_holds (setHandle_wellRead hcall k 0)
      (fun s w h => WellRead.updateShader h (fun h => h) w) ?_ hcode
      (h.updateShader (fun _ => remembers_of_none rfl) w)
    rintro ⟨s, w⟩ h
    rw [outcome_notify_code]
    have htell : Keeps WellRead (tell call k .code s) := Keeps.forM fun name _ => hcall name _
    exact htell _ (h.updateShader (fun h => h) w)

theorem reset_wellRead (k : Stage) : Keeps WellRead (reset call k) :=
  (setHandle_wellRead hcall k 0).bind fun _ _ h => WellRead.updateShader h (fun h => h) _

variable [Records W]

theorem compile_wellRead (k : Stage) : Keeps WellRead (compile call k) := by
  rintro ⟨s, w⟩ h
  by_cases hh : (s.shaders.get k).handle = 0
  case neg =>
      rw [outcome_compile_held call (s := (s, w)) hh]
      exact h
  cases hv : (s.shaders.get k).verdict with
  | some r =>
      rw [outcome_compile_known call (s := (s, w)) hh hv]
      exact h
  | none =>
      have htried := outcome_compile call (w := w) hh hv
      generalize (compile call k).outcome (s, w) = o at htried ⊢
      have htaken {x : Int} {u : W} :=
        setHandle_wellRead hcall k x _ (h.updateShader (f := explained []) (k := k) (fun h => h) u)
      cases htried with
      | blank | refused | raised => exact h.updateShader (fun h => h) _
      | @passed x source u v t _ _ ht =>
          have hkept := @htaken x u
          rw [ht] at hkept
          exact hkept.updateShader (fun h => h) _
      | @interrupted x source fault u t _ _ ht =>
          have hkept := @htaken x u
          rw [ht] at hkept
          exact hkept

omit hcall in
theorem toLegacy_wellRead (k : Stage) : Keeps WellRead (toLegacy (W := W) (P := P) k) :=
  Keeps.bind (fun _ h => h) fun _ => Keeps.bind (interface_wellRead k) fun _ _ h => h

omit hcall [Records W] in
theorem mergedInterface_wellRead : Keeps WellRead (mergedInterface (W := W) (P := P)) :=
  (Keeps.mapM fun k _ => interface_wellRead k).map _

omit hcall [Records W] in
theorem setUniform_wellRead (device : Device W P V) (name : Text) (value : Value V) :
    Keeps WellRead (setUniform device name value) := by
  rw [setUniform]
  refine Keeps.bind keeps_own fun s => ?_
  split
  · exact .pure _
  · refine .ite ?_ (.pure _)
    extract_lets rest
    have hrest (r : Unit) : Keeps WellRead (rest r) := .pure _
    cases value with
    | numbers a =>
        exact Keeps.bind mergedInterface_wellRead fun i => Keeps.bind (fun _ h => h) hrest
    | bytes | other => exact Keeps.bind (fun _ h => h) hrest

theorem respond_wellRead (device : Device W P V) (r : Request W P V) :
    Keeps WellRead (respond device call r) := by
  cases r with
  | setCode k code => exact setCode_wellRead hcall k code
  | setHandle k x => exact setHandle_wellRead hcall k x
  | compile k => exact compile_wellRead hcall k
  | reset k => exact reset_wellRead hcall k
  | interface k => exact interface_wellRead k
  | toLegacy k => exact toLegacy_wellRead k
  | poll | subscribe | unsubscribe | setCompiler | setResolver | setSettings =>
      exact fun _ h => WellRead.updateShader h (fun h => h) _
  | look | setContext | drain => exact fun _ h => h
  | compileProgram =>
      exact portable_wellRead.compileProgram (fun _ _ _ h => h) (fun _ _ _ h => h)
        (compile_wellRead hcall)
  | toLegacyPair =>
      exact Keeps.bind (toLegacy_wellRead .vertex) fun _ =>
        Keeps.bind (toLegacy_wellRead .fragment) fun _ => .pure _
  | mergedInterface => exact mergedInterface_wellRead
  | setUniform name value => exact setUniform_wellRead device name value
  | release => exact Keeps.bind (.forM fun k _ => reset_wellRead hcall k) fun _ _ h => h

end Requests

section Runs

variable [Records W] {device : Device W P V} {listener : Listener W P V}

theorem perform_wellRead (depth : Nat) (r : Request W P V) :
    Keeps WellRead (perform device listener depth r) :=
  keeps_perform (fun name c => Client.within_true (listener name c)) (fun _ _ _ _ h => h)
    (fun _ hcall r _ => respond_wellRead hcall device r) depth trivial

theorem Reached.wellRead {compiler : Option (Compiler W)} {resolver : Option (Resolver W)}
    {settings : Settings} {context : Option (Context W P)} {w : W} {s : Studio W P × W}
    (h : Reached device listener (fun _ => True) (fun _ => True)
      (opened compiler resolver settings context, w) s) : WellRead s := by
  refine h.holds (fun k => ?_) (fun depth r _ => perform_wellRead depth r) fun _ _ _ _ h => h
  rw [get_opened]
  exact remembers_of_none rfl

/-- Whatever was asked of the studio before, its merged interface is read off the sources as they
are, as if they were one; and as long as every source can be read it declares each name once. -/
theorem mergedInterface_scans (compiler : Option (Compiler W)) (resolver : Option (Resolver W))
    (settings : Settings) (context : Option (Context W P)) (w : W) {s : Studio W P × W}
    (h : Reached device listener (fun _ => True) (fun _ => True)
      (opened compiler resolver settings context, w) s)
    (hclosed : ∀ k, leavesBlockOpen (s.1.shaders.get k).code = false) (depth : Nat) :
    ((perform device listener depth .mergedInterface).outcome s).1 = scan (joinedCode s.1) ∧
    ((∀ k, ∃ i, scan (s.1.shaders.get k).code = .ok i) →
      ∃ i t, (perform device listener depth .mergedInterface).outcome s = (.ok i, t) ∧
        scan (joinedCode s.1) = .ok i ∧
        (i.uniforms.map (·.name)).Nodup ∧ (i.attributes.map (·.name)).Nodup) := by
  have hread : WellRead s := h.wellRead
  have hmerged : ((perform device listener depth .mergedInterface).outcome s).1 =
      scan (joinedCode s.1) := by
    cases depth with
    | zero => exact outcome_mergedInterface hread hclosed
    | succ depth => exact outcome_mergedInterface hread hclosed
  refine ⟨hmerged, fun hscans => ?_⟩
  obtain ⟨is, his⟩ : ∃ is, (Stage.all.map fun k => (s.1.shaders.get k).code).mapM scan = .ok is := by
    rcases mapM_cases scan (Stage.all.map fun k => (s.1.shaders.get k).code) with
      ⟨is, his, _⟩ | ⟨t, ht, fault, hfault, _⟩
    · exact ⟨is, his⟩
    · obtain ⟨k, _, rfl⟩ := List.mem_map.mp ht
      obtain ⟨i, hi⟩ := hscans k
      rw [hi] at hfault
      cases hfault
  have hjoined : scan (joinedCode s.1) = .ok (Interface.merge is) := by
    rw [joinedCode, scan_unlines (by simp [Stage.all]) (by simpa using fun k _ => hclosed k), his]
    rfl
  exact ⟨_, _, Prod.ext (hmerged.trans hjoined) rfl, hjoined, nodup_of_scan hjoined⟩

end Runs

namespace Bench

/-- A listener that reads a stage, and leaves it without code, as soon as it has a handle. -/
def readingListener : Listener Bench Nat Unit := fun _ change =>
  match change.property with
  | .code => .done ()
  | .handle =>
      .ask (.interface change.stage) fun _ =>
        .ask (.setCode change.stage "uniform int b;/* c */\nin vec3 p;".toList) fun _ => .done ()

def sharedRun : Studio Bench Nat × Bench :=
  performAll device readingListener 2
    [.setCode .vertex "uniform vec2 a[2];\nlayout(location = 1) in vec3 p;".toList,
      .setCode .fragment "uniform float a; // first in the vertex stage\nuniform mat3 m;".toList,
      .mergedInterface, .subscribe .fragment ['l'], .compileProgram]
    (opened (some (compiler ['!'])) none {} (some context), {})

def sharedCodes : List Text :=
  [[], "uniform vec2 a[2];\nlayout(location = 1) in vec3 p;".toList, [], [], [],
    "uniform int b;/* c */\nin vec3 p;".toList]

theorem codes_sharedRun :
    (Stage.all.map fun k => (sharedRun.1.shaders.get k).code) = sharedCodes := by
  decide +kernel

theorem code_mem_sharedCodes (k : Stage) : (sharedRun.1.shaders.get k).code ∈ sharedCodes :=
  codes_sharedRun ▸ List.mem_map_of_mem (Stage.mem_all k)

theorem mergedInterface_scans_shared :
    (∀ k, leavesBlockOpen (sharedRun.1.shaders.get k).code = false) ∧
    (∀ k, ∃ i, scan (sharedRun.1.shaders.get k).code = .ok i) ∧
    ∃ i t, (perform device readingListener 2 .mergedInterface).outcome sharedRun = (.ok i, t) ∧
      scan (joinedCode sharedRun.1) = .ok i ∧
      i = ⟨[⟨['a'], "vec2".toList, 2⟩, ⟨['b'], "int".toList, 0⟩],
        [⟨['p'], "vec3".toList, some 1⟩]⟩ := by
  have hclosed (k : Stage) : leavesBlockOpen (sharedRun.1.shaders.get k).code = false := by
    have hall : ∀ t ∈ sharedCodes, leavesBlockOpen t = false := by decide +kernel
    exact hall _ (code_mem_sharedCodes k)
  have hscans (k : Stage) : ∃ i, scan (sharedRun.1.shaders.get k).code = .ok i := by
    have hall : ∀ t ∈ sharedCodes, (scan t).toOption.isSome = true := by decide +kernel
    have hread := hall _ (code_mem_sharedCodes k)
    cases hscan : scan (sharedRun.1.shaders.get k).code with
    | ok i => exact ⟨i, rfl⟩
    | error fault =>
        rw [hscan] at hread
        cases hread
  have hreached : Reached device readingListener (fun _ => True) (fun _ => True)
      (opened (some (compiler ['!'])) none {} (some context), {}) sharedRun :=
    Reached.start.performAll 2 fun _ _ => trivial
  obtain ⟨i, t, ht, hi, _⟩ := (mergedInterface_scans _ _ _ _ _ hreached hclosed 2).2 hscans
  have hread : scan (joinedCode sharedRun.1) =
      .ok ⟨[⟨['a'], "vec2".toList, 2⟩, ⟨['b'], "int".toList, 0⟩],
        [⟨['p'], "vec3".toList, some 1⟩]⟩ := by
    rw [joinedCode, codes_sharedRun]
    decide +kernel
  exact ⟨hclosed, hscans, i, t, ht, hi, Except.ok.inj (hi.symm.trans hread)⟩

end Bench

end ShaderPipeline.Studio
