import ShaderPipeline.Proofs.Studio.Indifference
import ShaderPipeline.Proofs.Studio.Quiet
import ShaderPipeline.Proofs.Studio.Trials

namespace ShaderPipeline.Studio

open Text Glsl Act

variable {W P V : Type} {j k : Stage} {I : Studio W P × W → Prop}

/-- `I` sees neither the bin nor the world, nor that the program is lost. -/
def Portable (I : Studio W P × W → Prop) : Prop :=
  ∀ s bin program w v, program = s.program ∨ program = none → I (s, w) →
    I ({ s with bin := bin, program := program }, v)

def SameServices (f : Shader W → Shader W) : Prop :=
  ∀ a, (f a).compiler = a.compiler ∧ (f a).resolver = a.resolver

/-- `I` is about stages other than `j`, or about services. -/
structure Elsewhere (j : Stage) (I : Studio W P × W → Prop) : Prop where
  portable : Portable I
  shader : ∀ f s w, SameServices f → I (s, w) → I (s.updateShader j f, w)

theorem elsewhere_get (h : k ≠ j) (p : Shader W → Prop) :
    Elsewhere j fun s : Studio W P × W => p (s.1.shaders.get k) := by
  refine ⟨fun _ _ _ _ _ _ h => h, fun f s w _ hp => ?_⟩
  rw [get_updateShader_of_ne s f h]
  exact hp

theorem elsewhere_services {p : Shader W → Prop}
    (hp : ∀ a b, b.compiler = a.compiler → b.resolver = a.resolver → p a → p b) (j k : Stage) :
    Elsewhere j fun s : Studio W P × W => p (s.1.shaders.get k) := by
  refine ⟨fun _ _ _ _ _ _ h => h, fun f s w hf h => ?_⟩
  rw [get_updateShader]
  split
  · exact hp _ _ (hf _).1 (hf _).2 h
  · exact h

namespace Elsewhere

variable {call : Text → Change → Act (Studio W P × W) Unit}
variable (hI : Elsewhere j I) (hcall : ∀ name c, Keeps I (call name c))
include hI hcall

theorem setHandle (x : Int) : Keeps I (setHandle call j x) := by
  rintro ⟨s, w⟩ h
  have hz : I (zeroed j x s, w) := by
    rw [zeroed]
    split
    · exact hI.shader _ s w (fun _ => ⟨rfl, rfl⟩) h
    · exact h
  have hexchanged : I (exchanged j x (zeroed j x s), w) :=
    hI.portable _ _ _ w w (.inr rfl)
      (hI.shader _ _ w (fun _ => ⟨rfl, rfl⟩) (hI.shader _ _ w (fun _ => ⟨rfl, rfl⟩) hz))
  have htell : Keeps I (tell call j .handle s) := Keeps.forM fun name _ => hcall name _
  rw [outcome_setHandle]
  split
  · exact hz
  · exact htell _ hexchanged

theorem setCode (code : Text) : Keeps I (setCode call j code) := by
  rintro ⟨s, w⟩ h
  by_cases hcode : code = (s.shaders.get j).code
  · rw [hcode, outcome_setCode_same]
    exact h
  · refine outcome_setCode_holds (hI.setHandle hcall 0)
      (fun s w h => hI.shader _ s w (fun _ => ⟨rfl, rfl⟩) h) ?_ hcode
      (hI.shader _ s w (fun _ => ⟨rfl, rfl⟩) h)
    rintro ⟨s, w⟩ h
    rw [outcome_notify_code]
    have htell : Keeps I (tell call j .code s) := Keeps.forM fun name _ => hcall name _
    exact htell _ (hI.shader _ s w (fun _ => ⟨rfl, rfl⟩) h)

theorem reset : Keeps I (reset call j) :=
  (hI.setHandle hcall 0).bind fun _ s h =>
    hI.shader _ s.1 s.2 (fun _ => ⟨rfl, rfl⟩) h

theorem compile [Records W] : Keeps I (compile call j) := by
  rintro ⟨s, w⟩ h
  have hworld (t : Studio W P) (v u : W) (h : I (t, v)) : I (t, u) :=
    hI.portable t t.bin t.program v u (.inl rfl) h
  have hset (x : Int) (u : W) :=
    hI.setHandle hcall x (s.updateShader j (explained []), u)
      (hI.shader _ s u (fun _ => ⟨rfl, rfl⟩) (hworld s w u h))
  by_cases hh : (s.shaders.get j).handle = 0
  case neg =>
      rw [outcome_compile_held call (s := (s, w)) hh]
      exact h
  cases hv : (s.shaders.get j).verdict with
  | some r =>
      rw [outcome_compile_known call (s := (s, w)) hh hv]
      exact h
  | none =>
      have htried := outcome_compile call (w := w) hh hv
      generalize (Studio.compile call j).outcome (s, w) = o at htried ⊢
      cases htried with
      | blank => exact hI.shader _ s w (fun _ => ⟨rfl, rfl⟩) h
      | refused | raised =>
          exact hI.shader _ s _ (fun _ => ⟨rfl, rfl⟩) (hworld s w _ h)
      | @passed x _ u _ _ hb ha ht =>
          have hkept := hset x u
          rw [ht] at hkept
          exact hworld _ _ _ (hI.shader _ _ _ (fun _ => ⟨rfl, rfl⟩) hkept)
      | @interrupted x _ _ u _ hb ha ht =>
          have hkept := hset x u
          rw [ht] at hkept
          exact hkept

end Elsewhere

section Program

variable [Records W] {call : Text → Change → Act (Studio W P × W) Unit} (hI : Portable I)
variable (hlinks : ∀ s w ds, I (s, w) → I ({ s with linkDiagnostics := ds }, w))
variable (hprogram : ∀ s w p, I (s, w) → I ({ s with program := some p }, w))
include hI hlinks hprogram

theorem Portable.linkWith (link : Context W P) (args : LinkArgs) : Keeps I (linkWith link args) := by
  rintro ⟨s, w⟩ h
  have hlinked := outcome_linkWith (s := s) (w := w) link args
  generalize (Studio.linkWith link args).outcome (s, w) = o at hlinked ⊢
  cases hlinked with
  | @linked p v u => exact hprogram s u p (hI s s.bin s.program w u (.inl rfl) h)
  | @refused fault v u => exact hlinks s u _ (hI s s.bin s.program w u (.inl rfl) h)
  | @broken fault v => exact hI s s.bin s.program w v (.inl rfl) h

theorem Portable.compileProgram (hcompile : ∀ k, Keeps I (compile call k)) :
    Keeps I (compileProgram call) := by
  rw [Studio.compileProgram]
  refine Keeps.bind (fun s h => hlinks s.1 s.2 [] h) fun _ => ?_
  refine Keeps.bind (.mapM fun k _ => hcompile k) fun verdicts => .ite ?_ (.pure _)
  refine Keeps.bind keeps_own fun s => ?_
  split
  · exact hI.linkWith hlinks hprogram _ _
  · exact .pure _

end Program

section Requests

variable [Records W] {call : Text → Change → Act (Studio W P × W) Unit} {p : Shader W → Prop}
variable (hp : ∀ a b, Untouched a b → p a → p b)
include hp

theorem aloof_get (k : Stage) :
    Aloof (fun _ _ => True) fun s : Studio W P × W => p (s.1.shaders.get k) where
  shader j f s w hf h := by
    rw [get_updateShader]
    split
    · exact hp _ _ (hf _) h
    · exact h
  world _ _ _ _ h := h
  reports _ _ _ := trivial
  expand _ _ _ _ _ h _ := h

omit hp [Records W] in
theorem setHandle_get (hcall : ∀ name c, Keeps (fun s => p (s.1.shaders.get k)) (call name c))
    (x : Int) {s : Studio W P} (w : W)
    (h : p (withHandle k x (if x = 0 then cleared (s.shaders.get k) else s.shaders.get k))) :
    p (((setHandle call k x).outcome (s, w)).2.1.shaders.get k) := by
  have hhandle : (if x = 0 then cleared (s.shaders.get k) else s.shaders.get k).handle =
      (s.shaders.get k).handle := by split <;> rfl
  rw [withHandle, hhandle] at h
  rw [outcome_setHandle]
  split
  case isTrue hx =>
      rw [if_pos hx] at h
      rw [get_zeroed]
      exact h
  case isFalse hx =>
      rw [if_neg hx] at h
      have htell : Keeps (fun s => p (s.1.shaders.get k)) (tell call k .handle s) :=
        Keeps.forM fun name _ => hcall name _
      refine htell _ ?_
      change p ((exchanged k x (zeroed k x s)).shaders.get k)
      rw [get_exchanged, get_zeroed]
      exact h

theorem respond_get (hcall : ∀ name c, Keeps (fun s => p (s.1.shaders.get k)) (call name c))
    (device : Device W P V) {r : Request W P V}
    (hcode : ∀ code, r = .setCode k code →
      Keeps (fun s => p (s.1.shaders.get k)) (setCode call k code))
    (hhandle : ∀ x, r = .setHandle k x →
      Keeps (fun s => p (s.1.shaders.get k)) (setHandle call k x))
    (hcompile : r = .compile k ∨ r = .compileProgram →
      Keeps (fun s => p (s.1.shaders.get k)) (compile call k))
    (hreset : r = .reset k ∨ r = .release → Keeps (fun s => p (s.1.shaders.get k)) (reset call k))
    (hcompiler : ∀ c, r = .setCompiler k c → ∀ a, p a → p { a with compiler := c })
    (hresolver : ∀ e, r = .setResolver k e → ∀ a, p a → p { a with resolver := e }) :
    Keeps (fun s => p (s.1.shaders.get k)) (respond device call r) := by
  have hI := aloof_get (P := P) hp k
  have helse (j : Stage) (hj : k ≠ j) : Elsewhere j fun s : Studio W P × W => p (s.1.shaders.get k) :=
    elsewhere_get hj p
  cases r with
  | setCode j code =>
      by_cases hj : k = j
      · subst hj; exact hcode code rfl
      · exact (helse j hj).setCode hcall code
  | setHandle j x =>
      by_cases hj : k = j
      · subst hj; exact hhandle x rfl
      · exact (helse j hj).setHandle hcall x
  | compile j =>
      by_cases hj : k = j
      · subst hj; exact hcompile (.inl rfl)
      · exact (helse j hj).compile hcall
  | reset j =>
      by_cases hj : k = j
      · subst hj; exact hreset (.inl rfl)
      · exact (helse j hj).reset hcall
  | setCompiler j c =>
      by_cases hj : k = j
      · subst hj
        intro s h
        change p ((s.1.updateShader k _).shaders.get k)
        rw [get_updateShader_self]
        exact hcompiler c rfl _ h
      · intro s h
        change p ((s.1.updateShader j _).shaders.get k)
        rw [get_updateShader_of_ne _ _ hj]
        exact h
  | setResolver j e =>
      by_cases hj : k = j
      · subst hj
        intro s h
        change p ((s.1.updateShader k _).shaders.get k)
        rw [get_updateShader_self]
        exact hresolver e rfl _ h
      · intro s h
        change p ((s.1.updateShader j _).shaders.get k)
        rw [get_updateShader_of_ne _ _ hj]
        exact h
  | compileProgram =>
      refine Portable.compileProgram (fun _ _ _ _ _ _ h => h) (fun _ _ _ h => h) (fun _ _ _ h => h)
        fun j => ?_
      by_cases hj : k = j
      · subst hj; exact hcompile (.inr rfl)
      · exact (helse j hj).compile hcall
  | release =>
      refine Keeps.bind (.forM fun j _ => ?_) fun _ s h => h
      by_cases hj : k = j
      · subst hj; exact hreset (.inr rfl)
      · exact (helse j hj).reset hcall
  | setContext c => exact fun s h => h
  | drain delete => exact fun s h => h
  | look | interface | toLegacy | poll | subscribe | unsubscribe | setSettings | toLegacyPair
  | mergedInterface | setUniform =>
      exact hI.respond ⟨fun _ _ _ _ => trivial, fun _ _ _ _ => trivial⟩ call trivial

omit hp in
theorem respond_services
    (hp : ∀ a b, b.compiler = a.compiler → b.resolver = a.resolver → p a → p b)
    (hcall : Overlooking call) (device : Device W P V) {r : Request W P V}
    (hcompiler : ∀ c, r = .setCompiler k c → ∀ a, p a → p { a with compiler := c })
    (hresolver : ∀ e, r = .setResolver k e → ∀ a, p a → p { a with resolver := e }) :
    Keeps (fun s => p (s.1.shaders.get k)) (respond device call r) := by
  have hread (a b : Shader W) (hab : Untouched a b) : p a → p b := hp a b hab.compiler hab.resolver
  have helse := elsewhere_services (P := P) hp k k
  have hnamed := hcall _ (aloof_get hread k)
  exact respond_get hread hnamed device (fun code _ => helse.setCode hnamed code)
    (fun x _ => helse.setHandle hnamed x) (fun _ => helse.compile hnamed)
    (fun _ => helse.reset hnamed) hcompiler hresolver

end Requests

/-- `I` is about none of the stages. -/
structure Beside (I : Studio W P × W → Prop) : Prop where
  portable : Portable I
  shader : ∀ k f s w, I (s, w) → I (s.updateShader k f, w)

namespace Beside

variable (hI : Beside I)
include hI

theorem elsewhere (j : Stage) : Elsewhere j I := ⟨hI.portable, fun f s w _ h => hI.shader j f s w h⟩

variable [Records W]

theorem aloof : Aloof (fun _ _ => True) I where
  shader k f s w _ h := hI.shader k f s w h
  world s w v _ h := hI.portable s s.bin s.program w v (.inl rfl) h
  reports _ _ _ := trivial
  expand _ s w _ _ h _ := hI.portable s s.bin s.program w _ (.inl rfl) h

theorem respond {call : Text → Change → Act (Studio W P × W) Unit}
    (hcall : ∀ name c, Keeps I (call name c)) (device : Device W P V) {r : Request W P V}
    (hcontext : ∀ c, r = .setContext c → ∀ s w, I (s, w) → I ({ s with context := c }, w))
    (hprogram : r = .compileProgram → Keeps I (compileProgram call)) :
    Keeps I (respond device call r) := by
  cases r with
  | setContext c => exact fun s h => hcontext c rfl s.1 s.2 h
  | setCode j code => exact (hI.elsewhere j).setCode hcall code
  | setHandle j x => exact (hI.elsewhere j).setHandle hcall x
  | compile j => exact (hI.elsewhere j).compile hcall
  | reset j => exact (hI.elsewhere j).reset hcall
  | compileProgram => exact hprogram rfl
  | release =>
      exact Keeps.bind (.forM fun j _ => (hI.elsewhere j).reset hcall) fun _ s h =>
        hI.portable s.1 _ none s.2 s.2 (.inr rfl) h
  | setCompiler k c => exact fun s h => hI.shader k _ s.1 s.2 h
  | setResolver k e => exact fun s h => hI.shader k _ s.1 s.2 h
  | drain delete => exact fun s h => hI.portable s.1 _ s.1.program s.2 _ (.inl rfl) h
  | look | interface | toLegacy | poll | subscribe | unsubscribe | setSettings | toLegacyPair
  | mergedInterface | setUniform =>
      exact hI.aloof.respond ⟨fun _ _ _ _ => trivial, fun _ _ _ _ => trivial⟩ call trivial

end Beside

/-- `I` survives that a stage gives its handle up, and that other code is written to it. -/
structure Yielding (I : Studio W P × W → Prop) : Prop where
  zeroed : ∀ k s w, I (s, w) → I (Studio.zeroed k 0 s, w)
  exchanged : ∀ k s w, I (Studio.zeroed k 0 s, w) →
    I (Studio.exchanged k 0 (Studio.zeroed k 0 s), w)
  recoded : ∀ k code s w, I (s, w) →
    I (Studio.zeroed k 0 (s.updateShader k (Studio.recoded code)), w)
  unjudged : ∀ k s w, I (s, w) → I (s.updateShader k fun a => { a with verdict := none }, w)

namespace Yielding

variable [Records W] {call : Text → Change → Act (Studio W P × W) Unit} (hy : Yielding I)
variable (hI : Indifferent (fun _ _ => True) I) (hcall : Onlooking call)
include hy hI hcall

theorem setHandle (k : Stage) :
    Leads (fun s => I (Studio.zeroed k 0 s.1, s.2)) (setHandle call k 0) fun _ => I := by
  rintro ⟨s, w⟩ h
  rw [outcome_setHandle]
  split
  · exact h
  · exact hcall.tell hI k .handle s _ (hy.exchanged k s w h)

theorem reset (k : Stage) : Keeps I (reset call k) := by
  refine Leads.bind ((hy.setHandle hI hcall k).mono (fun s h => hy.zeroed k s.1 s.2 h)
    fun _ _ h => h) (fun _ => ?_) fun _ _ h => h
  exact hI.changeShader fun _ => ⟨rfl, rfl, rfl, rfl, rfl, rfl⟩

theorem setCode (k : Stage) (code : Text) : Keeps I (setCode call k code) := by
  rintro ⟨s, w⟩ h
  by_cases hcode : code = (s.shaders.get k).code
  · rw [hcode, outcome_setCode_same]
    exact h
  · exact outcome_setCode_holds (hy.setHandle hI hcall k) (hy.unjudged k)
      (hcall.notifyCode hI k) hcode (hy.recoded k code s w h)

theorem respond (hportable : Portable I) (device : Device W P V) {r : Request W P V}
    (hhandle : ∀ k x, r = .setHandle k x → x = 0)
    (hcompiler : ∀ k c, r = .setCompiler k c → ∀ s w, I (s, w) →
      I (s.updateShader k fun a => { a with compiler := c }, w))
    (hresolver : ∀ k e, r = .setResolver k e → ∀ s w, I (s, w) →
      I (s.updateShader k fun a => { a with resolver := e }, w))
    (hcontext : ∀ c, r = .setContext c → ∀ s w, I (s, w) → I ({ s with context := c }, w))
    (hcompile : ∀ k, Keeps I (compile call k)) (hprogram : Keeps I (compileProgram call)) :
    Keeps I (respond device call r) := by
  cases r with
  | setCode k code => exact hy.setCode hI hcall k code
  | setHandle k x =>
      obtain rfl := hhandle k x rfl
      exact (hy.setHandle hI hcall k).mono (fun s h => hy.zeroed k s.1 s.2 h) fun _ _ h => h
  | compile k => exact hcompile k
  | reset k => exact hy.reset hI hcall k
  | setCompiler k c => exact fun s h => hcompiler k c rfl s.1 s.2 h
  | setResolver k e => exact fun s h => hresolver k e rfl s.1 s.2 h
  | setContext c => exact fun s h => hcontext c rfl s.1 s.2 h
  | compileProgram => exact hprogram
  | release =>
      exact Keeps.bind (.forM fun k _ => hy.reset hI hcall k) fun _ s h =>
        hportable s.1 _ none s.2 s.2 (.inr rfl) h
  | drain delete => exact fun s h => hportable s.1 _ s.1.program s.2 _ (.inl rfl) h
  | look | interface | toLegacy | poll | subscribe | unsubscribe | setSettings | toLegacyPair
  | mergedInterface | setUniform =>
      exact hI.aloof.respond ⟨fun _ _ _ _ => trivial, fun _ _ _ _ => trivial⟩ call trivial

end Yielding

theorem respond_context [Records W] {call : Text → Change → Act (Studio W P × W) Unit}
    {p : Option (Context W P) → Prop} (hcall : Overlooking call)
    (device : Device W P V) {r : Request W P V} (hset : ∀ c, r = .setContext c → p c) :
    Keeps (fun s => p s.1.context) (respond device call r) := by
  have hI : Beside fun s : Studio W P × W => p s.1.context :=
    ⟨fun _ _ _ _ _ _ h => h, fun _ _ _ _ h => h⟩
  have hnamed := hcall _ hI.aloof
  refine hI.respond hnamed device (fun c hr s w _ => hset c hr) fun _ => ?_
  exact Portable.compileProgram hI.portable (fun _ _ _ h => h) (fun _ _ _ h => h) fun j =>
    (hI.elsewhere j).compile hnamed

end ShaderPipeline.Studio
