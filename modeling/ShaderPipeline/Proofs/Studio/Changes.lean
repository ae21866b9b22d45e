import ShaderPipeline.Studio.Session

namespace ShaderPipeline.Studio

open Text Glsl Act

variable {W P : Type} {k : Stage}

theorem get_updateShader (s : Studio W P) (k j : Stage) (f : Shader W → Shader W) :
    (s.updateShader k f).shaders.get j =
      if j = k then f (s.shaders.get j) else s.shaders.get j :=
  PerStage.get_update k j f s.shaders

theorem get_updateShader_self (s : Studio W P) (k : Stage) (f : Shader W → Shader W) :
    (s.updateShader k f).shaders.get k = f (s.shaders.get k) := by
  rw [get_updateShader, if_pos rfl]

theorem get_updateShader_of_ne {j : Stage} (s : Studio W P) (f : Shader W → Shader W)
    (h : j ≠ k) : (s.updateShader k f).shaders.get j = s.shaders.get j := by
  rw [get_updateShader, if_neg h]

theorem updateShader_updateShader (s : Studio W P) (k : Stage) (f g : Shader W → Shader W) :
    (s.updateShader k f).updateShader k g = s.updateShader k fun a => g (f a) := by
  cases k <;> rfl

theorem updateShader_congr {s : Studio W P} {f g : Shader W → Shader W}
    (h : f (s.shaders.get k) = g (s.shaders.get k)) : s.updateShader k f = s.updateShader k g := by
  cases k <;> simp only [updateShader, PerStage.update, PerStage.get] at h ⊢ <;> rw [h]

theorem outcome_changeShader (k : Stage) (f : Shader W → Shader W) (s : Studio W P) (w : W) :
    (changeShader k f).outcome (s, w) = (.ok (), (s.updateShader k f, w)) := rfl

def posted (k : Stage) (property : Property) (a : Shader W) : Shader W :=
  { a with channel := a.channel.post ⟨k, property⟩ }

def cleared (a : Shader W) : Shader W := { a with verdict := none, compiledText := [] }

def zeroed (k : Stage) (x : Int) (s : Studio W P) : Studio W P :=
  if x = 0 then s.updateShader k cleared else s

/-- The stage has another handle, and the program has gone to the bin with the old one. -/
def exchanged (k : Stage) (x : Int) (s : Studio W P) : Studio W P :=
  { (s.updateShader k fun a => { a with handle := x, scanned := none }).updateShader k
      (posted k .handle) with
    bin := (s.bin.add (s.shaders.get k).handle).addProgram s.program, program := none }

variable (call : Text → Change → Act (Studio W P × W) Unit)

def tell (k : Stage) (property : Property) (s : Studio W P) : Act (Studio W P × W) Unit :=
  (s.shaders.get k).channel.listeners.forM (call · ⟨k, property⟩)

theorem tell_updateShader {s : Studio W P} {property : Property} {f : Shader W → Shader W}
    (hf : (f (s.shaders.get k)).channel.listeners = (s.shaders.get k).channel.listeners) :
    tell call k property (s.updateShader k f) = tell call k property s := by
  rw [tell, get_updateShader_self, hf, tell]

theorem outcome_notify_code (s : Studio W P) (w : W) :
    (notify call k .code).outcome (s, w) =
      (tell call k .code s).outcome (s.updateShader k (posted k .code), w) := by
  rw [← tell_updateShader call (f := posted k .code) rfl]
  rfl

theorem outcome_notify_handle (s : Studio W P) (w : W) :
    (notify call k .handle).outcome (s, w) =
      (tell call k .handle s).outcome ({ s.updateShader k (posted k .handle) with
        bin := s.bin.addProgram s.program, program := none }, w) := by
  rw [← tell_updateShader call (f := posted k .handle) rfl]
  rfl

theorem zeroed_zero (k : Stage) (s : Studio W P) : zeroed k 0 s = s.updateShader k cleared :=
  if_pos rfl

theorem get_zeroed (x : Int) (s : Studio W P) : (zeroed k x s).shaders.get k =
    if x = 0 then cleared (s.shaders.get k) else s.shaders.get k := by
  rw [zeroed]
  split
  · exact get_updateShader_self s k cleared
  · rfl

theorem get_exchanged (x : Int) (s : Studio W P) : (exchanged k x s).shaders.get k =
    posted k .handle { s.shaders.get k with handle := x, scanned := none } := by
  rw [exchanged]
  rw [get_updateShader_self, get_updateShader_self]

theorem outcome_setHandle (x : Int) (s : Studio W P) (w : W) :
    (setHandle call k x).outcome (s, w) =
      if x = (s.shaders.get k).handle then (.ok (), (zeroed k x s, w))
      else (tell call k .handle s).outcome (exchanged k x (zeroed k x s), w) := by
  -- the part of it that follows the clearing
  have hrest (t : Studio W P) : (do
      let old := (← shader k).handle
      if x ≠ old then
        Act.change fun s : Studio W P => { s with bin := s.bin.add old }
        changeShader k fun s => { s with handle := x, scanned := none }
        notify call k .handle : Act (Studio W P × W) Unit).outcome (t, w) =
      if x = (t.shaders.get k).handle then (.ok (), (t, w))
      else (tell call k .handle t).outcome (exchanged k x t, w) := by
    change (if x ≠ (t.shaders.get k).handle then _ else _ : Act _ Unit).outcome (t, w) = _
    rw [outcome_ite]
    by_cases hx : x = (t.shaders.get k).handle
    · rw [if_neg fun hn => hn hx, if_pos hx]
      rfl
    · rw [if_pos hx, if_neg hx]
      let binned : Studio W P := { t with bin := t.bin.add (t.shaders.get k).handle }
      let f : Shader W → Shader W := fun a => { a with handle := x, scanned := none }
      have htell : tell call k .handle (binned.updateShader k f) = tell call k .handle t :=
        tell_updateShader call rfl
      rw [← htell]
      exact outcome_notify_handle call (binned.updateShader k f) w
  rw [zeroed]
  by_cases hx : x = 0
  · rw [if_pos hx]
    have hcleared := hrest (s.updateShader k cleared)
    rw [get_updateShader_self, tell_updateShader call (f := cleared) rfl] at hcleared
    refine Eq.trans ?_ hcleared
    rw [setHandle]
    rw [if_pos hx]
    rfl
  · rw [if_neg hx]
    refine Eq.trans ?_ (hrest s)
    rw [setHandle]
    rw [if_neg hx]

def recoded (code : Text) (a : Shader W) : Shader W :=
  { a with code := code, scanned := none, diagnostics := [] }

theorem outcome_setCode_same (s : Studio W P) (w : W) :
    (setCode call k (s.shaders.get k).code).outcome (s, w) = (.ok (), (s, w)) := by
  change (if (s.shaders.get k).code ≠ (s.shaders.get k).code then _ else _ : Act _ Unit).outcome
    (s, w) = _
  rw [if_neg fun hn => hn rfl]
  rfl

theorem outcome_setCode {s : Studio W P} {code : Text} (h : code ≠ (s.shaders.get k).code) (w : W) :
    (setCode call k code).outcome (s, w) = (do
      setHandle call k 0
      changeShader k fun a => { a with verdict := none }
      notify call k .code : Act (Studio W P × W) Unit).outcome
        (s.updateShader k (recoded code), w) := by
  change (if code ≠ (s.shaders.get k).code then _ else _ : Act _ Unit).outcome (s, w) = _
  rw [if_pos h]
  rfl

variable [Records W]

theorem outcome_compile_held {s : Studio W P × W} (hh : (s.1.shaders.get k).handle ≠ 0) :
    (compile call k).outcome s = (.ok (s.1.shaders.get k).diagnostics.isEmpty, s) := by
  change (if (s.1.shaders.get k).handle ≠ 0 then _ else _ : Act _ Bool).outcome s = _
  rw [if_pos hh]
  rfl

theorem outcome_compile_known {s : Studio W P × W} {r : Bool}
    (hh : (s.1.shaders.get k).handle = 0) (hv : (s.1.shaders.get k).verdict = some r) :
    (compile call k).outcome s = (.ok r, s) := by
  change (if (s.1.shaders.get k).handle ≠ 0 then _ else _ : Act _ Bool).outcome s = _
  rw [if_neg fun hn => hn hh]
  simp only [hv]
  rfl

theorem outcome_compile_unknown {s : Studio W P × W} (hh : (s.1.shaders.get k).handle = 0)
    (hv : (s.1.shaders.get k).verdict = none) :
    (compile call k).outcome s = (do
      let compiled ← attemptCompile call k
      changeShader k fun a => { a with verdict := some compiled }
      return compiled : Act (Studio W P × W) Bool).outcome
        (s.1.updateShader k fun a => { a with diagnostics := [] }, s.2) := by
  change (if (s.1.shaders.get k).handle ≠ 0 then _ else _ : Act _ Bool).outcome s = _
  rw [if_neg fun hn => hn hh]
  simp only [hv]
  rfl

end ShaderPipeline.Studio
