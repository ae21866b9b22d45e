import ShaderPipeline.Proofs.Studio.Reasons
import ShaderPipeline.Proofs.Text.Trim

namespace ShaderPipeline.Studio

open Text Glsl Act

variable {W P V : Type} {k : Stage}

/-- What a line of a log is kept as; the log of linking is the log of no stage. -/
structure LogLine (stage : Option Stage) (d : Diagnostic) : Prop where
  stage : d.stage = stage
  told : allBlank d.message = false
  oneLine : '\n' ∉ d.message
  trimmed : trimEnd d.message = d.message
  numbered : lineNumber d.message = .ok d.line

section Logs

variable {stage : Option Stage} {d : Diagnostic} {line : Text} {ls : List Text}

theorem logLine_of_ofLine (h : Diagnostic.ofLine line stage = .ok d) (hb : allBlank line = false)
    (hn : '\n' ∉ line) : LogLine stage d := by
  change (lineNumber (trimEnd line) >>= fun n => .ok ⟨trimEnd line, stage, n⟩) = .ok d at h
  cases hnumber : lineNumber (trimEnd line) with
  | error fault =>
      rw [hnumber] at h
      cases h
  | ok n =>
      rw [hnumber] at h
      cases h
      refine ⟨rfl, ?_, fun hmem => hn ((prefix_trimEnd line).subset hmem), trimEnd_trimEnd line,
        hnumber⟩
      rw [Bool.eq_false_iff] at hb ⊢
      intro ht
      have hnil := trimEnd_eq_nil_iff.mpr ht
      rw [trimEnd_trimEnd] at hnil
      exact hb (trimEnd_eq_nil_iff.mp hnil)

theorem logLine_readLines (h : ∀ line ∈ ls, '\n' ∉ line) :
    ∀ d ∈ (readLines stage ls).2, LogLine stage d := by
  induction ls with
  | nil =>
      intro d hd
      cases hd
  | cons line ls ih =>
      obtain ⟨hn, hls⟩ := List.forall_mem_cons.mp h
      rw [readLines]
      split
      case isTrue => exact ih hls
      case isFalse hb =>
          cases hd : Diagnostic.ofLine line stage with
          | error fault =>
              intro d hd
              cases hd
          | ok d =>
              refine List.forall_mem_cons.mpr ⟨?_, ih hls⟩
              exact logLine_of_ofLine hd (Bool.eq_false_iff.mpr hb) hn

theorem logLine_lines (log : Text) : ∀ d ∈ (readLines stage (lines log)).2, LogLine stage d :=
  logLine_readLines fun _ => newline_not_mem_of_mem_lines

theorem logLine_declined [Records W] {a : Shader W} {w u : W} {r : Except Fault Bool}
    {ds : List Diagnostic} (h : Declined k a w r ds u) : ∀ d ∈ ds, LogLine (some k) d := by
  cases h with
  | idle | broken | homeless => nofun
  | unexpanded => exact logLine_lines _
  | empty =>
      have hread : diagnose (some k) "Macro expansion produced no source".toList =
          (readLines (some k) (lines "Macro expansion produced no source".toList)).2 := by
        rw [readLines_readable (readable_lines (.of_not_isDigit (by decide)))]
        rfl
      rw [hread]
      exact logLine_lines _
  | @undone c source x v v₁ v₂ v₃ u j d =>
      match j with
      | .ok none => nofun
      | .ok (some log) => exact logLine_lines log
      | .error fault => nofun

end Logs

/-- The diagnostics of a stage are its own, and there are none while it has a handle. -/
structure Attributed (k : Stage) (a : Shader W) : Prop where
  lines : ∀ d ∈ a.diagnostics, LogLine (some k) d
  held : a.handle ≠ 0 → a.diagnostics = []

section Stages

variable {a b : Shader W}

theorem Attributed.untouched (h : Attributed k a) (hab : Untouched a b) : Attributed k b where
  lines := hab.diagnostics ▸ h.lines
  held hh := hab.diagnostics.trans (h.held (hab.handle ▸ hh))

theorem attributed_of_nil (h : a.diagnostics = []) : Attributed k a := by
  refine ⟨?_, fun _ => h⟩
  rw [h]
  nofun

theorem Attributed.withHandle (h : Attributed k a) {x : Int} (hx : x ≠ 0 → a.diagnostics = []) :
    Attributed k (withHandle k x (if x = 0 then cleared a else a)) := by
  obtain ⟨scanned, channel, he, _⟩ := withHandle_eq (k := k) x (if x = 0 then cleared a else a)
  have hdiagnostics : (if x = 0 then cleared a else a).diagnostics = a.diagnostics := by
    split <;> rfl
  rw [he]
  exact ⟨hdiagnostics ▸ h.lines, fun hh => hdiagnostics.trans (hx hh)⟩

variable {call : Text → Change → Act (Studio W P × W) Unit}
variable (hcall : ∀ name c, Keeps (fun s => Attributed k (s.1.shaders.get k)) (call name c))
include hcall

theorem setHandle_attributed (x : Int) : Leads
    (fun s => Attributed k (s.1.shaders.get k) ∧ (x ≠ 0 → (s.1.shaders.get k).diagnostics = []))
    (setHandle call k x) fun _ s => Attributed k (s.1.shaders.get k) := by
  rintro ⟨s, w⟩ h
  exact setHandle_get hcall x w (h.1.withHandle h.2)

theorem giveUp_attributed :
    Keeps (fun s => Attributed k (s.1.shaders.get k)) (setHandle call k 0) :=
  fun s h => setHandle_attributed hcall 0 s ⟨h, fun hn => absurd rfl hn⟩

theorem setCode_attributed (code : Text) :
    Keeps (fun s => Attributed k (s.1.shaders.get k)) (setCode call k code) := by
  rintro ⟨s, w⟩ h
  by_cases hcode : code = (s.shaders.get k).code
  · rw [hcode, outcome_setCode_same]
    exact h
  have hself {t : Studio W P} {f : Shader W → Shader W} (hf : Attributed k (f (t.shaders.get k))) :
      Attributed k ((t.updateShader k f).shaders.get k) := by
    rw [get_updateShader_self]
    exact hf
  refine outcome_setCode_holds (I := fun s => Attributed k (s.1.shaders.get k))
    (giveUp_attributed hcall) (fun t v ht => ?_) ?_ hcode ?_
  · exact hself ⟨ht.lines, ht.held⟩
  · rintro ⟨t, v⟩ ht
    rw [outcome_notify_code]
    have htell : Keeps (fun s => Attributed k (s.1.shaders.get k)) (tell call k .code t) :=
      Keeps.forM fun name _ => hcall name _
    exact htell _ (hself ⟨ht.lines, ht.held⟩)
  · exact hself (attributed_of_nil rfl)

theorem reset_attributed : Keeps (fun s => Attributed k (s.1.shaders.get k)) (reset call k) := by
  refine (giveUp_attributed hcall).bind fun _ s _ => ?_
  change Attributed k ((s.1.updateShader k _).shaders.get k)
  rw [get_updateShader_self]
  exact attributed_of_nil rfl

theorem compile_attributed [Records W] :
    Keeps (fun s => Attributed k (s.1.shaders.get k)) (compile call k) := by
  rintro ⟨s, w⟩ h
  by_cases hh : (s.shaders.get k).handle = 0
  case neg =>
      rw [outcome_compile_held call (s := (s, w)) hh]
      exact h
  cases hv : (s.shaders.get k).verdict with
  | some r =>
      rw [outcome_compile_known call (s := (s, w)) hh hv]
      exact h
  | none =>
      have htried := outcome_compile call (w := w) hh hv
      generalize (compile call k).outcome (s, w) = o at htried ⊢
      have hbare : ((s.updateShader k (explained [])).shaders.get k).diagnostics = [] := by
        rw [get_updateShader_self]
        rfl
      have htaken (x : Int) (u : W) := setHandle_attributed hcall x
        (s.updateShader k (explained []), u) ⟨attributed_of_nil hbare, fun _ => hbare⟩
      -- the stage has no handle, so it may keep what was said
      have hclose {ds : List Diagnostic} {f : Shader W → Shader W}
          (hf : (f (s.shaders.get k)).handle = (s.shaders.get k).handle ∧
            (f (s.shaders.get k)).diagnostics = ds) (hds : ∀ d ∈ ds, LogLine (some k) d) :
          Attributed k ((s.updateShader k f).shaders.get k) := by
        rw [get_updateShader_self]
        exact ⟨hf.2 ▸ hds, fun hn => absurd (hf.1.trans hh) hn⟩
      cases htried with
      | blank => exact hclose ⟨rfl, rfl⟩ nofun
      | refused _ hd => exact hclose ⟨rfl, rfl⟩ (logLine_declined hd)
      | raised _ hd => exact hclose ⟨rfl, rfl⟩ (logLine_declined hd)
      | @passed x source u v t _ _ ht =>
          have hx := htaken x u
          rw [ht] at hx
          change Attributed k ((t.updateShader k (settled source)).shaders.get k)
          rw [get_updateShader_self]
          exact ⟨hx.lines, hx.held⟩
      | @interrupted x source fault u t _ _ ht =>
          have hx := htaken x u
          rw [ht] at hx
          exact hx

end Stages

/-- The diagnostics of linking are lines of its log; if `strict`, none stand beside a program. -/
structure Linking (strict : Prop) (s : Studio W P × W) : Prop where
  lines : ∀ d ∈ s.1.linkDiagnostics, LogLine none d
  exclusive : strict → s.1.linkDiagnostics = [] ∨ s.1.program = none

section Linking

variable {strict : Prop}

theorem beside_linking : Beside (Linking (W := W) (P := P) strict) where
  portable s bin program w v hprogram h := by
    refine ⟨h.lines, fun hs => ?_⟩
    obtain rfl | rfl := hprogram
    · exact h.exclusive hs
    · exact .inr rfl
  shader _ _ _ _ h := ⟨h.lines, h.exclusive⟩

theorem beside_unlinked : Beside fun s : Studio W P × W => strict → s.1.linkDiagnostics = [] :=
  ⟨fun _ _ _ _ _ _ h => h, fun _ _ _ _ h => h⟩

variable [Records W] {call : Text → Change → Act (Studio W P × W) Unit}

theorem linkWith_linking (link : Context W P) (args : LinkArgs) :
    Leads (fun s => (Linking strict s ∧ (strict → s.1.linkDiagnostics = [])) ∧ s.1.program = none)
      (linkWith link args) fun _ => Linking strict := by
  rintro ⟨s, w⟩ ⟨⟨h, hempty⟩, hnone⟩
  have hlinked := outcome_linkWith (s := s) (w := w) link args
  generalize (linkWith link args).outcome (s, w) = o at hlinked ⊢
  cases hlinked with
  | linked => exact ⟨h.lines, fun hs => .inl (hempty hs)⟩
  | refused => exact ⟨List.forall_mem_append.mpr ⟨h.lines, logLine_lines _⟩, fun _ => .inr hnone⟩
  | broken => exact ⟨h.lines, h.exclusive⟩

theorem compileProgram_linking (hcall : ∀ name c, Keeps (Linking strict) (call name c))
    (hempty : ∀ name c, Keeps (fun s => strict → s.1.linkDiagnostics = []) (call name c)) :
    Keeps (Linking strict) (compileProgram call) := by
  let I (s : Studio W P × W) : Prop := Linking strict s ∧ (strict → s.1.linkDiagnostics = [])
  have hcompile (k : Stage) : Keeps I (compile call k) := fun s h =>
    ⟨(beside_linking.elsewhere k).compile hcall s h.1,
      (beside_unlinked.elsewhere k).compile hempty s h.2⟩
  refine Leads.change_bind (R := I) (fun s w h => ⟨⟨nofun, fun _ => .inl rfl⟩, fun _ => rfl⟩) ?_
  refine Leads.bind (R := fun _ => I) (Keeps.mapM fun k _ => hcompile k) (fun verdicts => ?_)
    fun _ _ h => h.1
  refine Leads.ite (fun _ => ?_) fun _ => Leads.pure fun _ h => h.1
  refine Leads.bind leads_own (fun t => ?_) fun _ _ h => h.1.1
  split
  case h_1 link args hnone _ _ =>
      refine (linkWith_linking link args).mono ?_ fun _ _ h => h
      rintro s ⟨h, ht⟩
      cases ht
      exact ⟨h, hnone⟩
  case h_2 => exact Leads.pure fun _ h => h.1.1

end Linking

section Runs

variable [Records W] {device : Device W P V} {listener : Listener W P V}

theorem perform_attributed
    (hl : ∀ name c, (listener name c).Within Request.Unforged fun _ => True) (k : Stage)
    (depth : Nat) {r : Request W P V} (hr : r.Unforged) :
    Keeps (fun s => Attributed k (s.1.shaders.get k)) (perform device listener depth r) := by
  have hrespond {call : Text → Change → Act (Studio W P × W) Unit}
      (hcall : ∀ name c, Keeps (fun s => Attributed k (s.1.shaders.get k)) (call name c))
      {r : Request W P V} (hr : r.Unforged) :
      Keeps (fun s => Attributed k (s.1.shaders.get k)) (respond device call r) := by
    apply respond_get (fun _ _ hab h => h.untouched hab) hcall device
    case hcode => exact fun code _ => setCode_attributed hcall code
    case hhandle =>
        rintro x rfl
        cases hr
        exact giveUp_attributed hcall
    case hcompile => exact fun _ => compile_attributed hcall
    case hreset => exact fun _ => reset_attributed hcall
    case hcompiler => exact fun _ _ _ h => ⟨h.lines, h.held⟩
    case hresolver => exact fun _ _ _ h => ⟨h.lines, h.held⟩
  exact keeps_perform hl (fun _ _ _ _ h => h) (fun _ hcall r hr => hrespond hcall hr) depth hr

theorem perform_linking {strict : Prop} (hl : strict → listener.OnlyReads) (depth : Nat)
    (r : Request W P V) : Keeps (Linking strict) (perform device listener depth r) := by
  refine perform_induction (Q := fun _ => Keeps (Linking strict))
    (C := fun call => ∀ name c, Keeps (Linking strict) (call name c) ∧
      Keeps (fun s => strict → s.1.linkDiagnostics = []) (call name c))
    (fun _ _ => ⟨.throw _, .throw _⟩) (fun depth ih name c => ⟨?_, fun s h hs => ?_⟩)
    (fun call hcall r => ?_) depth r
  · exact Client.keeps_run (fun r _ => ih r) (fun _ _ _ _ h => ⟨h.lines, h.exclusive⟩)
      (Client.within_true (listener name c))
  · exact (hl hs).overlooking depth _ beside_unlinked.aloof name c s h hs
  · exact beside_linking.respond (fun name c => (hcall name c).1) device
      (fun _ _ _ _ h => ⟨h.lines, h.exclusive⟩) fun _ =>
        compileProgram_linking (fun name c => (hcall name c).1) fun name c => (hcall name c).2

omit [Records W] in
theorem diagnosticsFor_eq {s : Studio W P}
    (hstages : ∀ k, ∀ d ∈ (s.shaders.get k).diagnostics, d.stage = some k)
    (hlinks : ∀ d ∈ s.linkDiagnostics, d.stage = none) (k : Stage) :
    s.diagnosticsFor k = (s.shaders.get k).diagnostics := by
  have hself : ((s.shaders.get k).diagnostics.filter fun d => d.stage == some k) =
      (s.shaders.get k).diagnostics :=
    List.filter_eq_self.mpr fun d hd => by rw [hstages k d hd]; exact beq_self_eq_true _
  have hother (j : Stage) (hj : j ≠ k) :
      ((s.shaders.get j).diagnostics.filter fun d => d.stage == some k) = [] := by
    refine List.filter_eq_nil_iff.mpr fun d hd => ?_
    rw [hstages j d hd]
    simpa using hj
  have hlink : (s.linkDiagnostics.filter fun d => d.stage == some k) = [] := by
    refine List.filter_eq_nil_iff.mpr fun d hd => ?_
    rw [hlinks d hd]
    exact Bool.false_ne_true
  have hall : (Stage.all.flatMap fun j =>
      (s.shaders.get j).diagnostics.filter fun d => d.stage == some k) =
        (s.shaders.get k).diagnostics := by
    conv_rhs => rw [← hself]
    cases k <;> simp [Stage.all, hother]
  rw [diagnosticsFor, diagnostics, List.filter_append, List.filter_flatMap, hall, hlink,
    List.append_nil]

/-- Whatever was asked of the studio before, and whoever failed meanwhile: the diagnostics of a
stage are those it is asked for, all others are of linking, each is a line of a log, and a stage
with a handle has none. Unless a listener interferes there are none of linking beside a program. -/
theorem diagnostics_attributed
    (hl : ∀ name c, (listener name c).Within Request.Unforged fun _ => True)
    (compiler : Option (Compiler W)) (resolver : Option (Resolver W)) (settings : Settings)
    (context : Option (Context W P)) (w : W) {s : Studio W P × W}
    (h : Reached device listener Request.Unforged (fun _ => True)
      (opened compiler resolver settings context, w) s) :
    (∀ k, s.1.diagnosticsFor k = (s.1.shaders.get k).diagnostics) ∧
    s.1.diagnostics = Stage.all.flatMap (fun k => s.1.diagnosticsFor k) ++ s.1.linkDiagnostics ∧
    (∀ k, ∀ d ∈ s.1.diagnosticsFor k, LogLine (some k) d) ∧
    (∀ d ∈ s.1.linkDiagnostics, LogLine none d) ∧
    (∀ k, (s.1.shaders.get k).handle ≠ 0 → s.1.diagnosticsFor k = []) ∧
    (listener.OnlyReads → s.1.linkDiagnostics ≠ [] → s.1.program = none) := by
  have hstage (k : Stage) : Attributed k (s.1.shaders.get k) := by
    refine h.holds (I := fun s => Attributed k (s.1.shaders.get k)) ?_
      (fun depth r hr => perform_attributed hl k depth hr) fun _ _ _ _ h => h
    rw [get_opened]
    exact attributed_of_nil rfl
  have hlink : Linking listener.OnlyReads s :=
    h.holds ⟨nofun, fun _ => .inl rfl⟩ (fun depth r _ => perform_linking (fun hs => hs) depth r)
      fun _ _ _ _ h => ⟨h.lines, h.exclusive⟩
  have hfor := diagnosticsFor_eq (fun k d hd => ((hstage k).lines d hd).stage)
    fun d hd => (hlink.lines d hd).stage
  refine ⟨hfor, ?_, fun k => ?_, hlink.lines, fun k hh => ?_, fun hs hn => ?_⟩
  · rw [funext hfor]
    rfl
  · rw [hfor k]
    exact (hstage k).lines
  · rw [hfor k]
    exact (hstage k).held hh
  · exact (hlink.exclusive hs).resolve_left hn

end Runs

namespace Bench

/-- It refuses to link, in two lines. -/
def refusingContext : Context Bench Nat :=
  fun _ => throw (.raised .link "ERROR: 0:12: no main  \n \nlinking failed".toList)

def failedRun : Studio Bench Nat × Bench :=
  performAll device Listener.onlooker 1
    [.subscribe .vertex ['l'], .setCode .vertex ['v'], .compileProgram, .setCode .fragment ['x'],
      .compile .fragment]
    (opened (some (compiler ['x'])) none {} (some refusingContext), {})

theorem diagnostics_attributed_failed :
    (failedRun.1.shaders.get .vertex).handle ≠ 0 ∧ failedRun.1.diagnosticsFor .vertex = [] ∧
    failedRun.1.diagnosticsFor .fragment = [⟨"0(1) : error".toList, some .fragment, 1⟩] ∧
    failedRun.1.linkDiagnostics =
      [⟨"ERROR: 0:12: no main".toList, none, 12⟩, ⟨"linking failed".toList, none, 0⟩] ∧
    failedRun.1.program = none := by
  have hunforged (name : Text) (c : Change) :
      ((Listener.onlooker : Listener Bench Nat Unit) name c).Within Request.Unforged
        fun _ => True :=
    ⟨trivial, fun _ => trivial⟩
  have hreached : Reached device Listener.onlooker Request.Unforged (fun _ => True)
      (opened (some (compiler ['x'])) none {} (some refusingContext), {}) failedRun :=
    Reached.start.performAll 1 (by simp [Request.Unforged])
  have hhandle : (failedRun.1.shaders.get .vertex).handle ≠ 0 := by decide +kernel
  have hrefused : (failedRun.1.shaders.get .fragment).diagnostics =
      [⟨"0(1) : error".toList, some .fragment, 1⟩] := by decide +kernel
  have hlinks : failedRun.1.linkDiagnostics =
      [⟨"ERROR: 0:12: no main".toList, none, 12⟩, ⟨"linking failed".toList, none, 0⟩] := by
    decide +kernel
  obtain ⟨hfor, _, _, _, hheld, hexclusive⟩ := diagnostics_attributed hunforged _ _ _ _ _ hreached
  refine ⟨hhandle, hheld .vertex hhandle, (hfor .fragment).trans hrefused, hlinks, ?_⟩
  exact hexclusive Listener.onlooker_onlyReads (by rw [hlinks]; exact List.cons_ne_nil _ _)

end Bench

end ShaderPipeline.Studio
