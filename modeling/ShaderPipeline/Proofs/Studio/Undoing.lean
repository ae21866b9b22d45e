import ShaderPipeline.Proofs.Studio.Accounts
import ShaderPipeline.Proofs.Studio.Consistency

namespace ShaderPipeline.Studio

open Text Glsl Act

variable {W P V α : Type} {k : Stage}

section Ledger

variable {a : Shader (Audit W P)} {w u v : Audit W P} {l : List (Entry P)}

/-- What was created since the ledger was `l` has been deleted, and nothing else. -/
def Cleared (l : List (Entry P)) (w : Audit W P) : Prop :=
  ∃ es, w.ledger = l ++ es ∧ deleted es = created es ∧ (created es).length ≤ 1

theorem cleared_of_eq (h : w.ledger = l) : Cleared l w :=
  ⟨[], by rw [h, List.append_nil], rfl, Nat.zero_le 1⟩

theorem Reported.ledger [Records W] (h : Reported w v) : v.ledger = w.ledger := by
  rcases h with rfl | ⟨level, text, rfl⟩
  · rfl
  · rfl

theorem ledger_of_entered {a : Act W α} {e : Except Fault α → List (Entry P)} {r : Except Fault α}
    (h : (entered a e).outcome w = (r, v)) : v.ledger = w.ledger ++ e r := by
  obtain ⟨rfl, rfl⟩ := Prod.mk.inj h
  rfl

theorem expansion_ledger (hs : ∀ e, a.resolver = some e → ∃ e' : Resolver W, e = auditedResolver e')
    {r : Except Fault Text} (he : (expansion a).outcome w = (r, v)) : v.ledger = w.ledger := by
  rw [expansion] at he
  split at he
  · cases hr : a.resolver with
    | none =>
        rw [hr] at he
        cases he
        rfl
    | some e =>
        obtain ⟨e, rfl⟩ := hs e hr
        rw [hr] at he
        exact (ledger_of_entered he).trans (List.append_nil _)
  · cases he
    rfl

theorem judge_ledger {c : Compiler W} {x : Int} {source : Text} {j : Except Fault (Option Text)}
    (h : (judge (auditedCompiler c) x source).outcome w = (j, v)) :
    ∃ es, v.ledger = w.ledger ++ es ∧ created es = [] ∧ deleted es = [] := by
  have hused {β : Type} (act : Act W β) : Keeps
      (fun v : Audit W P => ∃ es, v.ledger = w.ledger ++ es ∧ created es = [] ∧ deleted es = [])
      (entered act fun _ => [.used x]) := by
    rintro v ⟨es, hv, hc, hd⟩
    refine ⟨es ++ [.used x], ?_, ?_, ?_⟩
    · change v.ledger ++ [.used x] = _
      rw [hv, List.append_assoc]
    · rw [created_append, hc]
      rfl
    · rw [deleted_append, hd]
      rfl
  have hjudge : Keeps
      (fun v : Audit W P => ∃ es, v.ledger = w.ledger ++ es ∧ created es = [] ∧ deleted es = [])
      (judge (auditedCompiler c) x source) := by
    refine Keeps.bind (hused _) fun _ => Keeps.bind (hused _) fun passed => ?_
    cases passed with
    | true => exact .pure _
    | false => exact Keeps.bind (hused _) fun _ => .pure _
  have hv := hjudge w ⟨[], (List.append_nil _).symm, rfl, rfl⟩
  rw [h] at hv
  exact hv

theorem Declined.cleared [Records W] {r : Except Fault Bool} {ds : List Diagnostic}
    (h : Declined k a w r ds u)
    (hc : ∀ c, a.compiler = some c → ∃ c' : Compiler W, c = auditedCompiler c')
    (he : ∀ e, a.resolver = some e → ∃ e' : Resolver W, e = auditedResolver e') :
    Cleared w.ledger u := by
  cases h with
  | idle => exact cleared_of_eq rfl
  | broken _ hx => exact cleared_of_eq (expansion_ledger he hx)
  | unexpanded _ hx _ hu => exact cleared_of_eq (hu.ledger.trans (expansion_ledger he hx))
  | empty _ hx => exact cleared_of_eq (expansion_ledger he hx)
  | @homeless c source fault v u hcompiler hx hs hcreate =>
      obtain ⟨c, rfl⟩ := hc c hcompiler
      have hcreated := ledger_of_entered hcreate
      exact cleared_of_eq ((hcreated.trans (List.append_nil _)).trans (expansion_ledger he hx))
  | @undone c source x v v₁ v₂ v₃ u j d hcompiler hx hs hcreate hj hn hd hu =>
      obtain ⟨c, rfl⟩ := hc c hcompiler
      have hcreated : v₁.ledger = v.ledger ++ [.created x] := ledger_of_entered hcreate
      have hdeleted : v₃.ledger = v₂.ledger ++ [.deleted x] :=
        ledger_of_entered (a := c.delete x) (e := fun _ => [.deleted x]) hd
      obtain ⟨es, hjudged, hces, hdes⟩ := judge_ledger hj
      refine ⟨[.created x] ++ es ++ [.deleted x], ?_, ?_, ?_⟩
      · rw [hu.ledger, hdeleted, hjudged, hcreated, expansion_ledger he hx]
        simp only [List.append_assoc]
      · rw [deleted_append, deleted_append, created_append, created_append, hces, hdes]
        rfl
      · rw [created_append, created_append, hces]
        exact Nat.le_refl 1

end Ledger

/-- How an attempt on the shader `a` in the world `w` came to leave the diagnostics `ds` as it failed:
with the message of an expansion or the log of a refusal, read up to a number that is too long, or with
the log of a refusal after which the handle could not be deleted. -/
inductive LeftBehind (k : Stage) (a : Shader W) (w : W) : Fault → List Diagnostic → Prop
  | unexpanded {e fault : Fault} {ds : List Diagnostic} {v : W}
      (he : (expansion a).outcome w = (.error e, v)) (hf : e.family = .expansion)
      (hl : readLines (some k) (lines e.explanation) = (.error fault, ds)) :
      LeftBehind k a w fault ds
  | unread {c : Compiler W} {source log : Text} {x : Int} {fault : Fault} {ds : List Diagnostic}
      {v v₁ v₂ v₃ : W} (hc : a.compiler = some c) (he : (expansion a).outcome w = (.ok source, v))
      (hx : (c.create k.token).outcome v = (.ok x, v₁))
      (hj : (judge c x source).outcome v₁ = (.ok (some log), v₂))
      (hd : (c.delete x).outcome v₂ = (.ok (), v₃))
      (hl : readLines (some k) (lines log) = (.error fault, ds)) : LeftBehind k a w fault ds
  | undeleted {c : Compiler W} {source log : Text} {x : Int} {fault : Fault} {v v₁ v₂ v₃ : W}
      (hc : a.compiler = some c) (he : (expansion a).outcome w = (.ok source, v))
      (hx : (c.create k.token).outcome v = (.ok x, v₁))
      (hj : (judge c x source).outcome v₁ = (.ok (some log), v₂))
      (hd : (c.delete x).outcome v₂ = (.error fault, v₃)) :
      LeftBehind k a w fault (readLines (some k) (lines log)).2

theorem Declined.leftBehind [Records W] {a : Shader W} {w u : W} {fault : Fault}
    {ds : List Diagnostic} (h : Declined k a w (.error fault) ds u) :
    ds = [] ∨ LeftBehind k a w fault ds := by
  generalize hr : (.error fault : Except Fault Bool) = r at h
  have hread {log : Text}
      (hm : .error fault = (readLines (some k) (lines log)).1.map fun _ => false) :
      readLines (some k) (lines log) = (.error fault, (readLines (some k) (lines log)).2) := by
    cases hl : readLines (some k) (lines log) with
    | mk r ds =>
        rw [hl] at hm
        cases r with
        | ok _ => cases hm
        | error f =>
            cases hm
            rfl
  cases h with
  | idle | broken | homeless => exact .inl rfl
  | empty => cases hr
  | unexpanded hc he hf hu => exact .inr (.unexpanded he hf (hread hr))
  | @undone c source x v v₁ v₂ v₃ u j d hc he hs hx hj hn hd hu =>
      match j, hn, hj with
      | .ok none, hn, _ => exact absurd rfl hn
      | .error _, _, _ => exact .inl rfl
      | .ok (some log), _, hj =>
          right
          cases d with
          | ok _ => exact .unread hc he hx hj hd (hread hr)
          | error f =>
              cases hr
              exact .undeleted hc he hx hj hd

/-- An attempt on the stage led from `s` to `t` and took back what it did: the studio has changed in
the diagnostics `ds` of the stage only, what was created is deleted, nothing is known of the code,
and another attempt goes as the first one would. -/
structure Undone [Records W] (device : Device W P V) (listener : Listener (Audit W P) P V) (k : Stage)
    (ds : List Diagnostic) (s t : Studio (Audit W P) P × Audit W P) : Prop where
  studio : t.1 = s.1.updateShader k (explained ds)
  handle : (t.1.shaders.get k).handle = 0
  verdict : (t.1.shaders.get k).verdict = none
  ledger : Cleared s.2.ledger t.2
  retries : ∀ depth w,
    (perform (auditedDevice device) listener depth (.compile k)).outcome (t.1, w) =
      (perform (auditedDevice device) listener depth (.compile k)).outcome (s.1, w)

section Runs

variable [Records W] {device : Device W P V} {listener : Listener (Audit W P) P V}

theorem outcome_compile_explained {call : Text → Change → Act (Studio W P × W) Unit}
    {s : Studio W P} (hh : (s.shaders.get k).handle = 0) (hv : (s.shaders.get k).verdict = none)
    (ds : List Diagnostic) (w : W) :
    (compile call k).outcome (s.updateShader k (explained ds), w) =
      (compile call k).outcome (s, w) := by
  have hget : (s.updateShader k (explained ds)).shaders.get k = explained ds (s.shaders.get k) :=
    get_updateShader_self s k (explained ds)
  rw [outcome_compile_unknown call (s := (s.updateShader k (explained ds), w)) (by rw [hget]; exact hh)
    (by rw [hget]; exact hv), outcome_compile_unknown call (s := (s, w)) hh hv,
    updateShader_updateShader]
  rfl

omit [Records W] in
theorem Request.Lawful.unforged {r : Request (Audit W P) P V} (h : r.Lawful) : r.Unforged := by
  cases r with
  | setHandle k x => exact h
  | _ => trivial

theorem Reached.sound [DecidableEq P] {start s : Studio (Audit W P) P × Audit W P}
    (hl : listener.Lawful)
    (h : Reached (auditedDevice device) listener Request.Lawful Unledgered start s)
    (hstart : Sound [] [] start) : Sound [] [] s :=
  h.holds hstart (fun depth _ hr => perform_keeps device hl depth hr)
    fun _ hu _ w h => h.mono h.supervised (hu w) rfl rfl rfl

/-- If compiling fails, and those who listen never do, what it did is taken back, and there are no
diagnostics, unless it was a log that could not be read to the end, or the compiler refused the source
and then failed to delete its handle. If those who listen only read, there is no compiled text
either. -/
theorem compile_undone [DecidableEq P] (hl : listener.Lawful)
    (hcalm : ∀ name c, (listener name c).Calm) (compiler : Option (Compiler W))
    (resolver : Option (Resolver W)) (settings : Settings) (context : Option (Context W P)) (w : W)
    {s t : Studio (Audit W P) P × Audit W P}
    (hs : Reached (auditedDevice device) listener Request.Lawful Unledgered
      (opened (compiler.map auditedCompiler) (resolver.map auditedResolver) settings
        (context.map auditedContext), { world := w }) s) {k : Stage} {depth : Nat} {fault : Fault}
    (h : (perform (auditedDevice device) listener (depth + 1) (.compile k)).outcome s
      = (.error fault, t)) :
    ∃ ds, Undone device listener k ds s t ∧
      (ds = [] ∨ LeftBehind k (s.1.shaders.get k) s.2 fault ds) ∧
      (listener.OnlyReads → (t.1.shaders.get k).compiledText = []) := by
  have hsound := hs.sound hl (opened_sound compiler resolver settings context w)
  obtain ⟨hh, hv, ds, u, hd, rfl⟩ :=
    raised_of_compile _ (fun name c => (hcalm name c).returns _) h
  refine ⟨ds, ⟨rfl, ?_, ?_, ?_, fun depth w => ?_⟩, hd.leftBehind, fun hreads => ?_⟩
  · rw [get_updateShader_self]
    exact hh
  · rw [get_updateShader_self]
    exact hv
  · exact hd.cleared (hsound.supervised.compiler k) (hsound.supervised.resolver k)
  · cases depth with
    | zero => exact outcome_compile_explained hh hv ds w
    | succ depth => exact outcome_compile_explained hh hv ds w
  · have hconsistent : Consistent False (s.1.shaders.get k) :=
      hs.consistent hreads (fun _ hr => hr.unforged) False.elim
        (opened_consistent False.elim False.elim settings _) k
    rw [get_updateShader_self]
    exact hconsistent.bare hh hv

end Runs

namespace Bench

/-- It refuses what holds the mark, and cannot delete it then. -/
def clingingCompiler (mark : Text) : Compiler Bench :=
  { compiler mark with delete := fun _ => throw (.raised .runtime "gone".toList) }

def clungStudio : Studio (Audit Bench Nat) Nat × Audit Bench Nat :=
  performAll (auditedDevice device) Listener.idle 1 [.setCode .vertex ['x']]
    (opened (some (auditedCompiler (clingingCompiler ['x']))) none {} none, { world := {} })

theorem clungStudio_reached :
    Reached (auditedDevice device) Listener.idle Request.Lawful Unledgered
      (opened ((some (clingingCompiler ['x'])).map auditedCompiler)
        ((none : Option (Resolver Bench)).map auditedResolver) {}
        ((none : Option (Context Bench Nat)).map auditedContext), { world := {} }) clungStudio := by
  refine Reached.start.performAll 1 fun r hr => ?_
  rw [List.mem_singleton.mp hr]
  trivial

/-- The diagnostics of the refusal are still there when the attempt has failed. -/
theorem clungStudio_diagnostics :
    Reached (auditedDevice device) Listener.idle Request.Lawful Unledgered
      (opened ((some (clingingCompiler ['x'])).map auditedCompiler)
        ((none : Option (Resolver Bench)).map auditedResolver) {}
        ((none : Option (Context Bench Nat)).map auditedContext), { world := {} }) clungStudio ∧
    (clungStudio.1.shaders.get .vertex).handle = 0 ∧
    let o := (perform (auditedDevice device) Listener.idle 1 (.compile .vertex)).outcome clungStudio
    o.1 = .error (.raised .runtime "gone".toList) ∧
    (o.2.1.shaders.get .vertex).diagnostics =
      [⟨"0(1) : error".toList, some .vertex, 1⟩] :=
  ⟨clungStudio_reached, by decide +kernel, by decide +kernel, by decide +kernel⟩

theorem compile_undone_clung : ∃ ds t,
    (perform (auditedDevice device) Listener.idle 1 (.compile .vertex)).outcome clungStudio
      = (.error (.raised .runtime "gone".toList), t) ∧
    Undone device Listener.idle .vertex ds clungStudio t ∧
    LeftBehind .vertex (clungStudio.1.shaders.get .vertex) clungStudio.2
      (.raised .runtime "gone".toList) ds ∧
    (t.1.shaders.get .vertex).compiledText = [] := by
  have hidle : Listener.Lawful (Listener.idle : Listener (Audit Bench Nat) Nat Unit) :=
    fun _ _ => trivial
  have hfault : ((perform (auditedDevice device) Listener.idle 1 (.compile .vertex)).outcome
      clungStudio).1 = .error (.raised .runtime "gone".toList) := by decide +kernel
  obtain ⟨ds, hundone, hleft, htext⟩ := compile_undone hidle (fun _ _ => trivial)
    (some (clingingCompiler ['x'])) none {} none {} clungStudio_reached (Prod.ext hfault rfl)
  refine ⟨ds, _, Prod.ext hfault rfl, hundone, hleft.resolve_left ?_, htext fun _ _ => trivial⟩
  rintro rfl
  have hnone := congrArg (fun s => (s.shaders.get .vertex).diagnostics) hundone.studio
  rw [get_updateShader_self] at hnone
  revert hnone
  decide +kernel

end Bench

end ShaderPipeline.Studio
