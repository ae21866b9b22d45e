import ShaderPipeline.Proofs.Studio.Changes

namespace ShaderPipeline.Studio

open Text Glsl Act

variable {W P α : Type} {k : Stage}

def Unheard (k : Stage) (s : Studio W P) : Prop := (s.shaders.get k).channel.listeners = []

instance (k : Stage) (s : Studio W P) : Decidable (Unheard k s) :=
  inferInstanceAs (Decidable ((s.shaders.get k).channel.listeners = []))

/-- What an operation on the stage `k` may change. -/
structure Confined (k : Stage) (s t : Studio W P) : Prop where
  others : ∀ j, j ≠ k → t.shaders.get j = s.shaders.get j
  program : t.program = s.program ∧ (t.shaders.get k).handle = (s.shaders.get k).handle ∨
    t.program = none
  context : t.context = s.context
  links : t.linkDiagnostics = s.linkDiagnostics

theorem Confined.refl (s : Studio W P) : Confined k s s := ⟨fun _ _ => rfl, .inl ⟨rfl, rfl⟩, rfl, rfl⟩

theorem Confined.trans {s t u : Studio W P} (h : Confined k s t) (h' : Confined k t u) :
    Confined k s u := by
  refine ⟨fun j hj => (h'.others j hj).trans (h.others j hj), ?_, h'.context.trans h.context,
    h'.links.trans h.links⟩
  rcases h'.program with ⟨hp', hh'⟩ | hn
  · rcases h.program with ⟨hp, hh⟩ | hn
    · exact .inl ⟨hp'.trans hp, hh'.trans hh⟩
    · exact .inr (hp'.trans hn)
  · exact .inr hn

theorem Confined.updateShader (s : Studio W P) {f : Shader W → Shader W}
    (hf : (f (s.shaders.get k)).handle = (s.shaders.get k).handle) :
    Confined k s (s.updateShader k f) := by
  refine ⟨fun j hj => ?_, .inl ⟨rfl, ?_⟩, rfl, rfl⟩
  · rw [get_updateShader, if_neg hj]
  · rw [get_updateShader_self, hf]

def withHandle (k : Stage) (x : Int) (a : Shader W) : Shader W :=
  if x = a.handle then a else posted k .handle { a with handle := x, scanned := none }

theorem Unheard.updateShader {s : Studio W P} (h : Unheard k s) {f : Shader W → Shader W}
    (hf : (f (s.shaders.get k)).channel.listeners = (s.shaders.get k).channel.listeners) :
    Unheard k (s.updateShader k f) := by
  rw [Unheard]
  rw [get_updateShader_self, hf]
  exact h

variable (call : Text → Change → Act (Studio W P × W) Unit)

theorem tell_unheard {s : Studio W P} (h : Unheard k s) (property : Property) :
    tell call k property s = pure () := by
  rw [tell]
  rw [h]
  rfl

theorem notify_code_unheard {s : Studio W P} (h : Unheard k s) (w : W) :
    (notify call k .code).outcome (s, w) = (.ok (), (s.updateShader k (posted k .code), w)) := by
  rw [outcome_notify_code, tell_unheard call h]
  rfl

theorem confined_exchanged (s : Studio W P) (x : Int) : Confined k s (exchanged k x s) := by
  refine ⟨fun j hj => ?_, .inr rfl, rfl, rfl⟩
  rw [exchanged]
  rw [get_updateShader_of_ne _ _ hj, get_updateShader_of_ne _ _ hj]

theorem confined_zeroed (s : Studio W P) (x : Int) : Confined k s (zeroed k x s) := by
  rw [zeroed]
  split
  · exact Confined.updateShader s rfl
  · exact Confined.refl s

theorem setHandle_unheard {s : Studio W P} (h : Unheard k s) (x : Int) (w : W) :
    ∃ t, (setHandle call k x).outcome (s, w) = (.ok (), (t, w)) ∧ Confined k s t ∧
      t.shaders.get k =
        withHandle k x (if x = 0 then cleared (s.shaders.get k) else s.shaders.get k) := by
  have hz := confined_zeroed (k := k) s x
  have hhandle : (if x = 0 then cleared (s.shaders.get k) else s.shaders.get k).handle =
      (s.shaders.get k).handle := by split <;> rfl
  rw [outcome_setHandle, tell_unheard call h, withHandle, hhandle]
  split
  case isTrue => exact ⟨_, rfl, hz, get_zeroed x s⟩
  case isFalse =>
      refine ⟨_, rfl, hz.trans (confined_exchanged _ x), ?_⟩
      rw [get_exchanged, get_zeroed]

theorem withHandle_eq (x : Int) (a : Shader W) : ∃ scanned channel,
    withHandle k x a = { a with handle := x, scanned := scanned, channel := channel } ∧
      channel.listeners = a.channel.listeners := by
  by_cases hx : x = a.handle
  · refine ⟨a.scanned, a.channel, ?_, rfl⟩
    rw [withHandle, if_pos hx, hx]
  · refine ⟨none, a.channel.post ⟨k, .handle⟩, ?_, rfl⟩
    rw [withHandle, if_neg hx]
    rfl

theorem listeners_withHandle (x : Int) (a : Shader W) :
    (withHandle k x a).channel.listeners = a.channel.listeners := by
  obtain ⟨scanned, channel, he, hl⟩ := withHandle_eq (k := k) x a
  rw [he]
  exact hl

theorem handle_withHandle (x : Int) (a : Shader W) : (withHandle k x a).handle = x := by
  obtain ⟨scanned, channel, he, _⟩ := withHandle_eq (k := k) x a
  rw [he]

theorem setCode_unheard {s : Studio W P} (h : Unheard k s) (code : Text) (w : W) :
    ∃ t, (setCode call k code).outcome (s, w) = (.ok (), (t, w)) ∧ Confined k s t ∧
      t.shaders.get k = if code = (s.shaders.get k).code then s.shaders.get k else
        posted k .code { withHandle k 0 (cleared { s.shaders.get k with
          code := code, scanned := none, diagnostics := [] }) with verdict := none } := by
  by_cases hx : code = (s.shaders.get k).code
  · subst hx
    exact ⟨s, outcome_setCode_same call s w, Confined.refl s, (if_pos rfl).symm⟩
  · let g : Shader W → Shader W := fun a => { a with verdict := none }
    obtain ⟨t, ht, hc, hg⟩ := setHandle_unheard call (h.updateShader (f := recoded code) rfl) 0 w
    rw [if_pos rfl, get_updateShader_self] at hg
    have hu : Unheard k t := by
      rw [Unheard]
      rw [hg, listeners_withHandle]
      exact h
    refine ⟨(t.updateShader k g).updateShader k (posted k .code), ?_, ?_, ?_⟩
    · rw [outcome_setCode call hx, outcome_bind_ok _ ht,
        outcome_bind_ok _ (outcome_changeShader k g t w)]
      exact notify_code_unheard call (hu.updateShader (f := g) rfl) w
    · refine (Confined.updateShader s rfl).trans (hc.trans ?_)
      exact (Confined.updateShader t rfl).trans (Confined.updateShader _ rfl)
    · rw [get_updateShader_self, get_updateShader_self, hg, if_neg hx]
      rfl

theorem reset_unheard {s : Studio W P} (h : Unheard k s) (w : W) :
    ∃ t, (reset call k).outcome (s, w) = (.ok (), (t, w)) ∧ Confined k s t ∧
      t.shaders.get k =
        { withHandle k 0 (cleared (s.shaders.get k)) with diagnostics := [] } := by
  obtain ⟨t, ht, hc, hg⟩ := setHandle_unheard call h 0 w
  rw [if_pos rfl] at hg
  refine ⟨t.updateShader k fun a => { a with diagnostics := [] }, ?_,
    hc.trans (Confined.updateShader t rfl), ?_⟩
  · exact outcome_bind_ok _ ht
  · rw [get_updateShader_self, hg]

theorem resets_unheard {s : Studio W P} (hu : ∀ k, Unheard k s) (ks : List Stage) (w : W) :
    ∃ t, (ks.forM (reset call)).outcome (s, w) = (.ok (), (t, w)) ∧ (∀ k, Unheard k t) ∧
      ∀ k, k ∈ ks ∨ (s.shaders.get k).handle = 0 → (t.shaders.get k).handle = 0 := by
  induction ks generalizing s with
  | nil => exact ⟨s, rfl, hu, fun k hk => hk.resolve_left (by simp)⟩
  | cons k ks ih =>
      obtain ⟨t, ht, hc, hg⟩ := reset_unheard call (hu k) w
      have hlisteners (j : Stage) : Unheard j t := by
        by_cases hj : j = k
        · rw [hj, Unheard, hg]
          exact (listeners_withHandle 0 (cleared (s.shaders.get k))).trans (hu k)
        · rw [Unheard, hc.others j hj]
          exact hu j
      have hzero : (t.shaders.get k).handle = 0 := by
        rw [hg]
        exact handle_withHandle 0 _
      obtain ⟨u, hu, hl, hh⟩ := ih hlisteners
      refine ⟨u, (outcome_bind_ok _ ht).trans hu, hl, fun j hj => hh j ?_⟩
      by_cases hjk : j = k
      · exact .inr (hjk ▸ hzero)
      · rw [hc.others j hjk]
        exact hj.imp_left fun hm => (List.mem_cons.mp hm).resolve_left hjk

theorem release_unheard {s : Studio W P} (hu : ∀ k, Unheard k s) (w : W) :
    ∃ t, (release call).outcome (s, w) = (.ok (), (t, w)) ∧ t.program = none ∧
      ∀ k, (t.shaders.get k).handle = 0 := by
  obtain ⟨t, ht, _, hh⟩ := resets_unheard call hu Stage.all w
  refine ⟨{ t with bin := t.bin.addProgram t.program, program := none }, ?_, rfl, fun k => ?_⟩
  · exact outcome_bind_ok _ ht
  · exact hh k (.inl (Stage.mem_all k))

end ShaderPipeline.Studio
