import ShaderPipeline.Proofs.Act.Agree
import ShaderPipeline.Proofs.Studio.Neighbours
import ShaderPipeline.Proofs.Studio.Verdicts

namespace ShaderPipeline.Studio

open Text Glsl Act

variable {W P V α : Type}

/-- What there is to see of a stage: its handle, the text it shows for it, and the calls of its
compiler. -/
structure View where
  handle : Int
  text : Text
  calls : List Call
  deriving DecidableEq

def view (k : Stage) (s : Studio (Logbook W) P × Logbook W) : View :=
  ⟨(s.1.shaders.get k).handle, (s.1.shaders.get k).compiledText, s.2.calls.get k⟩

namespace View

/-- A text is shown for a handle only, the one that the handle was given last. -/
def Sound (v : View) : Prop :=
  v.text ≠ [] → v.handle ≠ 0 ∧ lastGiven? v.handle v.calls = some v.text

/-- A text is shown whenever there is a handle, the one that the handle was given last. -/
def Settled (v : View) : Prop :=
  (v.handle ≠ 0 ↔ v.text ≠ []) ∧ (v.handle ≠ 0 → lastGiven? v.handle v.calls = some v.text)

instance (v : View) : Decidable v.Sound :=
  inferInstanceAs (Decidable (v.text ≠ [] →
    v.handle ≠ 0 ∧ lastGiven? v.handle v.calls = some v.text))

instance (v : View) : Decidable v.Settled :=
  inferInstanceAs (Decidable ((v.handle ≠ 0 ↔ v.text ≠ []) ∧
    (v.handle ≠ 0 → lastGiven? v.handle v.calls = some v.text)))

theorem Settled.sound {v : View} (h : v.Settled) : v.Sound := by
  intro ht
  have hh := h.1.mpr ht
  exact ⟨hh, h.2 hh⟩

theorem settled_of_bare {v : View} (hh : v.handle = 0) (ht : v.text = []) : v.Settled :=
  ⟨by simp [hh, ht], fun hn => absurd hh hn⟩

theorem Sound.bare {v : View} (h : v.Sound) (hh : v.handle = 0) : v.text = [] := by
  by_contra ht
  exact (h ht).1 hh

end View

structure Booked (s : Studio (Logbook W) P × Logbook W) : Prop where
  logs : ∀ j, Logs j 0 (s.1.shaders.get j) s.2
  context : ∀ link, s.1.context = some link → ∀ args w, SameLog w ((link args).outcome w).2

/-- What the stage shows is sound, and settled if `strict`. -/
structure Standing (strict : Prop) (k : Stage) (s : Studio (Logbook W) P × Logbook W) : Prop
    extends Booked s where
  sound : (view k s).Sound
  settled : strict → (view k s).Settled

section Frames

variable {strict : Prop} {j k : Stage} {s t : Studio (Logbook W) P} {w v : Logbook W}
variable {f : Shader (Logbook W) → Shader (Logbook W)}

theorem Booked.world (h : Booked (s, w)) (v : Logbook W) : Booked (s, v) :=
  ⟨fun j => ⟨(h.logs j).compiler, (h.logs j).resolver, Nat.zero_le _⟩, h.context⟩

theorem Booked.updateShader (h : Booked (s, w)) (hf : SameServices f) :
    Booked (s.updateShader j f, w) := by
  refine ⟨fun i => ?_, h.context⟩
  dsimp only
  rw [get_updateShader]
  split
  · exact (h.logs i).alike (hf _).1 (hf _).2
  · exact h.logs i

theorem Booked.zeroed (h : Booked (s, w)) (j : Stage) (x : Int) : Booked (zeroed j x s, w) := by
  rw [Studio.zeroed]
  split
  · exact h.updateShader fun _ => ⟨rfl, rfl⟩
  · exact h

theorem Booked.exchanged (h : Booked (s, w)) (j : Stage) (x : Int) :
    Booked (exchanged j x s, w) := by
  let t := s.updateShader j fun a => { a with handle := x, scanned := none }
  have hgiven : Booked (t, w) := h.updateShader fun _ => ⟨rfl, rfl⟩
  have hposted : Booked (t.updateShader j (posted j .handle), w) :=
    hgiven.updateShader fun _ => ⟨rfl, rfl⟩
  exact ⟨hposted.logs, hposted.context⟩

theorem view_eq (hs : t.shaders.get k = s.shaders.get k) (hw : v.calls.get k = w.calls.get k) :
    view k (t, v) = view k (s, w) := by
  rw [view, view, hs, hw]

theorem view_updateShader
    (hf : ∀ a, (f a).handle = a.handle ∧ (f a).compiledText = a.compiledText) :
    view k (s.updateShader j f, w) = view k (s, w) := by
  rw [view, view, get_updateShader]
  split
  · rw [(hf _).1, (hf _).2]
  · rfl

theorem Standing.of_view {s t : Studio (Logbook W) P × Logbook W} (h : Standing strict k s)
    (ht : Booked t) (hv : view k t = view k s) : Standing strict k t :=
  ⟨ht, hv ▸ h.sound, fun hs => hv ▸ h.settled hs⟩

theorem Booked.standing {s : Studio (Logbook W) P × Logbook W} (h : Booked s)
    (hv : (view k s).Settled) : Standing strict k s :=
  ⟨h, hv.sound, fun _ => hv⟩

theorem Standing.world (h : Standing strict k (s, w)) (hc : v.calls.get k = w.calls.get k) :
    Standing strict k (s, v) :=
  h.of_view (h.toBooked.world v) (view_eq rfl hc)

theorem Standing.updateShader (h : Standing strict k (s, w)) (hs : SameServices f)
    (hf : ∀ a, (f a).handle = a.handle ∧ (f a).compiledText = a.compiledText) :
    Standing strict k (s.updateShader j f, w) :=
  h.of_view (h.toBooked.updateShader hs) (view_updateShader hf)

theorem standing_aloof [Records W] : Aloof SameLog (Standing (W := W) (P := P) strict k) where
  shader j f s w hf h := h.updateShader (fun a => ⟨(hf a).compiler, (hf a).resolver⟩)
    fun a => ⟨(hf a).handle, (hf a).compiledText⟩
  world s w v hq h := h.world (by rw [hq.calls])
  reports _ _ _ := ⟨rfl, rfl⟩
  expand j s w e he h source := by
    obtain ⟨e, rfl⟩ := (h.logs j).resolver e he
    exact h.world rfl

end Frames

section Calls

variable {j k : Stage} {a : Shader (Logbook W)} {w u v : Logbook W} {x : Int} {source : Text}

def Uncalled (k : Stage) (w v : Logbook W) : Prop := v.calls.get k = w.calls.get k

/-- The compiler belongs to another stage. -/
structure Apart (k : Stage) (c : Compiler (Logbook W)) : Prop where
  create : ∀ token w, Uncalled k w ((c.create token).outcome w).2
  setSource : ∀ x source w, Uncalled k w ((c.setSource x source).outcome w).2
  compile : ∀ x w, Uncalled k w ((c.compile x).outcome w).2
  infoLog : ∀ x w, Uncalled k w ((c.infoLog x).outcome w).2
  delete : ∀ x w, Uncalled k w ((c.delete x).outcome w).2

theorem apart_loggedCompiler (hj : k ≠ j) (c : Compiler W) : Apart k (loggedCompiler j c) := by
  have hcall (call : Call) (w : Logbook W) :
      (w.calls.update j (call :: ·)).get k = w.calls.get k := by
    rw [PerStage.get_update, if_neg hj]
  exact ⟨fun _ w => hcall _ w, fun _ _ w => hcall _ w, fun _ w => hcall _ w, fun _ w => hcall _ w,
    fun _ w => hcall _ w⟩

theorem uncalled_reported [Records W] (h : Reported w u) : Uncalled k w u := by
  obtain rfl | ⟨level, text, rfl⟩ := h
  · rfl
  · rfl

theorem uncalled_expansion (h : Logs j 0 a w) {r : Except Fault Text}
    (he : (expansion a).outcome w = (r, v)) : Uncalled k w v := by
  rw [expansion] at he
  split at he
  · cases hr : a.resolver with
    | none =>
        rw [hr] at he
        cases he
        rfl
    | some e =>
        obtain ⟨e, rfl⟩ := h.resolver e hr
        rw [hr] at he
        cases he
        rfl
  · cases he
    rfl

theorem Apart.judge {c : Compiler (Logbook W)} (hc : Apart k c) (x : Int) (source : Text)
    (w : Logbook W) : Uncalled k w ((judge c x source).outcome w).2 := by
  have hjudge : Keeps (Uncalled k w) (Studio.judge c x source) := by
    refine Keeps.bind (fun v h => (hc.setSource x source v).trans h) fun _ => ?_
    refine Keeps.bind (fun v h => (hc.compile x v).trans h) fun passed => .ite (.pure _) ?_
    exact Keeps.bind (fun v h => (hc.infoLog x v).trans h) fun _ => .pure _
  exact hjudge w rfl

theorem Logs.apart (h : Logs j 0 a w) (hj : k ≠ j) {c : Compiler (Logbook W)}
    (hc : a.compiler = some c) : Apart k c := by
  obtain ⟨c, -, rfl⟩ := h.compiler c hc
  exact apart_loggedCompiler hj c

theorem uncalled_declined [Records W] (h : Logs j 0 a w) {r : Except Fault Bool}
    {ds : List Diagnostic} (hd : Declined j a w r ds u) (hj : k ≠ j) : Uncalled k w u := by
  cases hd with
  | idle => rfl
  | broken _ he | empty _ he => exact uncalled_expansion h he
  | unexpanded _ he _ hu => exact (uncalled_reported hu).trans (uncalled_expansion h he)
  | @homeless c _ _ v _ hc he _ hx =>
      have hcreated := (h.apart hj hc).create j.token v
      rw [hx] at hcreated
      exact hcreated.trans (uncalled_expansion h he)
  | @undone c source x v v₁ v₂ v₃ _ _ d hc he _ hx hjudge _ hd hu =>
      have hcreated := (h.apart hj hc).create j.token v
      have hjudged := (h.apart hj hc).judge x source v₁
      have hdeleted := (h.apart hj hc).delete x v₂
      rw [hx] at hcreated
      rw [hjudge] at hjudged
      rw [hd] at hdeleted
      exact (uncalled_reported hu).trans
        (hdeleted.trans (hjudged.trans (hcreated.trans (uncalled_expansion h he))))

theorem uncalled_accepted (h : Logs j 0 a w) (ha : Accepted j a w x source u) (hj : k ≠ j) :
    Uncalled k w u := by
  obtain ⟨c, v₁, v₂, hc, he, hx, hjudge⟩ := ha.taken
  have hcreated := (h.apart hj hc).create j.token v₁
  have hjudged := (h.apart hj hc).judge x source v₂
  rw [hx] at hcreated
  rw [hjudge] at hjudged
  exact hjudged.trans (hcreated.trans (uncalled_expansion h he))

theorem given_of_accepted (h : Logs k 0 a w) (ha : Accepted k a w x source u) :
    x ≠ 0 ∧ lastGiven? x (u.calls.get k) = some source := by
  obtain ⟨c, v₁, v₂, hc, -, hx, hjudge⟩ := ha.taken
  obtain ⟨c, hproper, rfl⟩ := h.compiler c hc
  refine ⟨hproper k.token v₁.world x (congrArg Prod.fst hx), ?_⟩
  have hgiven : Leads (fun _ => True) (judge (loggedCompiler k c) x source)
      fun _ v => lastGiven? x (v.calls.get k) = some source := by
    refine Leads.bind (R := fun _ v => lastGiven? x (v.calls.get k) = some source) (fun v _ => ?_)
      (fun _ => ?_) fun _ _ h => h
    · change lastGiven? x ((v.calls.update k (Call.given x source :: ·)).get k) = _
      rw [PerStage.get_update, if_pos rfl, lastGiven?, if_pos rfl]
    · refine Keeps.bind (fun v hv => ?_) fun passed => .ite (.pure _) ?_
      · change lastGiven? x ((v.calls.update k (Call.judged x _ :: ·)).get k) = _
        rw [PerStage.get_update, if_pos rfl]
        exact hv
      · refine Keeps.bind (fun v hv => ?_) fun _ => .pure _
        change lastGiven? x ((v.calls.update k (Call.explained x :: ·)).get k) = _
        rw [PerStage.get_update, if_pos rfl]
        exact hv
  have hlast := hgiven v₂ trivial
  rw [hjudge] at hlast
  exact hlast

end Calls

/-- The stage was given a handle, and its compiler has made these calls. -/
structure Told (k : Stage) (x : Int) (calls : List Call) (s : Studio (Logbook W) P × Logbook W) :
    Prop extends Standing False k s where
  handle : (view k s).handle = x
  calls : (view k s).calls = calls

def Lost (strict : Prop) (k : Stage) (fault : Fault) (s : Studio (Logbook W) P × Logbook W) :
    Prop :=
  Standing strict k s ∨ fault = .budgetSpent ∧ Standing False k s

/-- Two ways to tell of a change that make no difference at a stage that stands. It stands after
that, too; and a call that tells of a handle of the stage and returns leaves it with the handle, and
its compiler uncalled. -/
structure Alternative (strict : Prop) (k : Stage)
    (call call' : Text → Change → Act (Studio (Logbook W) P × Logbook W) Unit) : Prop where
  told : ∀ name c, Agree (Standing strict k) (call name c) (call' name c)
    (Ending (Standing strict k) (Lost strict k))
  handle : ∀ name x calls, x ≠ 0 → Agree (Told k x calls) (call name ⟨k, .handle⟩)
    (call' name ⟨k, .handle⟩) (Ending (Told k x calls) (Lost strict k))

section Stages

variable {strict : Prop} {k : Stage}
variable {call call' : Text → Change → Act (Studio (Logbook W) P × Logbook W) Unit}

theorem Standing.agree {a : Act (Studio (Logbook W) P × Logbook W) α}
    (h : Keeps (Standing strict k) a) :
    Agree (Standing strict k) a a (Ending (Standing strict k) (Lost strict k)) :=
  (Keeps.ending h fun _ _ => .inl).agree

variable (hcall : Alternative strict k call call')
include hcall

theorem tell_agree (j : Stage) (property : Property) (s : Studio (Logbook W) P) :
    Agree (Standing strict k) (tell call j property s) (tell call' j property s)
      (Ending (Standing strict k) (Lost strict k)) :=
  Agree.forM fun name _ => hcall.told name ⟨j, property⟩

theorem notifyCode_agree (j : Stage) :
    Agree (Standing strict k) (notify call j .code) (notify call' j .code)
      (Ending (Standing strict k) (Lost strict k)) := by
  rintro ⟨s, w⟩ h
  rw [outcome_notify_code, outcome_notify_code]
  exact tell_agree hcall j .code s _
    (h.updateShader (fun _ => ⟨rfl, rfl⟩) fun _ => ⟨rfl, rfl⟩)

theorem setHandle_agree_elsewhere {j : Stage} (hj : k ≠ j) (x : Int) :
    Agree (Standing strict k) (setHandle call j x) (setHandle call' j x)
      (Ending (Standing strict k) (Lost strict k)) := by
  rintro ⟨s, w⟩ h
  have hzeroed : Standing strict k (zeroed j x s, w) :=
    h.of_view (h.toBooked.zeroed j x) (view_eq ((confined_zeroed s x).others k hj) rfl)
  rw [outcome_setHandle, outcome_setHandle]
  split
  · exact ⟨rfl, hzeroed⟩
  · refine tell_agree hcall j .handle s _ ?_
    exact hzeroed.of_view (hzeroed.toBooked.exchanged j x)
      (view_eq ((confined_exchanged _ x).others k hj) rfl)

theorem giveUp_agree : Agree Booked (setHandle call k 0) (setHandle call' k 0)
    (Ending (Standing strict k) (Lost strict k)) := by
  rintro ⟨s, w⟩ h
  rw [outcome_setHandle, outcome_setHandle]
  split
  case isTrue h0 =>
      refine ⟨rfl, (h.zeroed k 0).standing ?_⟩
      rw [view, get_zeroed, if_pos rfl]
      exact View.settled_of_bare h0.symm rfl
  case isFalse =>
      refine tell_agree hcall k .handle s _ (((h.zeroed k 0).exchanged k 0).standing ?_)
      rw [view, get_exchanged, get_zeroed, if_pos rfl]
      exact View.settled_of_bare rfl rfl

theorem release_agree (j : Stage) :
    Agree (fun s => Booked s ∧ (k ≠ j → Standing strict k s)) (setHandle call j 0)
      (setHandle call' j 0)
      (Ending (Standing strict k) (Lost strict k)) := by
  by_cases hj : k = j
  · subst hj
    exact (giveUp_agree hcall).mono (fun _ h => h.1) fun _ _ h => h
  · exact (setHandle_agree_elsewhere hcall hj 0).mono (fun _ h => h.2 hj) fun _ _ h => h

theorem setCode_agree (j : Stage) (code : Text) :
    Agree (Standing strict k) (setCode call j code) (setCode call' j code)
      (Ending (Standing strict k) (Lost strict k)) := by
  rintro ⟨s, w⟩ h
  by_cases hcode : code = (s.shaders.get j).code
  · rw [hcode, outcome_setCode_same, outcome_setCode_same]
    exact ⟨rfl, h⟩
  have hwritten : Agree (fun s => Booked s ∧ (k ≠ j → Standing strict k s))
      (do
        setHandle call j 0
        changeShader j fun a => { a with verdict := none }
        notify call j .code)
      (do
        setHandle call' j 0
        changeShader j fun a => { a with verdict := none }
        notify call' j .code)
      (Ending (Standing strict k) (Lost strict k)) := by
    refine (release_agree hcall j).bind_ending fun _ => ?_
    refine Agree.bind_ending (R := Standing strict k) (Standing.agree fun s h => ?_)
      fun _ => notifyCode_agree hcall j
    exact h.updateShader (fun _ => ⟨rfl, rfl⟩) fun _ => ⟨rfl, rfl⟩
  rw [outcome_setCode _ hcode, outcome_setCode _ hcode]
  have hrecoded : Standing strict k (s.updateShader j (recoded code), w) :=
    h.updateShader (fun _ => ⟨rfl, rfl⟩) fun _ => ⟨rfl, rfl⟩
  exact hwritten _ ⟨hrecoded.toBooked, fun _ => hrecoded⟩

theorem reset_agree (j : Stage) :
    Agree (Standing strict k) (reset call j) (reset call' j)
      (Ending (Standing strict k) (Lost strict k)) := by
  refine Agree.bind_ending (R := Standing strict k)
    ((release_agree hcall j).mono (fun _ h => ⟨h.toBooked, fun _ => h⟩) fun _ _ h => h) fun _ => ?_
  exact Standing.agree fun s h => h.updateShader (fun _ => ⟨rfl, rfl⟩) fun _ => ⟨rfl, rfl⟩

theorem take_agree {x : Int} (hx : x ≠ 0) (calls : List Call) :
    Agree (fun s => Booked s ∧ view k s = ⟨0, [], calls⟩) (setHandle call k x) (setHandle call' k x)
      (Ending (Told k x calls) (Lost strict k)) := by
  rintro ⟨s, w⟩ ⟨h, hv⟩
  obtain ⟨h0, ht, hc⟩ := View.mk.inj hv
  have hview : view k (exchanged k x (zeroed k x s), w) = ⟨x, [], calls⟩ := by
    rw [view, get_exchanged, get_zeroed, if_neg hx, ← hc, ← ht]
    rfl
  have htold : Told k x calls (exchanged k x (zeroed k x s), w) := by
    refine ⟨⟨(h.zeroed k x).exchanged k x, ?_, False.elim⟩, ?_, ?_⟩
    · rw [hview]
      exact fun hn => absurd rfl hn
    · rw [hview]
    · rw [hview]
  rw [outcome_setHandle, outcome_setHandle, if_neg fun he => hx (he.trans h0),
    if_neg fun he => hx (he.trans h0)]
  exact Agree.forM (fun name _ => hcall.handle name x calls hx) _ htold

variable [Records W]

theorem adopt_agree {x : Int} {calls : List Call} {source : Text} (hx : x ≠ 0) (hs : source ≠ [])
    (hg : lastGiven? x calls = some source) :
    Agree (fun s => Booked s ∧ view k s = ⟨0, [], calls⟩) (adopt call k x source)
      (adopt call' k x source)
      (Ending (Standing strict k) (Lost strict k)) := by
  refine (take_agree hcall hx calls).bind_ending fun _ => ?_
  refine Agree.bind_ending (R := Standing strict k) (Leads.agree ?_) fun _ => ?_
  · rintro ⟨s, w⟩ h
    have hview : view k (s.updateShader k (fun a => { a with compiledText := source }), w) =
        ⟨x, source, calls⟩ := by
      rw [view, get_updateShader_self, ← h.handle, ← h.calls]
      rfl
    have hshown : Booked (s.updateShader k (fun a => { a with compiledText := source }), w) :=
      h.toBooked.updateShader fun _ => ⟨rfl, rfl⟩
    refine hshown.standing ?_
    rw [hview]
    exact ⟨iff_of_true hx hs, fun _ => hg⟩
  · refine Agree.bind_ending (R := Standing strict k)
      (Standing.agree (standing_aloof.report _ _)) fun _ => Standing.agree (.pure _)

theorem adopt_agree_elsewhere {j : Stage} (hj : k ≠ j) (x : Int) (source : Text) :
    Agree (Standing strict k) (adopt call j x source) (adopt call' j x source)
      (Ending (Standing strict k) (Lost strict k)) := by
  refine (setHandle_agree_elsewhere hcall hj x).bind_ending fun _ => ?_
  refine Agree.bind_ending (R := Standing strict k) (Standing.agree ?_) fun _ => ?_
  · rintro ⟨s, w⟩ h
    refine h.of_view (h.toBooked.updateShader fun _ => ⟨rfl, rfl⟩) (view_eq ?_ rfl)
    exact get_updateShader_of_ne s _ hj
  · refine Agree.bind_ending (R := Standing strict k)
      (Standing.agree (standing_aloof.report _ _)) fun _ => Standing.agree (.pure _)

theorem attemptCompile_agree (j : Stage) :
    Agree (fun s => Standing strict k s ∧ (s.1.shaders.get j).handle = 0) (attemptCompile call j)
      (attemptCompile call' j) (Ending (Standing strict k) (Lost strict k)) := by
  rintro ⟨s, w⟩ ⟨h, hh⟩
  cases hb : allBlank (s.shaders.get j).code with
  | true =>
      rw [attemptCompile_blank call hb, attemptCompile_blank call' hb]
      exact ⟨rfl, h⟩
  | false =>
      -- while the stage is bare, calls of its compiler say nothing of what it shows
      have hbare (hj : k = j) : (view k (s, w)).handle = 0 ∧ (view k (s, w)).text = [] := by
        subst hj
        exact ⟨hh, h.sound.bare hh⟩
      obtain ⟨r, ds, u, hd, ho⟩ | ⟨x, source, u, ha, ho⟩ := outcome_attemptCompile (w := w) hb
      · rw [ho, ho]
        have hnoted : Standing strict k (s.updateShader j (noted ds), u) := by
          refine Standing.updateShader ?_ (fun _ => ⟨rfl, rfl⟩) fun _ => ⟨rfl, rfl⟩
          by_cases hj : k = j
          · exact (h.toBooked.world u).standing (View.settled_of_bare (hbare hj).1 (hbare hj).2)
          · exact h.world (uncalled_declined (h.logs j) hd hj)
        cases r with
        | ok _ => exact ⟨rfl, hnoted⟩
        | error _ => exact ⟨rfl, .inl hnoted⟩
      · rw [ho, ho]
        by_cases hj : k = j
        · subst hj
          obtain ⟨hx, hg⟩ := given_of_accepted (h.logs k) ha
          have hs : source ≠ [] := by
            rintro rfl
            cases ha.hasSource
          refine adopt_agree hcall hx hs hg _ ⟨h.toBooked.world u, ?_⟩
          exact congrArg₂ (View.mk · · _) (hbare rfl).1 (hbare rfl).2
        · exact adopt_agree_elsewhere hcall hj x source _
            (h.world (uncalled_accepted (h.logs j) ha hj))

theorem compile_agree (j : Stage) :
    Agree (Standing strict k) (compile call j) (compile call' j)
      (Ending (Standing strict k) (Lost strict k)) := by
  rintro ⟨s, w⟩ h
  by_cases hh : (s.shaders.get j).handle = 0
  case neg =>
      rw [outcome_compile_held call (s := (s, w)) hh, outcome_compile_held call' (s := (s, w)) hh]
      exact ⟨rfl, h⟩
  cases hv : (s.shaders.get j).verdict with
  | some r =>
      rw [outcome_compile_known call (s := (s, w)) hh hv,
        outcome_compile_known call' (s := (s, w)) hh hv]
      exact ⟨rfl, h⟩
  | none =>
      rw [outcome_compile_unknown call (s := (s, w)) hh hv,
        outcome_compile_unknown call' (s := (s, w)) hh hv]
      have hrecorded : Agree (fun s => Standing strict k s ∧ (s.1.shaders.get j).handle = 0)
          (do
            let compiled ← attemptCompile call j
            changeShader j fun a => { a with verdict := some compiled }
            return compiled)
          (do
            let compiled ← attemptCompile call' j
            changeShader j fun a => { a with verdict := some compiled }
            return compiled)
          (Ending (Standing strict k) (Lost strict k)) := by
        refine (attemptCompile_agree hcall j).bind_ending fun r => Standing.agree ?_
        exact fun s h => h.updateShader (fun _ => ⟨rfl, rfl⟩) fun _ => ⟨rfl, rfl⟩
      refine hrecorded _ ⟨h.updateShader (fun _ => ⟨rfl, rfl⟩) fun _ => ⟨rfl, rfl⟩, ?_⟩
      rw [get_updateShader_self]
      exact hh

omit hcall in
theorem linkWith_standing (link : Context (Logbook W) P) (args : LinkArgs) :
    Leads (fun s => Standing strict k s ∧ s.1.context = some link) (linkWith link args)
      fun _ => Standing strict k := by
  rintro ⟨s, w⟩ ⟨h, hlink⟩
  have hlinked := outcome_linkWith (s := s) (w := w) link args
  generalize (linkWith link args).outcome (s, w) = o at hlinked ⊢
  have hworld {r : Except Fault P} {v : Logbook W} (hl : (link args).outcome w = (r, v)) :
      Uncalled k w v := by
    have hsame := h.context link hlink args w
    rw [hl] at hsame
    rw [Uncalled, hsame.calls]
  cases hlinked with
  | linked hl hu =>
      have hkept := h.world ((uncalled_reported hu).trans (hworld hl))
      exact ⟨⟨hkept.logs, hkept.context⟩, hkept.sound, hkept.settled⟩
  | refused hl _ hu =>
      have hkept := h.world ((uncalled_reported hu).trans (hworld hl))
      exact ⟨⟨hkept.logs, hkept.context⟩, hkept.sound, hkept.settled⟩
  | broken hl => exact h.world (hworld hl)

theorem compileProgram_agree :
    Agree (Standing strict k) (compileProgram call) (compileProgram call')
      (Ending (Standing strict k) (Lost strict k)) := by
  refine Agree.bind_ending (R := Standing strict k)
    (Standing.agree fun s h => ⟨⟨h.logs, h.context⟩, h.sound, h.settled⟩) fun _ => ?_
  refine Agree.bind_ending (R := Standing strict k)
    (Agree.mapM fun j _ => compile_agree hcall j) fun verdicts => Standing.agree ?_
  refine .ite ?_ (.pure _)
  refine Leads.bind leads_own (fun t => ?_) fun _ _ h => h.1
  split
  case h_1 link args _ hlink _ =>
      refine (linkWith_standing link args).mono ?_ fun _ _ h => h
      rintro s ⟨h, ht⟩
      cases ht
      exact ⟨h, hlink⟩
  case h_2 => exact Leads.pure fun _ h => h.1

theorem respond_agree {device : Device (Logbook W) P V} (hd : Discreet SameLog device)
    (hr : ∀ p w, SameLog w ((device.release p).outcome w).2) {r : Request (Logbook W) P V}
    (hlogged : r.Logged) :
    Agree (Standing strict k) (respond device call r) (respond device call' r)
      (Ending (Standing strict k) (Lost strict k)) := by
  cases r with
  | setCode j code => exact setCode_agree hcall j code
  | setHandle j x =>
      cases hlogged
      exact (release_agree hcall j).mono (fun _ h => ⟨h.toBooked, fun _ => h⟩) fun _ _ h => h
  | compile j => exact compile_agree hcall j
  | reset j => exact reset_agree hcall j
  | compileProgram => exact compileProgram_agree hcall
  | release =>
      refine Agree.bind_ending (R := Standing strict k)
        (Agree.forM fun j _ => reset_agree hcall j) fun _ => Standing.agree fun s h => ?_
      exact ⟨⟨h.logs, h.context⟩, h.sound, h.settled⟩
  | setCompiler j c =>
      refine Standing.agree fun s h => h.of_view ⟨fun i => ?_, h.context⟩
        (view_updateShader fun _ => ⟨rfl, rfl⟩)
      change Logs i 0 ((s.1.updateShader j fun a => { a with compiler := c }).shaders.get i) s.2
      rw [get_updateShader]
      split
      case isTrue hi =>
          subst hi
          exact ⟨hlogged, (h.logs i).resolver, Nat.zero_le _⟩
      case isFalse => exact h.logs i
  | setResolver j e =>
      refine Standing.agree fun s h => h.of_view ⟨fun i => ?_, h.context⟩
        (view_updateShader fun _ => ⟨rfl, rfl⟩)
      change Logs i 0 ((s.1.updateShader j fun a => { a with resolver := e }).shaders.get i) s.2
      rw [get_updateShader]
      split
      case isTrue hi =>
          subst hi
          exact ⟨(h.logs i).compiler, hlogged, Nat.zero_le _⟩
      case isFalse => exact h.logs i
  | setContext c => exact Standing.agree fun s h => ⟨⟨h.logs, hlogged⟩, h.sound, h.settled⟩
  | drain delete =>
      refine Standing.agree fun s h => ?_
      obtain ⟨bin, v, he, hv⟩ := drain_world (I := SameLog s.2)
        (fun x w hw => hw.trans (hlogged x w)) (fun p w hw => hw.trans (hr p w))
        (fun _ _ _ hw => ⟨hw.calls, hw.expansions⟩) s ⟨rfl, rfl⟩
      have hworld : Standing strict k (s.1, v) := h.world (by rw [hv.calls])
      change Standing strict k ((drain delete device.release).outcome s).2
      rw [he]
      exact ⟨⟨hworld.logs, hworld.context⟩, hworld.sound, hworld.settled⟩
  | look | interface | toLegacy | poll | subscribe | unsubscribe | setSettings | toLegacyPair
  | mergedInterface | setUniform =>
      exact Standing.agree (standing_aloof.respond hd call trivial)

end Stages

end ShaderPipeline.Studio
