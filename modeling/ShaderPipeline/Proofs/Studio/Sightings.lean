import ShaderPipeline.Proofs.Studio.Views

namespace ShaderPipeline.Studio

open Text Glsl Act

variable {W P V : Type}

section Clients

variable {Q : Type} {P : Studio W Q × W → Prop} [DecidablePred P]

def heed (P : Studio W Q × W → Prop) [DecidablePred P]
    (alarm c : Client (Request W Q V) Request.Answer W Unit) :
    Client (Request W Q V) Request.Answer W Unit :=
  .ask .look fun
    | .ok s => .touch id fun w => if P (s, w) then c else alarm
    | .error _ => alarm

/-- The client, looking around before each of its steps, and when it is done or fails, but not when
it has run out of nested calls. -/
def watched (P : Studio W Q × W → Prop) [DecidablePred P]
    (alarm : Client (Request W Q V) Request.Answer W Unit) :
    Client (Request W Q V) Request.Answer W Unit → Client (Request W Q V) Request.Answer W Unit
  | .done a => heed P alarm (.done a)
  | .fail fault => if fault = .budgetSpent then .fail fault else heed P alarm (.fail fault)
  | .touch update next => heed P alarm (.touch update fun w => watched P alarm (next w))
  | .ask r next => heed P alarm (.ask r fun a => watched P alarm (next a))

/-- Listeners who look around as they are told of changes, and raise the alarm unless what they see
is as `P` says. -/
def watching (P : Change → Studio W Q × W → Prop) [∀ c, DecidablePred (P c)]
    (alarm : Client (Request W Q V) Request.Answer W Unit) (listener : Listener W Q V) :
    Listener W Q V :=
  fun name c => watched (P c) alarm (listener name c)

variable {alarm c : Client (Request W Q V) Request.Answer W Unit}
variable {perform perform' : (r : Request W Q V) → Act (Studio W Q × W) r.Answer}
variable (hlook : ∀ s, (perform' .look).outcome s = (.ok s.1, s))
include hlook

theorem outcome_heed {s : Studio W Q × W} (h : P s) :
    ((heed P alarm c).run perform').outcome s = (c.run perform').outcome s := by
  rw [heed, Client.outcome_run_ask, hlook]
  dsimp only
  rw [Client.outcome_run_touch, if_pos h]
  rfl

theorem watched_agree {may : Request W Q V → Prop} {tame : (W → W) → Prop}
    {I : Studio W Q × W → Prop} {E : Fault → Studio W Q × W → Prop} (hP : ∀ s, I s → P s)
    (hE : ∀ fault s, I s → E fault s) (hI : ∀ fault s, fault ≠ .budgetSpent → E fault s → I s)
    (hp : ∀ r, may r → Agree I (perform r) (perform' r) (Ending I E))
    (ht : ∀ update, tame update → ∀ s w, I (s, w) → I (s, update w)) (hc : c.Within may tame)
    (hf : (∀ s, E .budgetSpent s → I s) ∨ c.PassesOn .budgetSpent) :
    Agree I (c.run perform) ((watched P alarm c).run perform') (Ending I E) := by
  induction c with
  | done a =>
      intro s hs
      rw [watched, outcome_heed hlook (hP s hs)]
      exact ⟨rfl, hs⟩
  | fail fault =>
      intro s hs
      rw [watched]
      split
      · exact ⟨rfl, hE fault s hs⟩
      · rw [outcome_heed hlook (hP s hs)]
        exact ⟨rfl, hE fault s hs⟩
  | touch update next ih =>
      intro s hs
      rw [watched, outcome_heed hlook (hP s hs), Client.outcome_run_touch, Client.outcome_run_touch]
      exact ih s.2 (hc.2 s.2) (hf.imp_right fun hf => hf s.2) _ (ht update hc.1 s.1 s.2 hs)
  | ask r next ih =>
      intro s hs
      obtain ⟨hsame, hleft⟩ := hp r hc.1 s hs
      rw [watched, outcome_heed hlook (hP s hs), Client.outcome_run_ask, Client.outcome_run_ask,
        hsame]
      cases ho : (perform r).outcome s with
      | mk o t =>
          rw [ho] at hleft
          cases o with
          | ok a => exact ih _ (hc.2 _) (hf.imp_right fun hf => hf.1 _) t hleft
          | error fault =>
              have hrest := ih (.error fault) (hc.2 _) (hf.imp_right fun hf => hf.1 _) t
              by_cases hspent : fault = .budgetSpent
              case neg => exact hrest (hI fault t hspent hleft)
              subst hspent
              obtain hf | hf := hf
              · exact hrest (hf t hleft)
              · dsimp only
                rw [hf.2, watched, if_pos rfl]
                exact ⟨rfl, hleft⟩

end Clients

section Listeners

variable [Records W] {device : Device (Logbook W) P V} {listener : Listener (Logbook W) P V}
variable {strict : Prop} {k : Stage}

/-- Whoever is told of a handle that the stage has and returns leaves the stage with it, and its
compiler uncalled. -/
def Patient (device : Device (Logbook W) P V) (listener : Listener (Logbook W) P V) (k : Stage) :
    Prop :=
  ∀ depth name x calls, x ≠ 0 → Leads
    (fun s => Booked s ∧ (view k s).handle = x ∧ (view k s).calls = calls)
    ((listener name ⟨k, .handle⟩).run (perform device listener depth))
    fun r s => r = .ok () → (view k s).handle = x ∧ (view k s).calls = calls

/-- Whoever is told of a handle that the stage has returns, unless for want of nested calls. -/
def Unfailing (device : Device (Logbook W) P V) (listener : Listener (Logbook W) P V) (k : Stage) :
    Prop :=
  ∀ depth name x, x ≠ 0 → Leads (fun s => Booked s ∧ (view k s).handle = x)
    ((listener name ⟨k, .handle⟩).run (perform device listener depth))
    fun r _ => ∀ fault, r = .error fault → fault = .budgetSpent

/-- Those who are not told of a handle of the stage see it settled. -/
def SettledFor (k : Stage) (c : Change) (s : Studio (Logbook W) P × Logbook W) : Prop :=
  c = ⟨k, .handle⟩ ∨ (view k s).Settled

instance (k : Stage) (c : Change) : DecidablePred (SettledFor (W := W) (P := P) k c) :=
  fun s => inferInstanceAs (Decidable (c = ⟨k, .handle⟩ ∨ (view k s).Settled))

omit [Records W] in
theorem lost_of_standing {fault : Fault} {s : Studio (Logbook W) P × Logbook W}
    (h : Standing False k s) (hs : strict → fault = .budgetSpent) : Lost strict k fault s := by
  by_cases hstrict : strict
  · exact .inr ⟨hs hstrict, h⟩
  · exact .inl ⟨h.toBooked, h.sound, fun hn => absurd hn hstrict⟩

theorem told_aloof {x : Int} {calls : List Call} :
    Aloof SameLog (Told (W := W) (P := P) k x calls) where
  shader j f s w hf h := by
    have hview : view k (s.updateShader j f, w) = view k (s, w) :=
      view_updateShader fun a => ⟨(hf a).handle, (hf a).compiledText⟩
    exact ⟨standing_aloof.shader j f s w hf h.toStanding, hview ▸ h.handle, hview ▸ h.calls⟩
  world s w v hq h := by
    refine ⟨standing_aloof.world s w v hq h.toStanding, h.handle, ?_⟩
    rw [← h.calls, view, view, hq.calls]
  reports _ _ _ := ⟨rfl, rfl⟩
  expand j s w e he h source := by
    obtain ⟨e, rfl⟩ := (h.logs j).resolver e he
    exact ⟨h.toStanding.world rfl, h.handle, h.calls⟩

omit [Records W] in
theorem throw_alternative : Alternative (W := W) (P := P) strict k
    (fun _ _ => throw .budgetSpent) fun _ _ => throw .budgetSpent where
  told _ _ := Standing.agree (.throw _)
  handle _ _ _ _ := Leads.agree fun _ h => .inr ⟨rfl, h.toStanding⟩

theorem ending_of_unfailing (hu : strict → Unfailing device listener k) {depth : Nat} {name : Text}
    {x : Int} (hx : x ≠ 0) {calls : List Call} {s : Studio (Logbook W) P × Logbook W}
    (h : Told k x calls s)
    (ho : Ending (Told k x calls) (fun _ => Standing False k)
      (((listener name ⟨k, .handle⟩).run (perform device listener depth)).outcome s).1
      (((listener name ⟨k, .handle⟩).run (perform device listener depth)).outcome s).2) :
    Ending (Told k x calls) (Lost strict k)
      (((listener name ⟨k, .handle⟩).run (perform device listener depth)).outcome s).1
      (((listener name ⟨k, .handle⟩).run (perform device listener depth)).outcome s).2 := by
  refine ho.mono (fun _ _ h => h) fun fault hr h' => lost_of_standing h' fun hs => ?_
  exact hu hs depth name x hx s ⟨h.toBooked, h.handle⟩ fault hr

theorem respond_reads {r : Request (Logbook W) P V} (hr : r.Reads)
    (call call' : Text → Change → Act (Studio (Logbook W) P × Logbook W) Unit) :
    respond device call r = respond device call' r := by
  cases r with
  | setCode | setHandle | compile | reset | setCompiler | setResolver | setContext
  | compileProgram | release | drain => exact hr.elim
  | look | interface | toLegacy | poll | subscribe | unsubscribe | setSettings | toLegacyPair
  | mergedInterface | setUniform => rfl

theorem perform_reads (hd : Discreet SameLog device) (ℓ ℓ' : Listener (Logbook W) P V) (depth : Nat)
    {r : Request (Logbook W) P V} (hr : r.Reads) {I : Studio (Logbook W) P × Logbook W → Prop}
    (hI : Aloof SameLog I) : Agree I (perform device ℓ depth r) (perform device ℓ' depth r)
      (Ending I fun _ => I) := by
  have hsame : perform device ℓ' depth r = perform device ℓ depth r := by
    obtain ⟨call, he⟩ := perform_eq_respond device ℓ depth
    obtain ⟨call', he'⟩ := perform_eq_respond device ℓ' depth
    rw [he, he']
    exact respond_reads hr call' call
  rw [hsame]
  exact (Keeps.ending (hI.perform hd ℓ depth hr) fun _ _ h => h).agree

variable (hd : Discreet SameLog device) (hr : ∀ p w, SameLog w ((device.release p).outcome w).2)
variable (hl : listener.Logged)
include hd hr hl

section Watching

variable {P' : Change → Studio (Logbook W) P × Logbook W → Prop} [∀ c, DecidablePred (P' c)]
variable {alarm : Client (Request (Logbook W) P V) Request.Answer (Logbook W) Unit} {depth : Nat}

omit hd hr in
theorem told_agree (hP : ∀ c s, Standing strict k s → P' c s)
    (hf : strict → ∀ name c, (listener name c).PassesOn .budgetSpent)
    (hp : ∀ r : Request (Logbook W) P V, r.Logged → Agree (Standing strict k)
      (perform device listener depth r) (perform device (watching P' alarm listener) depth r)
      (Ending (Standing strict k) (Lost strict k))) (name : Text) (c : Change) :
    Agree (Standing strict k) ((listener name c).run (perform device listener depth))
      ((watching P' alarm listener name c).run (perform device (watching P' alarm listener) depth))
      (Ending (Standing strict k) (Lost strict k)) := by
  refine watched_agree ?_ (hP c) (fun _ _ => .inl) (fun fault s hne h => ?_) hp
    (fun update hu s w h => ?_) (hl name c) ?_
  · intro s
    cases depth <;> rfl
  · exact h.resolve_right fun hn => hne hn.1
  · exact h.world (by rw [(hu w).calls])
  · by_cases hs : strict
    · exact .inr (hf hs name c)
    · exact .inl fun s h => h.elim id fun h => ⟨h.2.toBooked, h.2.sound, fun hn => absurd hn hs⟩

end Watching

theorem perform_sound (hp : Patient device listener k)
    (alarm : Client (Request (Logbook W) P V) Request.Answer (Logbook W) Unit) (depth : Nat)
    (hs : strict → Unfailing device listener k ∧
      ∀ name c, (listener name c).PassesOn .budgetSpent)
    {r : Request (Logbook W) P V} (hlogged : r.Logged) :
    Agree (Standing strict k) (perform device listener depth r)
      (perform device (watching (fun _ s => (view k s).Sound) alarm listener) depth r)
      (Ending (Standing strict k) (Lost strict k)) := by
  induction depth generalizing strict r with
  | zero => exact respond_agree throw_alternative hd hr hlogged
  | succ depth ih =>
      have htold {strict : Prop} (hs : strict → Unfailing device listener k ∧
          ∀ name c, (listener name c).PassesOn .budgetSpent) :=
        told_agree hl (fun _ _ (h : Standing strict k _) => h.sound) (fun h => (hs h).2)
          fun r hlogged => ih hs hlogged
      refine respond_agree ⟨htold hs, fun name x calls hx s h => ?_⟩ hd hr hlogged
      obtain ⟨hsame, hleft⟩ := @htold False False.elim name ⟨k, .handle⟩ s h.toStanding
      have hpatient := hp depth name x calls hx s ⟨h.toBooked, h.handle, h.calls⟩
      refine ⟨hsame, ending_of_unfailing (fun hn => (hs hn).1) hx h ?_⟩
      exact hleft.mono (fun _ hr h => ⟨h, (hpatient hr).1, (hpatient hr).2⟩)
        fun _ _ h => h.elim id And.right

theorem perform_settled (hf : ∀ name c, (listener name c).PassesOn .budgetSpent)
    (hu : Unfailing device listener k)
    (hreads : ∀ name, (listener name ⟨k, .handle⟩).Within Request.Reads Unlogged)
    (alarm : Client (Request (Logbook W) P V) Request.Answer (Logbook W) Unit) (depth : Nat)
    {r : Request (Logbook W) P V} (hlogged : r.Logged) :
    Agree (Standing True k) (perform device listener depth r)
      (perform device (watching (SettledFor k) alarm listener) depth r)
      (Ending (Standing True k) (Lost True k)) := by
  induction depth generalizing r with
  | zero => exact respond_agree throw_alternative hd hr hlogged
  | succ depth ih =>
      refine respond_agree ⟨?_, fun name x calls hx s h => ?_⟩ hd hr hlogged
      · exact told_agree hl (fun _ _ h => .inr (h.settled trivial)) (fun _ => hf)
          fun r hlogged => ih hlogged
      have hseen : Agree (Told k x calls)
          ((listener name ⟨k, .handle⟩).run (perform device listener depth))
          ((watching (SettledFor k) alarm listener name ⟨k, .handle⟩).run
            (perform device (watching (SettledFor k) alarm listener) depth))
          (Ending (Told k x calls) fun _ => Told k x calls) := by
        refine watched_agree ?_ (fun _ _ => .inl rfl) (fun _ _ h => h) (fun _ _ _ h => h)
          (fun r hr => perform_reads hd _ _ depth hr told_aloof)
          (fun update hu s w h => told_aloof.world s w _ (hu w) h) (hreads name) (.inl fun _ h => h)
        intro s
        cases depth <;> rfl
      obtain ⟨hsame, hleft⟩ := hseen s h
      refine ⟨hsame, ending_of_unfailing (fun _ => hu) hx h ?_⟩
      exact hleft.mono (fun _ _ h => h) fun _ _ h => h.toStanding

end Listeners

/-- The states between requests none of which has run out of nested calls. -/
inductive Unspent [Records W] (device : Device W P V) (listener : Listener W P V)
    (may : Request W P V → Prop) (tame : (W → W) → Prop) (start : Studio W P × W) :
    Studio W P × W → Prop
  | start : Unspent device listener may tame start start
  | request {s} (depth : Nat) (r : Request W P V) (hr : may r)
      (ho : ((perform device listener depth r).outcome s).1 ≠ .error .budgetSpent)
      (h : Unspent device listener may tame start s) :
      Unspent device listener may tame start ((perform device listener depth r).outcome s).2
  | world {s} (update : W → W) (hu : tame update) (h : Unspent device listener may tame start s) :
      Unspent device listener may tame start (s.1, update s.2)

section Runs

variable [Records W] {device : Device (Logbook W) P V} {listener : Listener (Logbook W) P V}
variable {strict : Prop} {k : Stage}

omit [Records W] in
theorem opened_standing (settings : Settings) (w : W) :
    Standing (P := P) strict k (opened none none settings none, { world := w }) := by
  have hbooked :
      Booked (P := P) (opened none none settings none, ({ world := w } : Logbook W)) := by
    refine ⟨fun j => ?_, nofun⟩
    rw [get_opened]
    exact ⟨nofun, nofun, Nat.zero_le _⟩
  refine hbooked.standing ?_
  rw [view, get_opened]
  exact View.settled_of_bare rfl rfl

/-- Wherever it is looked at, a stage shows no other text than the one its handle was given, if
whoever is told of its handle and returns is patient. If they return, too, it shows that text for
every handle, whether requests return or fail; and if they only read, then so it is for all others
who look while they are told of a change. -/
theorem view_sighted (hd : Discreet SameLog device)
    (hr : ∀ p w, SameLog w ((device.release p).outcome w).2) (hl : listener.Logged)
    (settings : Settings) (w : W) (hp : Patient device listener k) :
    (∀ s, Reached device listener Request.Logged Unlogged
        (opened none none settings none, { world := w }) s →
      (view k s).Sound ∧ ∀ alarm depth r, r.Logged →
        (perform device (watching (fun _ t => (view k t).Sound) alarm listener) depth r).outcome s =
          (perform device listener depth r).outcome s) ∧
    (Unfailing device listener k → (∀ name c, (listener name c).PassesOn .budgetSpent) →
      ∀ s, Unspent device listener Request.Logged Unlogged
          (opened none none settings none, { world := w }) s →
        (view k s).Settled ∧
        ((∀ name, (listener name ⟨k, .handle⟩).Within Request.Reads Unlogged) →
          ∀ alarm depth r, r.Logged →
            (perform device (watching (SettledFor k) alarm listener) depth r).outcome s =
              (perform device listener depth r).outcome s)) := by
  refine ⟨fun s h => ?_, fun hu hf s h => ?_⟩
  · have hstanding : Standing False k s := by
      refine h.holds (opened_standing settings w) (fun depth r hlogged s hs => ?_)
        fun update hu t w ht => ht.world (by rw [(hu w).calls])
      have hleft := (perform_sound hd hr hl hp (.done ()) depth False.elim hlogged).leads s hs
      exact hleft.holds fun _ _ h => h.elim id And.right
    refine ⟨hstanding.sound, fun alarm depth r hlogged => ?_⟩
    exact (perform_sound hd hr hl hp alarm depth False.elim hlogged s hstanding).1
  · have hstanding : Standing True k s := by
      induction h with
      | start => exact opened_standing settings w
      | @request s depth r hlogged hspent _ ih =>
          have hleft :=
            (perform_sound hd hr hl hp (.done ()) depth (fun _ => ⟨hu, hf⟩) hlogged).leads s ih
          refine hleft.holds fun fault ho h => h.resolve_right fun hn => hspent ?_
          rw [ho, hn.1]
      | world update hu _ ih => exact ih.world (by rw [(hu _).calls])
    refine ⟨hstanding.settled trivial, fun hreads alarm depth r hlogged => ?_⟩
    exact (perform_settled hd hr hl hf hu hreads alarm depth hlogged s hstanding).1

end Runs

namespace Bench

def promptListener : Listener (Logbook Bench) Nat Unit := fun _ change =>
  match change.property with
  | .code => (Client.request (.compile change.stage)).bind fun _ => .done ()
  | .handle => (Client.request .look).bind fun _ => .done ()

def failingListener : Listener (Logbook Bench) Nat Unit := fun _ change =>
  match change.property with
  | .code => .done ()
  | .handle => .fail (.raised .runtime "no".toList)

theorem promptListener_logged : promptListener.Logged := by
  rintro name ⟨k, property⟩
  cases property <;> exact ⟨trivial, fun r => by cases r <;> trivial⟩

theorem promptListener_passesOn (name : Text) (c : Change) :
    (promptListener name c).PassesOn .budgetSpent := by
  obtain ⟨k, property⟩ := c
  cases property <;> exact ⟨fun r => by cases r <;> trivial, rfl⟩

theorem outcome_promptListener (name : Text) (k : Stage) (depth : Nat)
    (s : Studio (Logbook Bench) Nat × Logbook Bench) :
    ((promptListener name ⟨k, .handle⟩).run (perform stillDevice promptListener depth)).outcome s =
      (.ok (), s) := by
  cases depth <;> rfl

theorem vertexRun_unspent : Unspent stillDevice promptListener Request.Logged Unlogged
    (opened none none {} none, { world := {} }) (vertexRun promptListener) := by
  have hcompiler : Request.Logged (P := Nat) (V := Unit)
      (.setCompiler .vertex (some (loggedCompiler .vertex (compiler ['x'])))) := by
    rintro c ⟨⟩
    exact ⟨_, compiler_proper ['x'], rfl⟩
  refine .request 3 (.compile .vertex) trivial (by decide +kernel) ?_
  refine .request 3 (.setCode .vertex ['a']) trivial (by decide +kernel) ?_
  refine .request 3 (.subscribe .vertex ['l']) trivial (by decide +kernel) ?_
  exact .request 3 _ hcompiler (by decide +kernel) .start

theorem view_sighted_vertex :
    (view .vertex (vertexRun promptListener)).handle = 1 ∧
    (view .vertex (vertexRun promptListener)).Settled ∧
    (perform stillDevice (watching (SettledFor .vertex) (.fail .noResolver) promptListener) 3
        (.setCode .vertex ['b'])).outcome (vertexRun promptListener) =
      (perform stillDevice promptListener 3 (.setCode .vertex ['b'])).outcome
        (vertexRun promptListener) := by
  have hpatient : Patient stillDevice promptListener .vertex := by
    intro depth name x calls _ s h _
    rw [outcome_promptListener]
    exact h.2
  have hunfailing : Unfailing stillDevice promptListener .vertex := by
    intro depth name x _ s _ fault
    rw [outcome_promptListener]
    exact nofun
  have hreads (name : Text) :
      (promptListener name ⟨.vertex, .handle⟩).Within Request.Reads Unlogged :=
    ⟨trivial, fun r => by cases r <;> trivial⟩
  obtain ⟨hsettled, hwatched⟩ := (view_sighted discreet_stillDevice (fun _ _ => ⟨rfl, rfl⟩)
    promptListener_logged {} {} hpatient).2 hunfailing promptListener_passesOn _ vertexRun_unspent
  exact ⟨by decide +kernel, hsettled, hwatched hreads _ 3 _ trivial⟩

/-- A handle without a text, for a listener that fails when it is told of the handle, and a text
without a handle, for one that answers it with other code. -/
theorem unsettled_vertex :
    (failingListener.Logged ∧ Reached stillDevice failingListener Request.Logged Unlogged
      (opened none none {} none, { world := {} }) (vertexRun failingListener) ∧
    view .vertex (vertexRun failingListener) =
      ⟨1, [], [.judged 1 true, .given 1 ['a'], .created]⟩) ∧
    rewritingListener.Logged ∧ Reached stillDevice rewritingListener Request.Logged Unlogged
      (opened none none {} none, { world := {} }) (vertexRun rewritingListener) ∧
    view .vertex (vertexRun rewritingListener) =
      ⟨0, ['a'], [.judged 1 true, .given 1 ['a'], .created]⟩ := by
  refine ⟨⟨?_, vertexRun_reached failingListener, by decide +kernel⟩, ?_,
    vertexRun_reached rewritingListener, by decide +kernel⟩
  · rintro name ⟨k, property⟩
    cases property <;> trivial
  · rintro name ⟨k, property⟩
    cases property with
    | code => exact trivial
    | handle => exact ⟨trivial, fun _ => trivial⟩

end Bench

end ShaderPipeline.Studio
