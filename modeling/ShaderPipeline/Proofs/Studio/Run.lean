import ShaderPipeline.Proofs.Act.Leads
import ShaderPipeline.Proofs.Studio.Ledger

namespace ShaderPipeline.Studio

open Text Glsl

variable {W P V : Type}

def opened (compiler : Option (Compiler W)) (resolver : Option (Resolver W)) (settings : Settings)
    (context : Option (Context W P)) : Studio W P where
  shaders := .all { compiler := compiler, resolver := resolver, settings := settings }
  context := context

theorem get_opened (compiler : Option (Compiler W)) (resolver : Option (Resolver W))
    (settings : Settings) (context : Option (Context W P)) (k : Stage) :
    (opened compiler resolver settings context).shaders.get k =
      { compiler := compiler, resolver := resolver, settings := settings } := by
  rw [opened, PerStage.get_all]

/-- Handles are the compiler's to give: a client may only set them to zero. Collaborators can be
exchanged for audited ones, and shaders are deleted by the compiler. -/
def Request.Lawful : Request (Audit W P) P V → Prop
  | .setHandle _ handle => handle = 0
  | .setCompiler _ c => ∃ c' : Option (Compiler W), c = c'.map auditedCompiler
  | .setResolver _ r => ∃ r' : Option (Resolver W), r = r'.map auditedResolver
  | .setContext c => ∃ c' : Option (Context W P), c = c'.map auditedContext
  | .drain delete => ∃ c : Compiler W, delete = (auditedCompiler c).delete
  | _ => True

/-- The world changes, the ledger does not. -/
def Unledgered (update : Audit W P → Audit W P) : Prop := ∀ w, (update w).ledger = w.ledger

abbrev Listener (W P V : Type) := Text → Change → Client (Request W P V) Request.Answer W Unit

def Listener.idle : Listener W P V := fun _ _ => .done ()

def Listener.onlooker : Listener W P V := fun _ _ => .ask .look fun _ => .done ()

def Listener.Lawful (listener : Listener (Audit W P) P V) : Prop :=
  ∀ name change, (listener name change).Within Request.Lawful Unledgered

/-- The states between the requests of a client outside. -/
inductive Run [Records W] (device : Device W P V) (listener : Listener (Audit W P) P V)
    (start : Studio (Audit W P) P × Audit W P) : Studio (Audit W P) P × Audit W P → Prop
  | start : Run device listener start start
  | request {s} (depth : Nat) (r : Request (Audit W P) P V) (hr : r.Lawful)
      (h : Run device listener start s) :
      Run device listener start ((perform (auditedDevice device) listener depth r).outcome s).2
  | world {s} (update : Audit W P → Audit W P) (hu : Unledgered update)
      (h : Run device listener start s) : Run device listener start (s.1, update s.2)

section Depth

variable [Records W] {device : Device W P V} {listener : Listener W P V}
variable {C : (Text → Change → Act (Studio W P × W) Unit) → Prop}

/-- What holds of every request if `C` holds of the way in which listeners are told holds at every
depth, where `C` may need it of what listeners ask for themselves. -/
theorem perform_induction {Q : (r : Request W P V) → Act (Studio W P × W) r.Answer → Prop}
    (hspent : C fun _ _ => throw .budgetSpent)
    (hnested : ∀ depth, (∀ r, Q r (perform device listener depth r)) →
      C fun name c => (listener name c).run (perform device listener depth))
    (h : ∀ call, C call → ∀ r, Q r (respond device call r)) (depth : Nat) (r : Request W P V) :
    Q r (perform device listener depth r) := by
  induction depth generalizing r with
  | zero => exact h _ hspent r
  | succ depth ih => exact h _ (hnested depth ih) r

theorem exists_call (hspent : C fun _ _ => throw .budgetSpent)
    (hnested : ∀ depth, C fun name c => (listener name c).run (perform device listener depth))
    (depth : Nat) : ∃ call, C call ∧ perform device listener depth = respond device call := by
  cases depth with
  | zero => exact ⟨_, hspent, rfl⟩
  | succ depth => exact ⟨_, hnested depth, rfl⟩

theorem perform_eq_respond (device : Device W P V) (listener : Listener W P V) (depth : Nat) :
    ∃ call, perform device listener depth = respond device call :=
  (exists_call (C := fun _ => True) trivial (fun _ => trivial) depth).imp fun _ h => h.2

/-- Listeners may do at any depth what a client may do outside, so an invariant of the requests is
one of what they lead to. -/
theorem keeps_perform {I : Studio W P × W → Prop} {may : Request W P V → Prop}
    {tame : (W → W) → Prop} (hl : ∀ name c, (listener name c).Within may tame)
    (hworld : ∀ update, tame update → ∀ s w, I (s, w) → I (s, update w))
    (h : ∀ call, (∀ name c, Act.Keeps I (call name c)) →
      ∀ r, may r → Act.Keeps I (respond device call r))
    (depth : Nat) {r : Request W P V} (hr : may r) : Act.Keeps I (perform device listener depth r) := by
  refine perform_induction (Q := fun r a => may r → Act.Keeps I a) (fun _ _ => .throw _)
    (fun depth ih name c => ?_) h depth r hr
  exact Client.keeps_run ih hworld (hl name c)

end Depth

def performAll [Records W] (device : Device W P V) (listener : Listener W P V) (depth : Nat)
    (rs : List (Request W P V)) (s : Studio W P × W) : Studio W P × W :=
  rs.foldl (fun s r => ((perform device listener depth r).outcome s).2) s

theorem Run.performAll [Records W] {device : Device W P V} {listener : Listener (Audit W P) P V}
    {start s : Studio (Audit W P) P × Audit W P} (h : Run device listener start s) (depth : Nat)
    {rs : List (Request (Audit W P) P V)} (hrs : ∀ r ∈ rs, r.Lawful) :
    Run device listener start (performAll (auditedDevice device) listener depth rs s) := by
  induction rs generalizing s with
  | nil => exact h
  | cons r rs ih =>
      exact ih (h.request depth r (hrs r (by simp))) fun q hq => hrs q (by simp [hq])

/-- The states between the requests of a client outside who only makes requests that `may` allows,
in a world that changes as `tame` allows. -/
inductive Reached [Records W] (device : Device W P V) (listener : Listener W P V)
    (may : Request W P V → Prop) (tame : (W → W) → Prop) (start : Studio W P × W) :
    Studio W P × W → Prop
  | start : Reached device listener may tame start start
  | request {s} (depth : Nat) (r : Request W P V) (hr : may r)
      (h : Reached device listener may tame start s) :
      Reached device listener may tame start ((perform device listener depth r).outcome s).2
  | world {s} (update : W → W) (hu : tame update) (h : Reached device listener may tame start s) :
      Reached device listener may tame start (s.1, update s.2)

section Reached

variable [Records W] {device : Device W P V} {listener : Listener W P V}
variable {may : Request W P V → Prop} {tame : (W → W) → Prop} {start s : Studio W P × W}

theorem Reached.holds {I : Studio W P × W → Prop}
    (h : Reached device listener may tame start s) (hstart : I start)
    (hrequest : ∀ depth r, may r → Act.Keeps I (perform device listener depth r))
    (hworld : ∀ update, tame update → ∀ t w, I (t, w) → I (t, update w)) : I s := by
  induction h with
  | start => exact hstart
  | request depth r hr _ ih => exact hrequest depth r hr _ ih
  | world update hu _ ih => exact hworld update hu _ _ ih

theorem Reached.performAll (h : Reached device listener may tame start s) (depth : Nat)
    {rs : List (Request W P V)} (hrs : ∀ r ∈ rs, may r) :
    Reached device listener may tame start (performAll device listener depth rs s) := by
  induction rs generalizing s with
  | nil => exact h
  | cons r rs ih =>
      exact ih (h.request depth r (hrs r (by simp))) fun q hq => hrs q (by simp [hq])

end Reached

/-- A world to try runs in: how many handles and programs there are, and the source set last. -/
structure Bench where
  handles : Nat := 0
  programs : Nat := 0
  source : Text := []

namespace Bench

instance : Records Bench where
  record _ _ w := w

/-- It refuses what holds the mark. -/
def compiler (mark : Text) : Compiler Bench where
  create _ := ⟨fun w => (.ok (w.handles + 1), { w with handles := w.handles + 1 })⟩
  setSource _ text := ⟨fun w => (.ok (), { w with source := text })⟩
  compile _ := ⟨fun w => (.ok !contains mark w.source, w)⟩
  infoLog _ := pure "0(1) : error".toList
  delete _ := pure ()

def context : Context Bench Nat :=
  fun _ => ⟨fun w => (.ok (w.programs + 1), { w with programs := w.programs + 1 })⟩

def device : Device Bench P Unit where
  exposes _ _ := false
  write _ _ _ := pure ()
  assign _ _ _ := pure ()
  release _ := pure ()

end Bench

end ShaderPipeline.Studio
