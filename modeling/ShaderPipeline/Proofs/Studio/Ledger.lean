import ShaderPipeline.Studio.Session
import Mathlib.Data.List.Count
import Mathlib.Data.List.Nodup

namespace ShaderPipeline.Studio

open Text

/-- A call that fails is entered like any other, a creation or a link only if it yields
something. `used` stands for every call on a handle apart from its deletion. -/
inductive Entry (P : Type) where
  | created (handle : Int)
  | used (handle : Int)
  | deleted (handle : Int)
  | linked (p : P)
  | released (p : P)
  deriving DecidableEq, Repr

structure Audit (W P : Type) where
  world : W
  ledger : List (Entry P) := []

variable {W P V α : Type}

instance [Records W] : Records (Audit W P) where
  record level text w := { w with world := Records.record level text w.world }

def entered (a : Act W α) (entries : Except Fault α → List (Entry P)) : Act (Audit W P) α :=
  ⟨fun s => ((a.outcome s.world).1,
    ⟨(a.outcome s.world).2, s.ledger ++ entries (a.outcome s.world).1⟩)⟩

def createdEntry : Except Fault Int → List (Entry P)
  | .ok handle => [.created handle]
  | .error _ => []

def linkedEntry : Except Fault P → List (Entry P)
  | .ok p => [.linked p]
  | .error _ => []

def auditedCompiler (c : Compiler W) : Compiler (Audit W P) where
  create token := entered (c.create token) createdEntry
  setSource handle text := entered (c.setSource handle text) fun _ => [.used handle]
  compile handle := entered (c.compile handle) fun _ => [.used handle]
  infoLog handle := entered (c.infoLog handle) fun _ => [.used handle]
  delete handle := entered (c.delete handle) fun _ => [.deleted handle]

def auditedResolver (expand : Resolver W) : Resolver (Audit W P) :=
  fun text => entered (expand text) fun _ => []

def auditedContext (link : Context W P) : Context (Audit W P) P :=
  fun args => entered (link args) linkedEntry

def auditedDevice (device : Device W P V) : Device (Audit W P) P V where
  convert := device.convert
  exposes := device.exposes
  write p name bytes := entered (device.write p name bytes) fun _ => []
  assign p name v := entered (device.assign p name v) fun _ => []
  release p := entered (device.release p) fun _ => [.released p]

def created (l : List (Entry P)) : List Int :=
  l.filterMap fun | .created handle => some handle | _ => none

def deleted (l : List (Entry P)) : List Int :=
  l.filterMap fun | .deleted handle => some handle | _ => none

def linked (l : List (Entry P)) : List P :=
  l.filterMap fun | .linked p => some p | _ => none

def released (l : List (Entry P)) : List P :=
  l.filterMap fun | .released p => some p | _ => none

def Entry.concerns (handle : Int) : Entry P → Prop
  | .used h => h = handle
  | .deleted h => h = handle
  | _ => False

/-- What the services promise: handles are not zero, and neither handles nor programs come
twice. -/
structure Fresh (l : List (Entry P)) : Prop where
  handles : (created l).Nodup
  nonzero : 0 ∉ created l
  programs : (linked l).Nodup

/-- After its deletion nothing is asked of a handle. -/
def Retired (l : List (Entry P)) : Prop :=
  l.Pairwise fun a b => ∀ handle, a = .deleted handle → ¬ b.concerns handle

def ofHandle (handle : Int) : List Int := if handle = 0 then [] else [handle]

def held (s : Studio W P) : List Int := Stage.all.flatMap fun k => ofHandle (s.shaders.get k).handle

section Lists

variable (l m : List (Entry P))

@[simp] theorem created_append : created (l ++ m) = created l ++ created m := by simp [created]

@[simp] theorem deleted_append : deleted (l ++ m) = deleted l ++ deleted m := by simp [deleted]

@[simp] theorem linked_append : linked (l ++ m) = linked l ++ linked m := by simp [linked]

theorem mem_deleted {handle : Int} : handle ∈ deleted l ↔ .deleted handle ∈ l := by
  constructor
  · intro h
    obtain ⟨e, he, hs⟩ := List.mem_filterMap.mp h
    cases e <;> simp_all
  · intro h
    exact List.mem_filterMap.mpr ⟨_, h, rfl⟩

end Lists

theorem Fresh.of_append {l m : List (Entry P)} (h : Fresh (l ++ m)) : Fresh l where
  handles := (List.nodup_append.mp (by simpa using h.handles)).1
  nonzero h0 := h.nonzero (by simp [h0])
  programs := (List.nodup_append.mp (by simpa using h.programs)).1

theorem retired_append_one {l : List (Entry P)} {e : Entry P} (h : Retired l)
    (he : ∀ handle ∈ deleted l, ¬ e.concerns handle) : Retired (l ++ [e]) := by
  refine List.pairwise_append.mpr ⟨h, List.pairwise_singleton _ _, ?_⟩
  intro a ha b hb handle hd
  rw [List.mem_singleton.mp hb]
  exact he handle ((mem_deleted l).mpr (hd ▸ ha))

theorem shaders_add (b : Bin P) (handle : Int) :
    (b.add handle).shaders = b.shaders ++ ofHandle handle := by
  unfold Bin.add ofHandle
  split <;> simp

theorem programs_add (b : Bin P) (handle : Int) : (b.add handle).programs = b.programs := by
  rw [Bin.add]
  split <;> rfl

theorem count_held_update (s : Studio W P) (k : Stage) (f : Shader W → Shader W) (x : Int) :
    (held (s.updateShader k f)).count x + (ofHandle (s.shaders.get k).handle).count x =
      (held s).count x + (ofHandle (f (s.shaders.get k)).handle).count x := by
  cases k <;>
    simp only [held, updateShader, Stage.all, PerStage.update, PerStage.get, List.flatMap_cons,
      List.flatMap_nil, List.count_append, List.count_nil] <;> omega

end ShaderPipeline.Studio
