import ShaderPipeline.Proofs.Studio.Run

namespace ShaderPipeline.Studio

open Text Glsl Act

variable {W P V α : Type}

structure Supervised (s : Studio (Audit W P) P) : Prop where
  compiler : ∀ k c, (s.shaders.get k).compiler = some c → ∃ c' : Compiler W, c = auditedCompiler c'
  resolver : ∀ k r, (s.shaders.get k).resolver = some r → ∃ r' : Resolver W, r = auditedResolver r'
  context : ∀ c, s.context = some c → ∃ c' : Context W P, c = auditedContext c'

variable {s t : Studio (Audit W P) P}

theorem Supervised.updateShader (h : Supervised s) {k : Stage}
    {f : Shader (Audit W P) → Shader (Audit W P)}
    (hc : ∀ c, (f (s.shaders.get k)).compiler = some c → ∃ c' : Compiler W, c = auditedCompiler c')
    (hr : ∀ r, (f (s.shaders.get k)).resolver = some r → ∃ r' : Resolver W, r = auditedResolver r') :
    Supervised (s.updateShader k f) := by
  refine ⟨fun j c hj => ?_, fun j r hj => ?_, h.context⟩
  · rw [Studio.updateShader, PerStage.get_update] at hj
    split at hj
    case isTrue he => subst he; exact hc c hj
    case isFalse => exact h.compiler j c hj
  · rw [Studio.updateShader, PerStage.get_update] at hj
    split at hj
    case isTrue he => subst he; exact hr r hj
    case isFalse => exact h.resolver j r hj

theorem held_updateShader {s : Studio W P} {k : Stage} {f : Shader W → Shader W}
    (hf : (f (s.shaders.get k)).handle = (s.shaders.get k).handle) :
    held (s.updateShader k f) = held s := by
  refine List.flatMap_congr fun j _ => ?_
  rw [updateShader, PerStage.get_update]
  split
  case isTrue he => rw [he, hf]
  case isFalse => rfl

variable [DecidableEq P]

/-- The books of a studio balance. `hs` and `ps` are on the way from one place to another. -/
structure Balanced (hs : List Int) (ps : List P) (s : Studio (Audit W P) P)
    (l : List (Entry P)) : Prop where
  handles : ∀ x, (created l).count x =
    (held s).count x + s.bin.shaders.count x + (deleted l).count x + hs.count x
  programs : ∀ p, (linked l).count p =
    s.program.toList.count p + s.bin.programs.count p + (released l).count p + ps.count p
  retired : Retired l

variable {hs : List Int} {ps : List P} {l : List (Entry P)}

namespace Balanced

theorem of_eq (h : Balanced hs ps s l) (hh : held t = held s) (hb : t.bin = s.bin)
    (hp : t.program = s.program) : Balanced hs ps t l := by
  obtain ⟨handles, programs, retired⟩ := h
  refine ⟨?_, ?_, retired⟩
  · rw [hh, hb]; exact handles
  · rw [hb, hp]; exact programs

theorem create (h : Balanced hs ps s l) (x : Int) :
    Balanced (x :: hs) ps s (l ++ [.created x]) := by
  refine ⟨fun y => ?_, fun p => ?_, retired_append_one h.retired fun _ _ h => h⟩
  · have hy := h.handles y
    have hc : created (l ++ [.created x]) = created l ++ [x] := by simp [created]
    have hd : deleted (l ++ [.created x]) = deleted l := by simp [deleted]
    rw [hc, hd, List.count_append, hy]
    simp only [List.count_cons, List.count_nil]
    omega
  · simpa [linked, released] using h.programs p

theorem not_mem_deleted {x : Int} (h : Balanced (x :: hs) ps s l) (hl : Fresh l) :
    x ∉ deleted l := by
  intro hd
  have hc := h.handles x
  have hone := List.nodup_iff_count_le_one.mp hl.handles x
  have hpos := List.count_pos_iff.mpr hd
  rw [List.count_cons_self] at hc
  omega

theorem use {x : Int} (h : Balanced (x :: hs) ps s l) (hl : Fresh l) :
    Balanced (x :: hs) ps s (l ++ [.used x]) := by
  refine ⟨fun y => ?_, fun p => ?_, retired_append_one h.retired ?_⟩
  · simpa [created, deleted] using h.handles y
  · simpa [linked, released] using h.programs p
  · rintro y hy rfl
    exact h.not_mem_deleted hl hy

theorem delete {x : Int} (h : Balanced (x :: hs) ps s l) (hl : Fresh l) :
    Balanced hs ps s (l ++ [.deleted x]) := by
  refine ⟨fun y => ?_, fun p => ?_, retired_append_one h.retired ?_⟩
  · have hy := h.handles y
    have hc : created (l ++ [.deleted x]) = created l := by simp [created]
    have hd : deleted (l ++ [.deleted x]) = deleted l ++ [x] := by simp [deleted]
    rw [hc, hd, List.count_append, List.count_singleton, hy, List.count_cons]
    omega
  · simpa [linked, released] using h.programs p
  · rintro y hy rfl
    exact h.not_mem_deleted hl hy

theorem link (h : Balanced hs ps s l) (p : P) : Balanced hs (p :: ps) s (l ++ [.linked p]) := by
  refine ⟨fun y => ?_, fun q => ?_, retired_append_one h.retired fun _ _ h => h⟩
  · simpa [created, deleted] using h.handles y
  · have hq := h.programs q
    have hc : linked (l ++ [.linked p]) = linked l ++ [p] := by simp [linked]
    have hd : released (l ++ [.linked p]) = released l := by simp [released]
    rw [hc, hd, List.count_append, hq]
    simp only [List.count_cons, List.count_nil]
    omega

theorem release {p : P} (h : Balanced hs (p :: ps) s l) :
    Balanced hs ps s (l ++ [.released p]) := by
  refine ⟨fun y => ?_, fun q => ?_, retired_append_one h.retired fun _ _ h => h⟩
  · simpa [created, deleted] using h.handles y
  · have hq := h.programs q
    have hc : linked (l ++ [.released p]) = linked l := by simp [linked]
    have hd : released (l ++ [.released p]) = released l ++ [p] := by simp [released]
    rw [hc, hd, List.count_append, List.count_singleton, hq, List.count_cons]
    omega

theorem replace {f : Shader (Audit W P) → Shader (Audit W P)} {k : Stage} {x : Int}
    (h : Balanced (ofHandle x ++ hs) ps s l) (hf : (f (s.shaders.get k)).handle = x) :
    Balanced hs ps
      (updateShader k f { s with bin := s.bin.add (s.shaders.get k).handle }) l := by
  refine ⟨fun y => ?_, fun p => ?_, h.retired⟩
  · have hy := h.handles y
    have hu := count_held_update s k f y
    have hh : held (updateShader k f { s with bin := s.bin.add (s.shaders.get k).handle })
        = held (s.updateShader k f) := rfl
    have hb : (updateShader k f { s with bin := s.bin.add (s.shaders.get k).handle }).bin
        = s.bin.add (s.shaders.get k).handle := rfl
    rw [hf] at hu
    rw [List.count_append] at hy
    rw [hh, hb, shaders_add, List.count_append, hy]
    omega
  · have hp := h.programs p
    have hb : (updateShader k f { s with bin := s.bin.add (s.shaders.get k).handle }).bin
        = s.bin.add (s.shaders.get k).handle := rfl
    rw [hb, programs_add]
    exact hp

theorem ne_handle {x : Int} (h : Balanced (x :: hs) ps s l) (hl : Fresh l) (k : Stage)
    (hx : x ≠ 0) : x ≠ (s.shaders.get k).handle := by
  intro he
  have hc := h.handles x
  have hone := List.nodup_iff_count_le_one.mp hl.handles x
  have hpos : 0 < (held s).count x := by
    refine List.count_pos_iff.mpr (List.mem_flatMap.mpr ⟨k, Stage.mem_all k, ?_⟩)
    rw [← he, ofHandle, if_neg hx]
    exact List.mem_singleton_self x
  rw [List.count_cons_self] at hc
  omega

theorem retire (h : Balanced hs ps s l) :
    Balanced hs ps { s with bin := s.bin.addProgram s.program, program := none } l := by
  refine ⟨h.handles, fun p => ?_, h.retired⟩
  have hp := h.programs p
  simp only [Bin.addProgram, List.count_append, Option.toList_none, List.count_nil]
  omega

theorem adopt {p : P} (h : Balanced hs (p :: ps) s l) (hn : s.program = none) :
    Balanced hs ps { s with program := some p } l := by
  refine ⟨h.handles, fun q => ?_, h.retired⟩
  have hq := h.programs q
  rw [hn, Option.toList_none, List.count_nil, List.count_cons] at hq
  simp only [Option.toList_some, List.count_singleton]
  omega

theorem dequeue {x : Int} {rest : List Int} (h : Balanced hs ps s l)
    (hx : s.bin.shaders = x :: rest) :
    Balanced (x :: hs) ps { s with bin := { s.bin with shaders := rest } } l := by
  refine ⟨fun y => ?_, h.programs, h.retired⟩
  have hy := h.handles y
  rw [hx, List.count_cons] at hy
  change _ = (held s).count y + rest.count y + (deleted l).count y + (x :: hs).count y
  rw [hy, List.count_cons]
  omega

theorem dequeueProgram {p : P} {rest : List P} (h : Balanced hs ps s l)
    (hp : s.bin.programs = p :: rest) :
    Balanced hs (p :: ps) { s with bin := { s.bin with programs := rest } } l := by
  refine ⟨h.handles, fun q => ?_, h.retired⟩
  have hq := h.programs q
  rw [hp, List.count_cons] at hq
  change _ = s.program.toList.count q + rest.count q + (released l).count q + (p :: ps).count q
  rw [hq, List.count_cons]
  omega

end Balanced

structure Sound (hs : List Int) (ps : List P) (s : Studio (Audit W P) P × Audit W P) : Prop where
  supervised : Supervised s.1
  balanced : Fresh s.2.ledger → Balanced hs ps s.1 s.2.ledger

theorem Sound.mono {w v : Audit W P} (h : Sound hs ps (s, w)) (ht : Supervised t)
    (hv : v.ledger = w.ledger) (hh : held t = held s) (hb : t.bin = s.bin)
    (hp : t.program = s.program) : Sound hs ps (t, v) := by
  refine ⟨ht, fun hl => ?_⟩
  rw [hv] at hl ⊢
  exact (h.balanced hl).of_eq hh hb hp

section Calls

theorem leads_create (c : Compiler W) (token : Nat) :
    Leads (Sound hs ps) (outside ((auditedCompiler c).create token)) fun r =>
      Sound (created (createdEntry (P := P) r) ++ hs) ps := by
  intro s h
  change Sound (created (createdEntry (P := P) ((c.create token).outcome s.2.world).1) ++ hs) ps
    (s.1, ⟨_, s.2.ledger ++ createdEntry ((c.create token).outcome s.2.world).1⟩)
  cases ((c.create token).outcome s.2.world).1 with
  | ok x => exact ⟨h.supervised, fun hl => (h.balanced hl.of_append).create x⟩
  | error fault =>
      exact h.mono h.supervised (List.append_nil s.2.ledger) rfl rfl rfl

theorem keeps_used (a : Act W α) (x : Int) :
    Keeps (Sound (x :: hs) ps) (outside (entered (P := P) a fun _ => [.used x])) :=
  fun _ h => ⟨h.supervised, fun hl => (h.balanced hl.of_append).use hl.of_append⟩

theorem leads_delete (c : Compiler W) (x : Int) :
    Leads (Sound (x :: hs) ps) (outside ((auditedCompiler c).delete x)) fun _ => Sound hs ps :=
  fun _ h => ⟨h.supervised, fun hl => (h.balanced hl.of_append).delete hl.of_append⟩

theorem leads_link (link : Context W P) (args : LinkArgs) :
    Leads (Sound hs ps) (outside (auditedContext link args)) fun r =>
      Sound hs (linked (linkedEntry r) ++ ps) := by
  intro s h
  change Sound hs (linked (linkedEntry ((link args).outcome s.2.world).1) ++ ps)
    (s.1, ⟨_, s.2.ledger ++ linkedEntry ((link args).outcome s.2.world).1⟩)
  cases ((link args).outcome s.2.world).1 with
  | ok p => exact ⟨h.supervised, fun hl => (h.balanced hl.of_append).link p⟩
  | error fault =>
      exact h.mono h.supervised (List.append_nil s.2.ledger) rfl rfl rfl

theorem leads_release (device : Device W P V) (p : P) :
    Leads (Sound hs (p :: ps)) (outside ((auditedDevice device).release p)) fun _ => Sound hs ps :=
  fun _ h => ⟨h.supervised, fun hl => (h.balanced hl.of_append).release⟩

end Calls

section Changes

theorem Sound.updateShader {w : Audit W P} (h : Sound hs ps (s, w)) {k : Stage}
    {f : Shader (Audit W P) → Shader (Audit W P)}
    (hf : ∀ a, (f a).handle = a.handle ∧ (f a).compiler = a.compiler ∧ (f a).resolver = a.resolver) :
    Sound hs ps (s.updateShader k f, w) := by
  obtain ⟨hh, hc, hr⟩ := hf (s.shaders.get k)
  refine h.mono (h.supervised.updateShader ?_ ?_) rfl (held_updateShader hh) rfl rfl
  · rw [hc]; exact h.supervised.compiler k
  · rw [hr]; exact h.supervised.resolver k

theorem keeps_changeShader {k : Stage} {f : Shader (Audit W P) → Shader (Audit W P)}
    (hf : ∀ a, (f a).handle = a.handle ∧ (f a).compiler = a.compiler ∧ (f a).resolver = a.resolver) :
    Keeps (Sound hs ps) (changeShader k f) :=
  fun _ h => Sound.updateShader h hf

theorem keeps_retireProgram : Keeps (Sound hs ps) (retireProgram : Act (Studio (Audit W P) P × _) _) :=
  fun _ h => ⟨⟨h.supervised.compiler, h.supervised.resolver, h.supervised.context⟩,
    fun hl => (h.balanced hl).retire⟩

end Changes

end ShaderPipeline.Studio
