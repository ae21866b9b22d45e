import ShaderPipeline.Proofs.Studio.Balance
import ShaderPipeline.Proofs.Studio.Indifference

namespace ShaderPipeline.Studio

open Text Glsl Act

variable {W P V α : Type} [DecidableEq P] {hs : List Int} {ps : List P}
variable {call : Text → Change → Act (Studio (Audit W P) P × Audit W P) Unit}

theorem keeps_shader (k : Stage) : Keeps (Sound hs ps) (shader (W := Audit W P) (P := P) k) :=
  fun _ h => h

theorem notify_keeps (hcall : ∀ name c, Keeps (Sound hs ps) (call name c)) (k : Stage)
    (property : Property) : Keeps (Sound hs ps) (notify call k property) := by
  rw [notify]
  refine Keeps.bind (keeps_changeShader fun _ => ⟨rfl, rfl, rfl⟩) fun _ => ?_
  refine Keeps.bind (keeps_shader k) fun s => ?_
  extract_lets rest
  have hrest (r : Unit) : Keeps (Sound hs ps) (rest r) := Keeps.forM fun name _ => hcall name _
  exact Keeps.ite (Keeps.bind keeps_retireProgram hrest) (hrest ())

theorem Sound.settle {s : Studio (Audit W P) P × Audit W P} {k : Stage} {x : Int}
    (h : Sound (ofHandle x ++ hs) ps s) (hx : x = (s.1.shaders.get k).handle) :
    Sound hs ps s := by
  refine ⟨h.supervised, fun hl => ?_⟩
  have hb := h.balanced hl
  by_cases h0 : x = 0
  · rw [ofHandle, if_pos h0] at hb
    exact hb
  · rw [ofHandle, if_neg h0] at hb
    exact absurd hx (hb.ne_handle hl k h0)

theorem Sound.ofHandle {s : Studio (Audit W P) P × Audit W P} {x : Int}
    (h : Sound (x :: hs) ps s) : Sound (ofHandle x ++ hs) ps s := by
  refine ⟨h.supervised, fun hl => ?_⟩
  have hb := h.balanced hl
  have hx : x ≠ 0 := by
    rintro rfl
    have hc := hb.handles 0
    rw [List.count_eq_zero_of_not_mem hl.nonzero, List.count_cons_self] at hc
    omega
  rw [Studio.ofHandle, if_neg hx]
  exact hb

theorem Sound.zeroed {s : Studio (Audit W P) P} {w : Audit W P} (h : Sound hs ps (s, w))
    (k : Stage) (x : Int) : Sound hs ps (zeroed k x s, w) := by
  rw [Studio.zeroed]
  split
  · exact h.updateShader fun _ => ⟨rfl, rfl, rfl⟩
  · exact h

theorem Sound.exchanged {s : Studio (Audit W P) P} {w : Audit W P} {x : Int}
    (h : Sound (Studio.ofHandle x ++ hs) ps (s, w)) (k : Stage) :
    Sound hs ps (exchanged k x s, w) := by
  let binned : Studio (Audit W P) P := { s with bin := s.bin.add (s.shaders.get k).handle }
  let f : Shader (Audit W P) → Shader (Audit W P) := fun a => { a with handle := x, scanned := none }
  have hb : Supervised binned := ⟨h.supervised.compiler, h.supervised.resolver, h.supervised.context⟩
  have hreplaced : Sound hs ps (binned.updateShader k f, w) :=
    ⟨hb.updateShader (hb.compiler k) (hb.resolver k),
      fun hl => (h.balanced hl).replace (f := f) (k := k) rfl⟩
  exact keeps_retireProgram _
    (hreplaced.updateShader (f := posted k .handle) fun _ => ⟨rfl, rfl, rfl⟩)

theorem setHandle_leads (hcall : ∀ name c, Keeps (Sound hs ps) (call name c)) (k : Stage)
    (x : Int) : Leads (Sound (ofHandle x ++ hs) ps) (setHandle call k x) fun _ => Sound hs ps := by
  rintro ⟨s, w⟩ h
  rw [outcome_setHandle]
  split
  case isTrue hx => exact (h.settle hx).zeroed k x
  case isFalse =>
      have htell : Keeps (Sound hs ps) (tell call k .handle s) :=
        Keeps.forM fun name _ => hcall name _
      exact htell _ ((h.zeroed k x).exchanged k)

theorem setHandle_zero_keeps (hcall : ∀ name c, Keeps (Sound hs ps) (call name c)) (k : Stage) :
    Keeps (Sound hs ps) (setHandle call k 0) :=
  setHandle_leads hcall k 0

theorem setCode_keeps (hcall : ∀ name c, Keeps (Sound hs ps) (call name c)) (k : Stage)
    (code : Text) : Keeps (Sound hs ps) (setCode call k code) := by
  rw [setCode]
  refine Keeps.bind (keeps_shader k) fun s => ?_
  refine Keeps.ite ?_ (.pure _)
  refine Keeps.bind (keeps_changeShader fun _ => ⟨rfl, rfl, rfl⟩) fun _ => ?_
  refine Keeps.bind (setHandle_zero_keeps hcall k) fun _ => ?_
  refine Keeps.bind (keeps_changeShader fun _ => ⟨rfl, rfl, rfl⟩) fun _ => ?_
  exact notify_keeps hcall k .code

theorem reset_keeps (hcall : ∀ name c, Keeps (Sound hs ps) (call name c)) (k : Stage) :
    Keeps (Sound hs ps) (reset call k) :=
  (setHandle_zero_keeps hcall k).bind fun _ => keeps_changeShader fun _ => ⟨rfl, rfl, rfl⟩

section

variable [Records W]

theorem sound_indifferent : Indifferent
    (fun w v : Audit W P => v.ledger = w.ledger) (Sound (W := W) (P := P) hs ps) where
  shader _ _ _ _ hf h := h.updateShader fun a => ⟨(hf a).handle, (hf a).compiler, (hf a).resolver⟩
  links _ _ _ h := h.mono
    ⟨h.supervised.compiler, h.supervised.resolver, h.supervised.context⟩ rfl rfl rfl rfl
  world _ _ _ hq h := h.mono h.supervised hq rfl rfl rfl
  reports _ _ _ := rfl
  expand k s w e he h source := by
    obtain ⟨e, rfl⟩ := h.supervised.resolver k e he
    exact h.mono h.supervised (List.append_nil w.ledger) rfl rfl rfl

omit [DecidableEq P] [Records W] in
theorem discreet_auditedDevice (device : Device W P V) :
    Discreet (fun w v : Audit W P => v.ledger = w.ledger) (auditedDevice device) where
  write _ _ _ w := List.append_nil w.ledger
  assign _ _ _ w := List.append_nil w.ledger

theorem submit_keeps (c : Compiler W) (k : Stage) (x : Int) (source : Text) :
    Keeps (Sound (x :: hs) ps) (submit (P := P) (auditedCompiler c) k x source) := by
  rw [submit]
  refine Keeps.bind (keeps_used _ x) fun _ => ?_
  refine Keeps.bind (keeps_used _ x) fun compiled => ?_
  extract_lets rest
  have hrest (r : Unit) : Keeps (Sound (x :: hs) ps) (rest r) := .pure _
  refine .ite ?_ (hrest ())
  refine Keeps.bind (keeps_used _ x) fun text => ?_
  exact Keeps.bind (sound_indifferent.explain k text) hrest

theorem compileWith_keeps (hcall : ∀ name c, Keeps (Sound hs ps) (call name c)) (c : Compiler W)
    (k : Stage) (source : Text) :
    Keeps (Sound hs ps) (compileWith call (auditedCompiler c) k source) := by
  have hcompiled : Leads (Sound hs ps) (compileWith call (auditedCompiler c) k source) fun r s =>
      Sound hs ps s ∧ (r = .ok true → True) := by
    have hcreate : Leads (Sound hs ps) (outside ((auditedCompiler c).create k.token))
        (Returned (fun x => Sound (x :: hs) ps) (Sound hs ps)) :=
      (leads_create c k.token).returned (fun _ _ h => h) fun _ _ h => h
    have hsubmit (x : Int) : Leads (Sound (x :: hs) ps) (submit (auditedCompiler c) k x source)
        fun r s => Sound (x :: hs) ps s ∧ (r = .ok true → True) :=
      (submit_keeps c k x source).mono (fun _ h => h) fun _ _ h => ⟨h, fun _ => trivial⟩
    refine sound_indifferent.compileWith (N := fun _ => True) (B := fun _ => True)
      (fun _ _ _ => trivial) hcreate hsubmit (fun x => leads_delete c x) (fun x _ => ?_)
      (sound_indifferent.withShader (k := k) (p := fun _ => True) fun _ _ _ h => h)
      fun s w h => ?_
    · exact (setHandle_leads hcall k x).mono (fun _ h => h.1.ofHandle)
        fun _ _ h => ⟨h, fun _ => trivial⟩
    · exact ⟨h.1.updateShader fun _ => ⟨rfl, rfl, rfl⟩, trivial⟩
  exact hcompiled.mono (fun _ h => h) fun _ _ h => h.1

theorem compile_keeps (hcall : ∀ name c, Keeps (Sound hs ps) (call name c)) (k : Stage) :
    Keeps (Sound hs ps) (compile call k) := by
  have hcompile : Leads (Sound hs ps) (compile call k) fun r s =>
      Sound hs ps s ∧ (r = .ok true → True) := by
    refine sound_indifferent.compile (fun _ _ _ => trivial) (fun r s w h _ => ?_)
      fun c source s h => ?_
    · exact ⟨h.updateShader fun _ => ⟨rfl, rfl, rfl⟩, fun _ => trivial⟩
    · obtain ⟨c, rfl⟩ := h.1.supervised.compiler k c h.2.2.compiler
      exact ⟨compileWith_keeps hcall c k source s h.1, fun _ => trivial⟩
  exact hcompile.mono (fun _ h => h) fun _ _ h => h.1

theorem linkWith_keeps (link : Context W P) (args : LinkArgs) :
    Leads (fun s => s.1.program = none ∧ Sound hs ps s) (linkWith (auditedContext link) args)
      fun _ => Sound hs ps := by
  have hlink : Leads (fun s => s.1.program = none ∧ Sound hs ps s)
      (outside (auditedContext link args)) fun r s =>
        s.1.program = none ∧ Sound hs (linked (linkedEntry r) ++ ps) s :=
    fun s h => ⟨h.1, leads_link link args s h.2⟩
  refine sound_indifferent.linkWith hlink (fun p s w h => ?_) fun _ _ h => h.2
  exact ⟨⟨h.2.supervised.compiler, h.2.supervised.resolver, h.2.supervised.context⟩,
    fun hl => (h.2.balanced hl).adopt h.1⟩

theorem compileProgram_keeps (hcall : ∀ name c, Keeps (Sound hs ps) (call name c)) :
    Keeps (Sound hs ps) (compileProgram call) := by
  have hstages : Keeps (Sound hs ps) (Stage.all.mapM (compile call)) :=
    .mapM fun k _ => compile_keeps hcall k
  refine sound_indifferent.compileProgram (J := fun _ => True)
    (hstages.mono (fun _ h => h) fun _ _ h => ⟨h, fun _ _ _ => trivial⟩) fun link args s h => ?_
  obtain ⟨link, rfl⟩ := h.1.supervised.context link h.2.2.2.1
  exact linkWith_keeps link args s ⟨h.2.2.1, h.1⟩

end

theorem release_keeps (hcall : ∀ name c, Keeps (Sound hs ps) (call name c)) :
    Keeps (Sound hs ps) (release call) :=
  (Keeps.forM fun k _ => reset_keeps hcall k).bind fun _ => keeps_retireProgram

section Drain

omit [DecidableEq P] in
theorem leads_withBin {I : Studio (Audit W P) P × Audit W P → Prop}
    {Q : Except Fault α → Studio (Audit W P) P × Audit W P → Prop}
    {a : Act (Bin P × Audit W P) α}
    (ha : ∀ t : Studio (Audit W P) P, Leads (fun b => I ({ t with bin := b.1 }, b.2)) a
      fun r b => Q r ({ t with bin := b.1 }, b.2)) : Leads I (withBin a) Q :=
  fun s h => ha s.1 (s.1.bin, s.2) h

/-- The books, read by who sees the bin of `t` only. -/
def SoundBin (hs : List Int) (ps : List P) (t : Studio (Audit W P) P) (b : Bin P × Audit W P) :
    Prop :=
  Sound hs ps ({ t with bin := b.1 }, b.2)

variable {t : Studio (Audit W P) P}

theorem drainShaders_keeps (c : Compiler W) (limit : Nat) :
    Keeps (SoundBin hs ps t)
      (Bin.drainShaders (fun x => outside ((auditedCompiler c).delete x)) limit) := by
  induction limit with
  | zero =>
      rw [Bin.drainShaders]
      exact Keeps.bind keeps_own fun b => .ite (.pure _) (.throw _)
  | succ limit ih =>
      rw [Bin.drainShaders]
      refine Leads.bind leads_own (fun d => ?_) fun _ _ h => h.1
      split
      case h_1 => exact Leads.pure fun _ h => h.1
      case h_2 x rest hd =>
          refine Leads.change_bind (R := SoundBin (x :: hs) ps t) (fun b w h => ?_) ?_
          · obtain ⟨h, he⟩ := h
            cases he
            exact ⟨⟨h.supervised.compiler, h.supervised.resolver, h.supervised.context⟩,
              fun hl => (h.balanced hl).dequeue hd⟩
          · have hdelete : Leads (SoundBin (x :: hs) ps t) (outside ((auditedCompiler c).delete x))
                fun _ => SoundBin hs ps t :=
              fun b h => leads_delete c x ({ t with bin := b.1 }, b.2) h
            refine Leads.bind hdelete (fun _ => ?_) fun _ _ h => h
            exact Keeps.bind ih fun _ => .pure _

theorem drainPrograms_keeps (device : Device W P V) (limit : Nat) :
    Keeps (SoundBin hs ps t)
      (Bin.drainPrograms (fun p => outside ((auditedDevice device).release p)) limit) := by
  induction limit with
  | zero =>
      rw [Bin.drainPrograms]
      exact Keeps.bind keeps_own fun b => .ite (.pure _) (.throw _)
  | succ limit ih =>
      rw [Bin.drainPrograms]
      refine Leads.bind leads_own (fun d => ?_) fun _ _ h => h.1
      split
      case h_1 => exact Leads.pure fun _ h => h.1
      case h_2 p rest hd =>
          refine Leads.change_bind (R := SoundBin hs (p :: ps) t) (fun b w h => ?_) ?_
          · obtain ⟨h, he⟩ := h
            cases he
            exact ⟨⟨h.supervised.compiler, h.supervised.resolver, h.supervised.context⟩,
              fun hl => (h.balanced hl).dequeueProgram hd⟩
          · have hrelease : Leads (SoundBin hs (p :: ps) t)
                (outside ((auditedDevice device).release p)) fun _ => SoundBin hs ps t :=
              fun b h => leads_release device p ({ t with bin := b.1 }, b.2) h
            refine Leads.bind hrelease (fun _ => ?_) fun _ _ h => h
            exact Keeps.bind ih fun _ => .pure _

theorem drain_keeps [Records W] (c : Compiler W) (device : Device W P V) :
    Keeps (Sound hs ps) (drain (auditedCompiler c).delete (auditedDevice device).release) := by
  refine leads_withBin fun t => ?_
  change Keeps (SoundBin hs ps t) (Bin.drain _ _ 0)
  rw [Bin.drain]
  refine Keeps.bind keeps_own fun b => ?_
  refine Keeps.bind (drainShaders_keeps c _) fun deleted => ?_
  refine Keeps.bind keeps_own fun b => ?_
  refine Keeps.bind (drainPrograms_keeps device _) fun released => ?_
  extract_lets rest
  have hrest (r : Unit) : Keeps (SoundBin hs ps t) (rest r) := .pure _
  refine .ite (Keeps.bind (fun b h => ?_) hrest) (hrest ())
  exact h.mono h.supervised rfl rfl rfl rfl

end Drain

theorem respond_keeps [Records W] (device : Device W P V)
    (hcall : ∀ name c, Keeps (Sound hs ps) (call name c)) {r : Request (Audit W P) P V}
    (hr : r.Lawful) : Keeps (Sound hs ps) (respond (auditedDevice device) call r) := by
  cases r with
  | setCode k code => exact setCode_keeps hcall k code
  | setHandle k x => cases hr; exact setHandle_zero_keeps hcall k
  | compile k => exact compile_keeps hcall k
  | reset k => exact reset_keeps hcall k
  | setCompiler k c =>
      obtain ⟨c', rfl⟩ := hr
      intro s h
      refine h.mono (h.supervised.updateShader ?_ (h.supervised.resolver k)) rfl
        (held_updateShader rfl) rfl rfl
      exact fun c hc => (Option.map_eq_some_iff.mp hc).imp fun _ h => h.2.symm
  | setResolver k e =>
      obtain ⟨e', rfl⟩ := hr
      intro s h
      refine h.mono (h.supervised.updateShader (h.supervised.compiler k) ?_) rfl
        (held_updateShader rfl) rfl rfl
      exact fun e he => (Option.map_eq_some_iff.mp he).imp fun _ h => h.2.symm
  | setContext c =>
      obtain ⟨c', rfl⟩ := hr
      intro s h
      refine h.mono ⟨h.supervised.compiler, h.supervised.resolver, ?_⟩ rfl rfl rfl rfl
      exact fun c hc => (Option.map_eq_some_iff.mp hc).imp fun _ h => h.2.symm
  | compileProgram => exact compileProgram_keeps hcall
  | release => exact release_keeps hcall
  | drain delete =>
      obtain ⟨c, rfl⟩ := hr
      exact drain_keeps c device
  | look | interface | toLegacy | poll | subscribe | unsubscribe | setSettings | toLegacyPair
  | mergedInterface | setUniform =>
      exact sound_indifferent.aloof.respond (discreet_auditedDevice device) call trivial

theorem perform_keeps [Records W] (device : Device W P V) {listener : Listener (Audit W P) P V}
    (hl : listener.Lawful) (depth : Nat) {r : Request (Audit W P) P V} (hr : r.Lawful) :
    Keeps (Sound hs ps) (perform (auditedDevice device) listener depth r) := by
  refine keeps_perform hl (fun update hu s w h => ?_)
    (fun _ hcall r hr => respond_keeps device hcall hr) depth hr
  exact h.mono h.supervised (hu w) rfl rfl rfl

theorem opened_sound (compiler : Option (Compiler W)) (resolver : Option (Resolver W))
    (settings : Settings) (context : Option (Context W P)) (w : W) :
    Sound [] [] (opened (compiler.map auditedCompiler) (resolver.map auditedResolver) settings
      (context.map auditedContext), { world := w }) := by
  refine ⟨⟨fun k c hc => ?_, fun k e he => ?_, fun c hc => ?_⟩, fun _ => ⟨?_, ?_, .nil⟩⟩
  · rw [get_opened] at hc
    exact (Option.map_eq_some_iff.mp hc).imp fun _ h => h.2.symm
  · rw [get_opened] at he
    exact (Option.map_eq_some_iff.mp he).imp fun _ h => h.2.symm
  · exact (Option.map_eq_some_iff.mp hc).imp fun _ h => h.2.symm
  · intro x
    rfl
  · intro p
    rfl

theorem run_sound [Records W] {device : Device W P V} {listener : Listener (Audit W P) P V}
    (hl : listener.Lawful) {s t : Studio (Audit W P) P × Audit W P} (hs : Sound [] [] s)
    (h : Run device listener s t) : Sound [] [] t := by
  induction h with
  | start => exact hs
  | request depth r hr _ ih => exact perform_keeps device hl depth hr _ ih
  | world update hu _ ih => exact ih.mono ih.supervised (hu _) rfl rfl rfl

end ShaderPipeline.Studio
