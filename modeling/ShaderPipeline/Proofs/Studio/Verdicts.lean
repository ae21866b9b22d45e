import ShaderPipeline.Proofs.Studio.Edited

namespace ShaderPipeline.Studio

open Text Glsl Act

variable {W P V α : Type}

inductive Call where
  | created
  | given (handle : Int) (source : Text)
  | judged (handle : Int) (passed : Bool)
  | explained (handle : Int)
  | deleted (handle : Int)
  deriving DecidableEq, Repr

/-- A world that remembers, for each stage, the calls of its compiler and the texts its macros were
expanded to, the latest first. -/
structure Logbook (W : Type) where
  world : W
  calls : PerStage (List Call) := .all []
  expansions : PerStage (List (Text × Text)) := .all []

instance [Records W] : Records (Logbook W) where
  record level text w := { w with world := Records.record level text w.world }

def logCall (k : Stage) (call : Except Fault α → Call) (a : Act W α) : Act (Logbook W) α :=
  ⟨fun w => ((a.outcome w.world).1, { w with
    world := (a.outcome w.world).2
    calls := w.calls.update k (call (a.outcome w.world).1 :: ·) })⟩

def loggedCompiler (k : Stage) (c : Compiler W) : Compiler (Logbook W) where
  create token := logCall k (fun _ => .created) (c.create token)
  setSource handle text := logCall k (fun _ => .given handle text) (c.setSource handle text)
  compile handle := logCall k (fun r => .judged handle (r.toOption.getD false)) (c.compile handle)
  infoLog handle := logCall k (fun _ => .explained handle) (c.infoLog handle)
  delete handle := logCall k (fun _ => .deleted handle) (c.delete handle)

def loggedResolver (k : Stage) (expand : Resolver W) : Resolver (Logbook W) := fun source =>
  ⟨fun w => (((expand source).outcome w.world).1, { w with
    world := ((expand source).outcome w.world).2
    expansions := match ((expand source).outcome w.world).1 with
      | .ok text => w.expansions.update k ((source, text) :: ·)
      | .error _ => w.expansions })⟩

def lastGiven? (handle : Int) : List Call → Option Text
  | [] => none
  | .given x source :: calls => if x = handle then some source else lastGiven? handle calls
  | _ :: calls => lastGiven? handle calls

def lastPassed? (handle : Int) : List Call → Option Text
  | [] => none
  | .judged x true :: calls =>
      if x = handle then lastGiven? handle calls else lastPassed? handle calls
  | _ :: calls => lastPassed? handle calls

/-- The source is the code, or what its macros were expanded to. -/
def Grounded (w : Logbook W) (k : Stage) (code source : Text) : Prop :=
  source = code ∨ (code, source) ∈ w.expansions.get k

/-- What passed last for the handle is this code. -/
def Vouched (w : Logbook W) (k : Stage) (handle : Int) (code : Text) : Prop :=
  ∃ source, lastPassed? handle (w.calls.get k) = some source ∧ Grounded w k code source

structure SameLog (w v : Logbook W) : Prop where
  calls : v.calls = w.calls
  expansions : v.expansions = w.expansions

theorem SameLog.trans {w v u : Logbook W} (h : SameLog w v) (h' : SameLog v u) : SameLog w u :=
  ⟨h'.calls.trans h.calls, h'.expansions.trans h.expansions⟩

structure Logs (k : Stage) (count : Nat) (a : Shader (Logbook W)) (w : Logbook W) : Prop where
  compiler : ∀ c, a.compiler = some c → ∃ c' : Compiler W, Proper c' ∧ c = loggedCompiler k c'
  resolver : ∀ e, a.resolver = some e → ∃ e' : Resolver W, e = loggedResolver k e'
  count : count ≤ (w.calls.get k).length

/-- A handle stands for the code, and with care so does a verdict. -/
structure Honest (care : Prop) (k : Stage) (a : Shader (Logbook W)) (w : Logbook W) : Prop where
  held : a.handle ≠ 0 → Vouched w k a.handle a.code
  passed : care → a.verdict = some true → Backed a

/-- All stages are honest, apart from those in `doubtful`. -/
structure Sure (care : Stage → Prop) (count : Stage → Nat) (doubtful : List Stage)
    (s : Studio (Logbook W) P × Logbook W) : Prop where
  logs : ∀ j, Logs j (count j) (s.1.shaders.get j) s.2
  honest : ∀ j ∉ doubtful, Honest (care j) j (s.1.shaders.get j) s.2
  context : ∀ link, s.1.context = some link → ∀ args w, SameLog w ((link args).outcome w).2

section Logs

variable {k j : Stage} {w v : Logbook W} {a b : Shader (Logbook W)} {code source : Text} {x : Int}

theorem Grounded.mono (h : Grounded w k code source)
    (he : ∀ e ∈ w.expansions.get k, e ∈ v.expansions.get k) : Grounded v k code source :=
  h.imp_right (he _)

theorem Vouched.mono (h : Vouched w k x code) (hc : v.calls.get k = w.calls.get k)
    (he : ∀ e ∈ w.expansions.get k, e ∈ v.expansions.get k) : Vouched v k x code := by
  obtain ⟨source, hs, hg⟩ := h
  exact ⟨source, by rw [hc]; exact hs, hg.mono he⟩

theorem mem_expansions_loggedResolver (e : Resolver W) (source : Text) (w : Logbook W) (j : Stage) :
    ∀ p ∈ w.expansions.get j,
      p ∈ ((loggedResolver k e source).outcome w).2.expansions.get j := by
  intro p hp
  change p ∈ (match ((e source).outcome w.world).1 with
    | .ok text => w.expansions.update k ((source, text) :: ·)
    | .error _ => w.expansions).get j
  split
  · rw [PerStage.get_update]
    split
    · exact List.mem_cons_of_mem _ hp
    · exact hp
  · exact hp

theorem grounded_loggedResolver {e : Resolver W} {v : Logbook W}
    (h : (loggedResolver k e code).outcome w = (.ok source, v)) : Grounded v k code source := by
  obtain ⟨hr, rfl⟩ := Prod.mk.inj h
  right
  change (code, source) ∈ (match ((e code).outcome w.world).1 with
    | .ok text => w.expansions.update k ((code, text) :: ·)
    | .error _ => w.expansions).get k
  change ((e code).outcome w.world).1 = _ at hr
  rw [hr]
  dsimp only
  rw [PerStage.get_update, if_pos rfl]
  exact List.mem_cons_self

theorem Honest.alike {care : Prop} (h : Honest care k a w) (hab : Alike a b) :
    Honest care k b w where
  held hh := by
    rw [hab.handle, hab.code]
    exact h.held (hab.handle ▸ hh)
  passed hc hv := (h.passed hc (hab.verdict.symm.trans hv)).alike hab

theorem Honest.mono {care : Prop} (h : Honest care k a w) (hc : v.calls.get k = w.calls.get k)
    (he : ∀ e ∈ w.expansions.get k, e ∈ v.expansions.get k) : Honest care k a v where
  held hh := (h.held hh).mono hc he
  passed := h.passed

theorem Logs.alike {count : Nat} (h : Logs k count a w) (hc : b.compiler = a.compiler)
    (hr : b.resolver = a.resolver) : Logs k count b w where
  compiler c hb := h.compiler c (hc.symm.trans hb)
  resolver e hb := h.resolver e (hr.symm.trans hb)
  count := h.count

end Logs

section Sure

variable {care : Stage → Prop} {count : Stage → Nat} {doubtful : List Stage} {k : Stage}
variable {s : Studio (Logbook W) P} {w v : Logbook W}

theorem Sure.updateShader (h : Sure care count doubtful (s, w))
    {f : Shader (Logbook W) → Shader (Logbook W)}
    (hl : Logs k (count k) (f (s.shaders.get k)) w)
    (hf : k ∉ doubtful → Honest (care k) k (f (s.shaders.get k)) w) :
    Sure care count doubtful (s.updateShader k f, w) := by
  refine ⟨fun j => ?_, fun j hj => ?_, h.context⟩
  · by_cases hjk : j = k
    · subst hjk
      rw [get_updateShader_self]
      exact hl
    · rw [get_updateShader_of_ne s f hjk]
      exact h.logs j
  · by_cases hjk : j = k
    · subst hjk
      rw [get_updateShader_self]
      exact hf hj
    · rw [get_updateShader_of_ne s f hjk]
      exact h.honest j hj

theorem Sure.world (h : Sure care count doubtful (s, w)) (hq : SameLog w v) :
    Sure care count doubtful (s, v) := by
  refine ⟨fun j => ⟨(h.logs j).compiler, (h.logs j).resolver, ?_⟩, fun j hj => ?_, h.context⟩
  · rw [hq.calls]; exact (h.logs j).count
  · exact (h.honest j hj).mono (by rw [hq.calls]) fun e he => by rw [hq.expansions]; exact he

theorem sure_indifferent [Records W] :
    Indifferent SameLog (Sure (W := W) (P := P) care count doubtful) where
  shader k f s w hf h := h.updateShader
    ((h.logs k).alike (hf _).compiler (hf _).resolver) fun hk => (h.honest k hk).alike (hf _)
  links s w ds h := ⟨h.logs, h.honest, h.context⟩
  world s w v hq h := h.world hq
  reports _ _ _ := ⟨rfl, rfl⟩
  expand k s w e he h source := by
    obtain ⟨e, rfl⟩ := (h.logs k).resolver e he
    refine ⟨fun j => ⟨(h.logs j).compiler, (h.logs j).resolver, (h.logs j).count⟩, fun j hj => ?_,
      h.context⟩
    exact (h.honest j hj).mono rfl (mem_expansions_loggedResolver e source w j)

theorem Sure.recount {s : Studio (Logbook W) P × Logbook W} {count' : Stage → Nat}
    (h : Sure care count doubtful s) (hc : ∀ j, count' j ≤ (s.2.calls.get j).length) :
    Sure care count' doubtful s :=
  ⟨fun j => ⟨(h.logs j).compiler, (h.logs j).resolver, hc j⟩, h.honest, h.context⟩

theorem Sure.settle (h : Sure care count [k] (s, w)) (hk : Honest (care k) k (s.shaders.get k) w) :
    Sure care count [] (s, w) := by
  refine ⟨h.logs, fun j _ => ?_, h.context⟩
  by_cases hjk : j = k
  · exact hjk ▸ hk
  · exact h.honest j (by simpa using hjk)

theorem Sure.doubt {s : Studio (Logbook W) P × Logbook W} (h : Sure care count [] s) (k : Stage) :
    Sure care count [k] s :=
  ⟨h.logs, fun j _ => h.honest j List.not_mem_nil, h.context⟩

theorem Sure.zeroed (h : Sure care count [k] (s, w)) (x : Int) :
    Sure care count [k] (zeroed k x s, w) := by
  rw [Studio.zeroed]
  split
  · exact h.updateShader ((h.logs k).alike rfl rfl) fun hk => absurd (List.mem_singleton_self k) hk
  · exact h

theorem Sure.exchanged {x : Int} (h : Sure care count [k] (s, w))
    (hx : x ≠ 0 → Vouched w k x (s.shaders.get k).code) :
    Sure care count [] (exchanged k x (Studio.zeroed k x s), w) := by
  have hz := h.zeroed x
  have hothers (j : Stage) (hj : j ≠ k) :=
    (confined_exchanged (k := k) (Studio.zeroed k x s) x).others j hj
  have hk : (Studio.zeroed k x s).shaders.get k = if x = 0 then cleared (s.shaders.get k)
      else s.shaders.get k := get_zeroed x s
  have hexchanged : Sure care count [k] (Studio.exchanged k x (Studio.zeroed k x s), w) := by
    refine ⟨fun j => ?_, fun j hj => ?_, hz.context⟩
    · by_cases hjk : j = k
      · rw [hjk, get_exchanged]
        exact (hz.logs k).alike rfl rfl
      · rw [hothers j hjk]; exact hz.logs j
    · rw [hothers j (by simpa using hj)]; exact hz.honest j hj
  refine hexchanged.settle ?_
  rw [get_exchanged, hk]
  by_cases h0 : x = 0
  · rw [if_pos h0]
    exact ⟨fun hh => absurd h0 hh, nofun⟩
  · rw [if_neg h0]
    exact ⟨fun _ => hx h0, fun _ _ => .inl h0⟩

end Sure

/-- Who is told of a change keeps the books, and with care the handle of the stage that has a new
one. -/
structure Responsible (care : Stage → Prop)
    (call : Text → Change → Act (Studio (Logbook W) P × Logbook W) Unit) : Prop where
  keeps : ∀ count name c, Keeps (Sure care count []) (call name c)
  careful : ∀ k, care k → ∀ name, Leads (fun s => Backed (s.1.shaders.get k))
    (call name ⟨k, .handle⟩) fun r s => r = .ok () → Backed (s.1.shaders.get k)

theorem responsible_throw {care : Stage → Prop} :
    Responsible (W := W) (P := P) care fun _ _ => throw .budgetSpent where
  keeps _ _ _ := .throw _
  careful _ _ _ _ _ := nofun

section Requests

variable {care : Stage → Prop} {count : Stage → Nat} {k : Stage}
variable {call : Text → Change → Act (Studio (Logbook W) P × Logbook W) Unit}
variable (hcall : Responsible care call)
include hcall

theorem Responsible.tell (k : Stage) (property : Property) (s : Studio (Logbook W) P) :
    Keeps (Sure care count []) (Studio.tell call k property s) :=
  Keeps.forM fun name _ => hcall.keeps count name _

theorem Responsible.notifyCode [Records W] (k : Stage) :
    Keeps (Sure care count []) (notify call k .code) := by
  rintro ⟨s, w⟩ h
  rw [outcome_notify_code]
  exact hcall.tell k .code s _
    (sure_indifferent.shader k _ s w (fun _ => ⟨rfl, rfl, rfl, rfl, rfl, rfl⟩) h)

theorem setHandle_zero_sure (k : Stage) : Leads (Sure care count [k]) (setHandle call k 0)
    fun _ => Sure care count [] := by
  rintro ⟨s, w⟩ h
  rw [outcome_setHandle]
  split
  case isTrue h0 =>
      refine (h.zeroed 0).settle ?_
      rw [get_zeroed, if_pos rfl]
      exact ⟨fun hh => absurd h0.symm hh, nofun⟩
  case isFalse => exact hcall.tell k .handle s _ (h.exchanged fun hn => absurd rfl hn)

theorem setHandle_sure (k : Stage) {x : Int} (hx : x ≠ 0) :
    Leads (fun s => Sure care count [] s ∧ (s.1.shaders.get k).handle = 0 ∧
      Vouched s.2 k x (s.1.shaders.get k).code) (setHandle call k x)
      fun r s => Sure care count [] s ∧ (r = .ok () → care k → Backed (s.1.shaders.get k)) := by
  rintro ⟨s, w⟩ ⟨h, h0, hv⟩
  rw [outcome_setHandle, if_neg fun he => hx (he.trans h0)]
  have htell : Leads (fun s => Sure care count [] s ∧ (care k → Backed (s.1.shaders.get k)))
      (Studio.tell call k .handle s) fun r s =>
        Sure care count [] s ∧ (r = .ok () → care k → Backed (s.1.shaders.get k)) := by
    refine Leads.forM_returned fun name _ t ht => ?_
    exact ⟨hcall.keeps count name _ t ht.1, fun hr hk => hcall.careful k hk name t (ht.2 hk) hr⟩
  refine htell _ ⟨(h.doubt k).exchanged fun _ => hv, fun _ => .inl ?_⟩
  rw [get_exchanged]
  exact hx

theorem reset_sure [Records W] (k : Stage) : Keeps (Sure care count []) (reset call k) := by
  refine Leads.bind ((setHandle_zero_sure hcall k).mono (fun s h => h.doubt k) fun _ _ h => h)
    (fun _ => ?_) fun _ _ h => h
  exact sure_indifferent.changeShader fun _ => ⟨rfl, rfl, rfl, rfl, rfl, rfl⟩

theorem setCode_sure [Records W] (k : Stage) (code : Text) :
    Keeps (Sure care count []) (setCode call k code) := by
  rintro ⟨s, w⟩ h
  by_cases hcode : code = (s.shaders.get k).code
  · rw [hcode, outcome_setCode_same]
    exact h
  refine outcome_setCode_holds (setHandle_zero_sure hcall k) (fun s w h => ?_)
    (hcall.notifyCode k) hcode ?_
  · exact h.updateShader ((h.logs k).alike rfl rfl) fun hk => ⟨(h.honest k hk).held, nofun⟩
  · exact (h.doubt k).updateShader ((h.logs k).alike rfl rfl)
      fun hk => absurd (List.mem_singleton_self k) hk

end Requests

/-- A source is with the compiler, for a stage that has no handle yet. -/
structure Pending (care : Stage → Prop) (count : Stage → Nat) (k : Stage) (source : Text)
    (s : Studio (Logbook W) P × Logbook W) : Prop where
  sure : Sure care count [] s
  bare : (s.1.shaders.get k).handle = 0
  grounded : Grounded s.2 k (s.1.shaders.get k).code source

def more (k : Stage) (count : Stage → Nat) (j : Stage) : Nat :=
  if j = k then count j + 1 else count j

section Compiling

variable {care : Stage → Prop} {count : Stage → Nat} {k : Stage} {source : Text} {x : Int}

theorem le_more (k : Stage) (count : Stage → Nat) (j : Stage) : count j ≤ more k count j := by
  rw [more]
  split <;> omega

theorem Pending.called {s : Studio (Logbook W) P} {w : Logbook W}
    (h : Pending care count k source (s, w)) (call : Call) (world : W) :
    Pending care (more k count) k source
      (s, { w with world := world, calls := w.calls.update k (call :: ·) }) := by
  refine ⟨⟨fun j => ⟨(h.sure.logs j).compiler, (h.sure.logs j).resolver, ?_⟩, fun j _ => ?_,
    h.sure.context⟩, h.bare, h.grounded⟩
  · have hj := (h.sure.logs j).count
    dsimp only at hj ⊢
    rw [PerStage.get_update, more]
    split
    · exact Nat.succ_le_succ hj
    · exact hj
  · have hj := h.sure.honest j List.not_mem_nil
    by_cases hjk : j = k
    · subst hjk
      exact ⟨fun hh => absurd h.bare hh, hj.passed⟩
    · refine hj.mono ?_ fun _ he => he
      dsimp only
      rw [PerStage.get_update, if_neg hjk]

theorem Pending.fewer {s : Studio (Logbook W) P × Logbook W}
    (h : Pending care (more k count) k source s) : Pending care count k source s :=
  ⟨h.sure.recount fun j => (le_more k count j).trans (h.sure.logs j).count, h.bare, h.grounded⟩

theorem pending_indifferent [Records W] :
    Indifferent SameLog (Pending (W := W) (P := P) care count k source) where
  shader j f s w hf h := by
    refine ⟨sure_indifferent.shader j f s w hf h.sure, ?_, ?_⟩
    · have hbare := h.bare
      rw [get_updateShader]
      split
      · exact (hf _).handle.trans hbare
      · exact hbare
    · have hgrounded := h.grounded
      rw [get_updateShader]
      split
      · rw [(hf _).code]; exact hgrounded
      · exact hgrounded
  links s w ds h := ⟨sure_indifferent.links s w ds h.sure, h.bare, h.grounded⟩
  world s w v hq h := ⟨h.sure.world hq, h.bare, h.grounded.mono fun e he => by
    rw [hq.expansions]; exact he⟩
  reports _ _ _ := ⟨rfl, rfl⟩
  expand j s w e he h text := by
    refine ⟨sure_indifferent.expand j s w e he h.sure text, h.bare, ?_⟩
    obtain ⟨e, rfl⟩ := (h.sure.logs j).resolver e he
    exact h.grounded.mono (mem_expansions_loggedResolver e text w k)

theorem keeps_logCall (call : Except Fault α → Call) (a : Act W α) :
    Keeps (Pending (P := P) care count k source) (outside (logCall k call a)) :=
  fun _ h => (h.called _ _).fewer

theorem submit_passed [Records W] (c : Compiler W) :
    Leads (Pending (P := P) care count k source) (submit (loggedCompiler k c) k x source)
      fun r s => Pending care count k source s ∧
        (r = .ok true → lastPassed? x (s.2.calls.get k) = some source) := by
  have hgiven : Leads (Pending (P := P) care count k source)
      (outside ((loggedCompiler k c).setSource x source)) fun _ s =>
        Pending care count k source s ∧ lastGiven? x (s.2.calls.get k) = some source := by
    refine fun s h => ⟨keeps_logCall (fun _ => .given x source) (c.setSource x source) s h, ?_⟩
    change lastGiven? x ((s.2.calls.update k (Call.given x source :: ·)).get k) = _
    rw [PerStage.get_update, if_pos rfl, lastGiven?, if_pos rfl]
  have hjudged : Leads (fun s : Studio (Logbook W) P × Logbook W =>
      Pending care count k source s ∧ lastGiven? x (s.2.calls.get k) = some source)
      (outside ((loggedCompiler k c).compile x)) fun r s => Pending care count k source s ∧
        (r = .ok true → lastPassed? x (s.2.calls.get k) = some source) := by
    refine fun s h => ⟨?_, fun hr => ?_⟩
    · exact keeps_logCall (fun r => .judged x (r.toOption.getD false)) (c.compile x) s h.1
    change ((c.compile x).outcome s.2.world).1 = .ok true at hr
    change lastPassed? x ((s.2.calls.update k (Call.judged x
      (((c.compile x).outcome s.2.world).1.toOption.getD false) :: ·)).get k) = _
    rw [hr, PerStage.get_update, if_pos rfl]
    exact (if_pos rfl).trans h.2
  refine Leads.bind hgiven (fun _ => ?_) fun _ _ h => ⟨h.1, nofun⟩
  refine Leads.bind hjudged (fun compiled => ?_) fun _ _ h => ⟨h.1, nofun⟩
  extract_lets rest
  cases compiled with
  | true => exact fun s h => ⟨h.1, fun _ => h.2 rfl⟩
  | false =>
      have hrest (r : Unit) : Leads (Pending (P := P) care count k source) (rest r) fun r s =>
          Pending care count k source s ∧
            (r = .ok true → lastPassed? x (s.2.calls.get k) = some source) :=
        Leads.pure fun s h => ⟨h, nofun⟩
      refine Leads.mono (P := Pending care count k source) ?_ (fun s h => h.1) fun _ _ h => h
      refine Leads.bind (keeps_logCall (fun _ => .explained x) (c.infoLog x)) (fun text => ?_)
        fun _ _ h => ⟨h, nofun⟩
      exact Leads.bind (pending_indifferent.explain k text) hrest fun _ _ h => ⟨h, nofun⟩

section

variable [Records W] {call : Text → Change → Act (Studio (Logbook W) P × Logbook W) Unit}
variable (hcall : Responsible care call)
include hcall

theorem compileWith_sure {c : Compiler W} (hc : Proper c) :
    Leads (Pending care count k source) (compileWith call (loggedCompiler k c) k source)
      fun r s => Sure care count [] s ∧ (r = .ok true →
        (care k → Backed (s.1.shaders.get k)) ∧ count k < (s.2.calls.get k).length) := by
  -- the call that creates the handle counts for all that comes after it
  have hcreate : Leads (Pending (P := P) care count k source)
      (outside ((loggedCompiler k c).create k.token))
      (Returned (fun _ => Pending care (more k count) k source) (Sure care (more k count) [])) := by
    have hcalled : Leads (Pending (P := P) care count k source)
        (outside ((loggedCompiler k c).create k.token)) fun _ =>
          Pending care (more k count) k source := fun s h => h.called .created _
    exact hcalled.returned (fun _ _ h => h) fun _ _ h => h.sure
  have hset (x : Int) (hx : x ≠ 0) : Leads (fun s => Pending care (more k count) k source s ∧
      lastPassed? x (s.2.calls.get k) = some source) (setHandle call k x) fun r s =>
        Sure care (more k count) [] s ∧ (r = .ok () → care k → Backed (s.1.shaders.get k)) :=
    fun s h => setHandle_sure hcall k hx s ⟨h.1.sure, h.1.bare, source, h.2, h.1.grounded⟩
  have hB : Indifferent SameLog fun s : Studio (Logbook W) P × Logbook W =>
      Sure care (more k count) [] s ∧ (care k → Backed (s.1.shaders.get k)) :=
    sure_indifferent.withShader (p := fun a => care k → Backed a)
      fun _ _ hab hb hk => (hb hk).alike hab
  refine (sure_indifferent.compileWith (fun w => hc k.token w.world) hcreate
    (fun x => submit_passed c) (fun x s h => ?_) hset hB fun s w h => ⟨?_, ?_⟩).mono (fun _ h => h)
      fun r s h => ⟨?_, fun hr => ⟨h.2 hr, ?_⟩⟩
  · exact (keeps_logCall (fun _ => .deleted x) (c.delete x) s h).sure
  · exact h.1.updateShader ((h.1.logs k).alike rfl rfl) fun hk =>
      ⟨(h.1.honest k hk).held, (h.1.honest k hk).passed⟩
  · rw [get_updateShader_self]; exact h.2
  · exact h.1.recount fun j => (le_more k count j).trans (h.1.logs j).count
  · have hcalls := (h.1.logs k).count
    rw [more, if_pos rfl] at hcalls
    exact hcalls

omit [Records W] hcall in
theorem pending_of_ready {I : Studio (Logbook W) P × Logbook W → Prop} {c : Compiler (Logbook W)}
    {s : Studio (Logbook W) P × Logbook W} (h : Sure care count [] s)
    (h0 : (s.1.shaders.get k).handle = 0) (hr : Ready I k c source s) :
    Pending care count k source s := by
  refine ⟨h, h0, ?_⟩
  obtain ⟨w, _, he⟩ := hr.expanded
  change (if contains (s.1.shaders.get k).settings.macroDirective (s.1.shaders.get k).code then
    _ else _ : Act _ Text).outcome (s.1, w) = _ at he
  rw [outcome_ite] at he
  split at he
  · cases hresolver : (s.1.shaders.get k).resolver with
    | none =>
        rw [hresolver] at he
        cases (Prod.mk.inj he).1
    | some e =>
        rw [hresolver] at he
        obtain ⟨e, rfl⟩ := (h.logs k).resolver e hresolver
        obtain ⟨hr, hs⟩ := Prod.mk.inj he
        exact grounded_loggedResolver
          (Prod.ext hr (congrArg (fun t : Studio (Logbook W) P × Logbook W => t.2) hs))
  · exact .inl (Except.ok.inj (Prod.mk.inj he).1).symm

theorem compile_sure (k : Stage) : Leads (Sure care count []) (compile call k) fun r s =>
    Sure care count [] s ∧ (r = .ok true → care k → Backed (s.1.shaders.get k)) := by
  refine sure_indifferent.compile (B := fun s => care k → Backed (s.1.shaders.get k))
    (fun s h hk hc => ?_) (fun r s w h hr => ⟨?_, fun he hc => ?_⟩) fun c source s h => ?_
  · rcases hk with hh | hv | hb
    · exact .inl hh
    · exact (h.honest k List.not_mem_nil).passed hc hv
    · exact .inr hb
  · exact h.updateShader ((h.logs k).alike rfl rfl) fun hk =>
      ⟨(h.honest k hk).held, fun hc hv => hr (Option.some.inj hv) hc⟩
  · rw [get_updateShader_self]
    exact hr he hc
  · obtain ⟨c, hc, rfl⟩ := (h.1.logs k).compiler c h.2.2.compiler
    have hwith := compileWith_sure hcall hc s (pending_of_ready h.1 h.2.1 h.2.2)
    exact ⟨hwith.1, fun hr => (hwith.2 hr).1⟩

theorem compile_calls {s : Studio (Logbook W) P × Logbook W} (h : Sure care count [] s)
    (h0 : (s.1.shaders.get k).handle = 0) (hv : (s.1.shaders.get k).verdict ≠ some true)
    (hb : allBlank (s.1.shaders.get k).code = false)
    (hr : ((compile call k).outcome s).1 = .ok true) :
    count k < (((compile call k).outcome s).2.2.calls.get k).length := by
  have hI : Indifferent SameLog fun s : Studio (Logbook W) P × Logbook W => Sure care count [] s ∧
      ((s.1.shaders.get k).handle = 0 ∧ allBlank (s.1.shaders.get k).code = false) :=
    sure_indifferent.withShader (p := fun a => a.handle = 0 ∧ allBlank a.code = false)
      fun _ _ hab hh => ⟨hab.handle.trans hh.1, by rw [hab.code]; exact hh.2⟩
  have hattempt : Leads (fun s : Studio (Logbook W) P × Logbook W => Sure care count [] s ∧
      ((s.1.shaders.get k).handle = 0 ∧ allBlank (s.1.shaders.get k).code = false))
      (attemptCompile call k) fun r s => r = .ok true → count k < (s.2.calls.get k).length := by
    refine hI.attemptCompile (fun s h hblank => ?_) (fun r s _ hne he => absurd he hne)
      fun c source s h hr => ?_
    · rw [h.2.2] at hblank
      cases hblank
    · obtain ⟨c, hc, rfl⟩ := (h.1.1.logs k).compiler c h.2.compiler
      exact ((compileWith_sure hcall hc s (pending_of_ready h.1.1 h.1.2.1 h.2)).2 hr).2
  cases hverdict : (s.1.shaders.get k).verdict with
  | some r =>
      rw [outcome_compile_known call h0 hverdict] at hr
      rw [hverdict, Except.ok.inj hr] at hv
      exact absurd rfl hv
  | none =>
      have hrecorded : Leads (fun s : Studio (Logbook W) P × Logbook W => Sure care count [] s ∧
          ((s.1.shaders.get k).handle = 0 ∧ allBlank (s.1.shaders.get k).code = false))
          (do
            let compiled ← attemptCompile call k
            changeShader k fun a => { a with verdict := some compiled }
            return compiled)
          fun r s => r = .ok true → count k < (s.2.calls.get k).length := by
        refine Leads.bind hattempt (fun r s h hr => ?_) fun _ _ _ => nofun
        exact h (by rw [Except.ok.inj hr])
      rw [outcome_compile_unknown call h0 hverdict] at hr ⊢
      exact hrecorded _ (hI.shader k _ s.1 s.2 (fun _ => ⟨rfl, rfl, rfl, rfl, rfl, rfl⟩)
        ⟨h, h0, hb⟩) hr

theorem compileProgram_sure : Keeps (Sure care count []) (compileProgram call) := by
  have hstages : Keeps (Sure (P := P) care count []) (Stage.all.mapM (compile call)) :=
    .mapM fun k _ => (compile_sure hcall k).mono (fun _ h => h) fun _ _ h => h.1
  refine sure_indifferent.compileProgram (J := fun _ => True)
    (hstages.mono (fun _ h => h) fun _ _ h => ⟨h, fun _ _ _ => trivial⟩) fun link args s h => ?_
  have hlink : Leads (fun t => t = s) (outside (link args)) fun _ t =>
      Sure (P := P) care count [] t := by
    rintro t rfl
    exact h.1.world (h.1.context link h.2.2.2.1 args t.2)
  refine sure_indifferent.linkWith hlink (fun p s w h => ?_) (fun _ _ h => h) s rfl
  exact ⟨h.logs, h.honest, h.context⟩

end

end Compiling

section Drain

variable {I : W → Prop}

theorem drainShaders_world {delete : Int → Act W Unit} (hd : ∀ x, Keeps I (delete x))
    (limit : Nat) : Keeps (fun b : Bin P × W => I b.2)
      (Bin.drainShaders (fun x => outside (delete x)) limit) := by
  induction limit with
  | zero =>
      rw [Bin.drainShaders]
      exact Keeps.bind keeps_own fun b => .ite (.pure _) (.throw _)
  | succ limit ih =>
      rw [Bin.drainShaders]
      refine Keeps.bind keeps_own fun b => ?_
      split
      · exact .pure _
      · refine Leads.change_bind (R := fun b => I b.2) (fun _ _ h => h) ?_
        exact Keeps.bind (fun b h => hd _ b.2 h) fun _ => Keeps.bind ih fun _ => .pure _

theorem drainPrograms_world {release : P → Act W Unit} (hr : ∀ p, Keeps I (release p))
    (limit : Nat) : Keeps (fun b : Bin P × W => I b.2)
      (Bin.drainPrograms (fun p => outside (release p)) limit) := by
  induction limit with
  | zero =>
      rw [Bin.drainPrograms]
      exact Keeps.bind keeps_own fun b => .ite (.pure _) (.throw _)
  | succ limit ih =>
      rw [Bin.drainPrograms]
      refine Keeps.bind keeps_own fun b => ?_
      split
      · exact .pure _
      · refine Leads.change_bind (R := fun b => I b.2) (fun _ _ h => h) ?_
        exact Keeps.bind (fun b h => hr _ b.2 h) fun _ => Keeps.bind ih fun _ => .pure _

theorem drain_world [Records W] {delete : Int → Act W Unit} {release : P → Act W Unit}
    (hd : ∀ x, Keeps I (delete x)) (hr : ∀ p, Keeps I (release p))
    (hreports : ∀ level text w, I w → I (Records.record level text w)) (s : Studio W P × W)
    (h : I s.2) : ∃ bin v, ((drain delete release).outcome s).2 = ({ s.1 with bin := bin }, v) ∧
      I v := by
  have hdrain : Keeps (fun b : Bin P × W => I b.2)
      (Bin.drain (fun x => outside (delete x)) (fun p => outside (release p)) 0) := by
    rw [Bin.drain]
    refine Keeps.bind keeps_own fun b => Keeps.bind (drainShaders_world hd _) fun deleted => ?_
    refine Keeps.bind keeps_own fun b => Keeps.bind (drainPrograms_world hr _) fun released => ?_
    extract_lets rest
    have hrest (r : Unit) : Keeps (fun b : Bin P × W => I b.2) (rest r) := .pure _
    exact .ite (Keeps.bind (fun b h => hreports _ _ b.2 h) hrest) (hrest ())
  exact ⟨_, _, rfl, hdrain (s.1.bin, s.2) h⟩

end Drain

/-- Handles are the compiler's to give. Compilers that are proper and resolvers are logged for their
stage; what else acts on the world does not touch the logs. -/
def Request.Logged : Request (Logbook W) P V → Prop
  | .setHandle _ handle => handle = 0
  | .setCompiler k c =>
      ∀ c', c = some c' → ∃ c'' : Compiler W, Proper c'' ∧ c' = loggedCompiler k c''
  | .setResolver k e => ∀ e', e = some e' → ∃ e'' : Resolver W, e' = loggedResolver k e''
  | .setContext c => ∀ link, c = some link → ∀ args w, SameLog w ((link args).outcome w).2
  | .drain delete => ∀ x w, SameLog w ((delete x).outcome w).2
  | _ => True

def Unlogged (update : Logbook W → Logbook W) : Prop := ∀ w, SameLog w (update w)

/-- Whoever is told of a handle and returns leaves the stage with one, if it had one. -/
def Careful [Records W] (device : Device W P V) (listener : Listener W P V) (k : Stage) : Prop :=
  ∀ depth name, Leads (fun s => Backed (s.1.shaders.get k))
    ((listener name ⟨k, .handle⟩).run (perform device listener depth))
    fun r s => r = .ok () → Backed (s.1.shaders.get k)

def Listener.Logged (listener : Listener (Logbook W) P V) : Prop :=
  ∀ name c, (listener name c).Within Request.Logged Unlogged

theorem opened_sure {care : Stage → Prop} (settings : Settings) (w : W) :
    Sure (P := P) care (fun _ => 0) [] (opened none none settings none, { world := w }) := by
  refine ⟨fun j => ?_, fun j _ => ?_, nofun⟩
  · rw [get_opened]
    exact ⟨nofun, nofun, Nat.zero_le _⟩
  · rw [get_opened]
    exact ⟨fun hh => absurd rfl hh, nofun⟩

section Runs

variable [Records W] {device : Device (Logbook W) P V} {listener : Listener (Logbook W) P V}
variable {care : Stage → Prop}

theorem respond_sure (hd : Discreet SameLog device)
    (hr : ∀ p w, SameLog w ((device.release p).outcome w).2)
    {call : Text → Change → Act (Studio (Logbook W) P × Logbook W) Unit}
    (hcall : Responsible care call) (count : Stage → Nat) {r : Request (Logbook W) P V}
    (hlogged : r.Logged) : Keeps (Sure care count []) (respond device call r) := by
  cases r with
  | setCode k code => exact setCode_sure hcall k code
  | setHandle k x =>
      cases hlogged
      exact (setHandle_zero_sure hcall k).mono (fun s h => h.doubt k) fun _ _ h => h
  | compile k => exact (compile_sure hcall k).mono (fun _ h => h) fun _ _ h => h.1
  | reset k => exact reset_sure hcall k
  | setCompiler k c =>
      refine fun s h => h.updateShader ⟨hlogged, (h.logs k).resolver, (h.logs k).count⟩ fun hk => ?_
      exact ⟨(h.honest k hk).held, (h.honest k hk).passed⟩
  | setResolver k e =>
      refine fun s h => h.updateShader ⟨(h.logs k).compiler, hlogged, (h.logs k).count⟩ fun hk => ?_
      exact ⟨(h.honest k hk).held, (h.honest k hk).passed⟩
  | setContext c => exact fun s h => ⟨h.logs, h.honest, hlogged⟩
  | compileProgram => exact compileProgram_sure hcall
  | release =>
      refine Keeps.bind (.forM fun k _ => reset_sure hcall k) fun _ s h => ?_
      exact ⟨h.logs, h.honest, h.context⟩
  | drain delete =>
      intro s h
      obtain ⟨bin, v, he, hv⟩ := drain_world (I := SameLog s.2)
        (fun x w hw => hw.trans (hlogged x w)) (fun p w hw => hw.trans (hr p w))
        (fun _ _ _ hw => ⟨hw.calls, hw.expansions⟩) s ⟨rfl, rfl⟩
      have hbin : Sure care count [] (({ s.1 with bin := bin }, s.2) : Studio (Logbook W) P × _) :=
        ⟨h.logs, h.honest, h.context⟩
      change Sure care count [] ((drain delete device.release).outcome s).2
      rw [he]
      exact hbin.world hv
  | look | interface | toLegacy | poll | subscribe | unsubscribe | setSettings | toLegacyPair
  | mergedInterface | setUniform => exact sure_indifferent.aloof.respond hd call trivial

variable (hd : Discreet SameLog device) (hr : ∀ p w, SameLog w ((device.release p).outcome w).2)
variable (hl : listener.Logged) (hcare : ∀ k, care k → Careful device listener k)
include hd hr hl hcare

omit hd hr in
theorem responsible_nested (depth : Nat)
    (h : ∀ r : Request (Logbook W) P V, r.Logged →
      ∀ count, Keeps (Sure care count []) (perform device listener depth r)) :
    Responsible care fun name c => (listener name c).run (perform device listener depth) where
  keeps count name c := Client.keeps_run (fun r hlogged => h r hlogged count)
    (fun _ hu _ w ht => ht.world (hu w)) (hl name c)
  careful k hk name := hcare k hk depth name

theorem perform_sure (depth : Nat) {r : Request (Logbook W) P V} (hlogged : r.Logged)
    (count : Stage → Nat) : Keeps (Sure care count []) (perform device listener depth r) := by
  refine perform_induction (C := Responsible care)
    (Q := fun r a => r.Logged → ∀ count, Keeps (Sure care count []) a) responsible_throw
    (responsible_nested hl hcare) (fun call hcall r hlogged count => ?_) depth r hlogged count
  exact respond_sure hd hr hcall count hlogged

theorem perform_compile_calls (depth : Nat) {count : Stage → Nat} {k : Stage}
    {s t : Studio (Logbook W) P × Logbook W} (h : Sure care count [] s)
    (h0 : (s.1.shaders.get k).handle = 0) (hv : (s.1.shaders.get k).verdict ≠ some true)
    (hb : allBlank (s.1.shaders.get k).code = false)
    (ht : (perform device listener depth (.compile k)).outcome s = (.ok true, t)) :
    count k < (t.2.calls.get k).length := by
  have hcalls : ∃ call, Responsible care call ∧
      perform device listener depth = respond device call :=
    exists_call responsible_throw (fun depth => responsible_nested hl hcare depth
      fun _ hlogged count => perform_sure hd hr hl hcare depth hlogged count) depth
  obtain ⟨call, hcall, he⟩ := hcalls
  rw [he] at ht
  have hlength := compile_calls hcall h h0 hv hb (congrArg Prod.fst ht)
  change (compile call k).outcome s = _ at ht
  rw [ht] at hlength
  exact hlength

omit hcare in
/-- Whatever listeners write, compile and reset while they are told of a change, what passed last
for the handle of a stage is its code; and if those who are told of a handle take care of it, a
stage that passes without a call of its compiler has such a handle, or no code. -/
theorem compile_vouched (settings : Settings) (w : W) {s : Studio (Logbook W) P × Logbook W}
    (h : Reached device listener Request.Logged Unlogged
      (opened none none settings none, { world := w }) s) (k : Stage) :
    let a := s.1.shaders.get k
    (a.handle ≠ 0 → Vouched s.2 k a.handle a.code) ∧
    (Careful device listener k → ∀ depth t,
      (perform device listener depth (.compile k)).outcome s = (.ok true, t) →
      t.2.calls.get k = s.2.calls.get k → allBlank a.code = false →
      a.handle ≠ 0 ∧ Vouched s.2 k a.handle a.code) := by
  intro a
  have hsure : Sure (Careful device listener) (fun _ => 0) [] s := by
    refine h.holds (opened_sure settings w)
      (fun depth r hlogged => perform_sure hd hr hl (fun _ hk => hk) depth hlogged _)
      fun update hu t w ht => ht.world (hu w)
  have hcounted := hsure.recount fun j => le_refl (s.2.calls.get j).length
  have hhonest := hsure.honest k List.not_mem_nil
  refine ⟨hhonest.held, fun hk depth t ht hcalls hb => ?_⟩
  by_cases h0 : a.handle = 0
  · have hv : a.verdict ≠ some true := by
      intro hv
      rcases hhonest.passed hk hv with hh | hblank
      · exact hh h0
      · rw [hb] at hblank
        cases hblank
    have hlength := perform_compile_calls hd hr hl (fun _ hk => hk) depth hcounted h0 hv hb ht
    rw [hcalls] at hlength
    exact absurd hlength (lt_irrefl _)
  · exact ⟨h0, hhonest.held h0⟩

end Runs

namespace Bench

def stillDevice : Device (Logbook Bench) Nat Unit where
  exposes _ _ := false
  write _ _ _ := pure ()
  assign _ _ _ := pure ()
  release _ := pure ()

def vertexRequests : List (Request (Logbook Bench) Nat Unit) :=
  [.setCompiler .vertex (some (loggedCompiler .vertex (compiler ['x']))),
    .subscribe .vertex ['l'], .setCode .vertex ['a'], .compile .vertex]

def vertexRun (listener : Listener (Logbook Bench) Nat Unit) :
    Studio (Logbook Bench) Nat × Logbook Bench :=
  performAll stillDevice listener 3 vertexRequests (opened none none {} none, { world := {} })

theorem discreet_stillDevice : Discreet SameLog stillDevice :=
  ⟨fun _ _ _ _ => ⟨rfl, rfl⟩, fun _ _ _ _ => ⟨rfl, rfl⟩⟩

theorem vertexRun_reached (listener : Listener (Logbook Bench) Nat Unit) :
    Reached stillDevice listener Request.Logged Unlogged
      (opened none none {} none, { world := {} }) (vertexRun listener) := by
  refine Reached.start.performAll 3 fun r hr => ?_
  simp only [vertexRequests, List.mem_cons, List.not_mem_nil, or_false] at hr
  rcases hr with rfl | rfl | rfl | rfl
  · rintro c ⟨⟩
    exact ⟨_, compiler_proper ['x'], rfl⟩
  all_goals exact trivial

def compilingListener : Listener (Logbook Bench) Nat Unit := fun _ change =>
  match change.property with
  | .code => .ask (.compile change.stage) fun _ => .done ()
  | .handle => .done ()

/-- A listener that answers each handle with other code. -/
def rewritingListener : Listener (Logbook Bench) Nat Unit := fun _ change =>
  match change.property with
  | .code => .done ()
  | .handle => .ask (.setCode change.stage ['b']) fun _ => .done ()

theorem compilingListener_logged : compilingListener.Logged := by
  rintro name ⟨k, property⟩
  cases property with
  | code => exact ⟨trivial, fun _ => trivial⟩
  | handle => exact trivial

theorem compile_vouched_vertex :
    let a := (vertexRun compilingListener).1.shaders.get .vertex
    allBlank a.code = false ∧ a.handle ≠ 0 ∧
      Vouched (vertexRun compilingListener).2 .vertex a.handle a.code := by
  intro a
  have hb : allBlank a.code = false := by decide +kernel
  have hcareful : Careful stillDevice compilingListener .vertex := fun _ _ _ h _ => h
  have hr : ((perform stillDevice compilingListener 3 (.compile .vertex)).outcome
      (vertexRun compilingListener)).1 = .ok true := by decide +kernel
  have hcalls : ((perform stillDevice compilingListener 3 (.compile .vertex)).outcome
      (vertexRun compilingListener)).2.2.calls.get .vertex =
        (vertexRun compilingListener).2.calls.get .vertex := by decide +kernel
  have hvouched := compile_vouched discreet_stillDevice (fun _ _ => ⟨rfl, rfl⟩)
    compilingListener_logged {} {} (vertexRun_reached compilingListener) .vertex
  exact ⟨hb, hvouched.2 hcareful 3 _ (Prod.ext hr rfl) hcalls hb⟩

/-- A verdict about the code that was there before: a compiled stage was given other code while its
listener was told of the handle. -/
theorem passed_other_code : rewritingListener.Logged ∧
    Reached stillDevice rewritingListener Request.Logged Unlogged
      (opened none none {} none, { world := {} }) (vertexRun rewritingListener) ∧
    let a := (vertexRun rewritingListener).1.shaders.get .vertex
    let o := (perform stillDevice rewritingListener 3 (.compile .vertex)).outcome
      (vertexRun rewritingListener)
    a.code = ['b'] ∧ allBlank a.code = false ∧ o.1 = .ok true ∧
      o.2.2.calls.get .vertex = (vertexRun rewritingListener).2.calls.get .vertex ∧
      a.handle = 0 ∧ (vertexRun rewritingListener).2.calls.get .vertex =
        [.judged 1 true, .given 1 ['a'], .created] := by
  refine ⟨?_, vertexRun_reached rewritingListener, by decide +kernel, by decide +kernel,
    by decide +kernel, by decide +kernel, by decide +kernel, by decide +kernel⟩
  rintro name ⟨k, property⟩
  cases property with
  | code => exact trivial
  | handle => exact ⟨trivial, fun _ => trivial⟩

end Bench

end ShaderPipeline.Studio
