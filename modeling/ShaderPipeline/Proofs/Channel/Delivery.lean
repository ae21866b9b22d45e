import ShaderPipeline.Channel
import ShaderPipeline.Proofs.Act.Transcript

namespace ShaderPipeline.Channel

open Act

variable {E K W α : Type}

abbrev Turn (E K : Type) := ShaderPipeline.Turn (Request E K) Request.Answer (Text × E)

/-- The turns from an emission on, seen from outside. Those who listen are told one after the other,
up to the first who fails; nobody can be told when the budget of nested calls is `spent`. -/
inductive Delivered (spent : Prop) (e : E) : (listeners : List Text) → List (Turn E K) → Prop
  | all : Delivered spent e [] [.answered (.emit e) (.ok ())]
  | next {name : Text} {names : List Text} {l : List (Turn E K)} (h : Delivered spent e names l) :
      Delivered spent e (name :: names) (.called (name, e) :: .ended (.ok ()) :: l)
  | failed {name : Text} {names : List Text} {fault : Fault} : Delivered spent e (name :: names)
      [.called (name, e), .ended (.error fault), .answered (.emit e) (.error fault)]
  | untold {name : Text} {names : List Text} (h : spent) :
      Delivered spent e (name :: names) [.answered (.emit e) (.error .budgetSpent)]

section Accounts

def hears (names : List Text) : Turn E K → List Text
  | .asked (.subscribe name) => if names.elem name then names else names ++ [name]
  | .asked (.unsubscribe name) => names.erase name
  | _ => names

def listening (turns : List (Turn E K)) : List Text := turns.foldl hears []

/-- The events of one kind: those emitted since the channel was cleared last, how many of them were
handed out, and those handed out before. -/
structure Account (E : Type) where
  settled : List E := []
  since : List E := []
  handed : Nat := 0

variable [DecidableEq K] (kind : E → K) (k : K)

def Account.enter (a : Account E) : Turn E K → Account E
  | .asked (.emit e) => if kind e = k then { a with since := a.since ++ [e] } else a
  | .answered (.poll k') (.ok events) =>
    if k' = k then { a with handed := a.handed + events.length } else a
  | .asked .clear => { settled := a.settled ++ a.since.take a.handed }
  | _ => a

def account (turns : List (Turn E K)) : Account E := turns.foldl (Account.enter kind k) {}

def waiting (turns : List (Turn E K)) : List E :=
  (account kind k turns).since.drop (account kind k turns).handed

def spared (turns : List (Turn E K)) : List E :=
  (account kind k turns).settled ++ (account kind k turns).since

def handing : Turn E K → List E
  | .answered (.poll k') (.ok events) => if k' = k then events else []
  | _ => []

def handedOut (turns : List (Turn E K)) : List E := turns.flatMap (handing k)

end Accounts

section Law

variable [DecidableEq K] (kind : E → K)

def replay (c : Channel E) : Turn E K → Channel E
  | .asked (.emit e) => c.post e
  | .asked (.subscribe name) => c.subscribe name
  | .asked (.unsubscribe name) => c.unsubscribe name
  | .asked .clear => c.clear
  | .answered (.poll k) _ => (c.take (kind · == k)).2
  | _ => c

def law (depth : Nat) (s : Channel E × Nat) : Turn E K → List (Turn E K) → Prop
  | .asked (.emit e), later => Delivered (depth ≤ s.2) e s.1.listeners (surface 0 later)
  | .answered (.poll k) r, _ => r = .ok (s.1.take (kind · == k)).1
  | _, _ => True

end Law

section Keeping

variable [DecidableEq K] {kind : E → K} {k : K} {depth n : Nat}

/-- The queue holds what waits by the account, and what was handed out is what it says. -/
structure Account.Settles (a : Account E) (queued out : List E) : Prop where
  le : a.handed ≤ a.since.length
  queued : queued = a.since.drop a.handed
  out : out = a.settled ++ a.since.take a.handed

theorem Account.Settles.emit {a : Account E} {queued out : List E} (h : a.Settles queued out)
    (e : E) : { a with since := a.since ++ [e] }.Settles (queued ++ [e]) out where
  le := by
    rw [List.length_append]
    exact Nat.le_add_right_of_le h.le
  queued := by rw [List.drop_append_of_le_length h.le, h.queued]
  out := by rw [List.take_append_of_le_length h.le, h.out]

theorem Account.Settles.poll {a : Account E} {queued out : List E} (h : a.Settles queued out) :
    { a with handed := a.handed + queued.length }.Settles [] (out ++ queued) := by
  have hlength : a.handed + queued.length = a.since.length := by
    rw [h.queued, List.length_drop]
    exact Nat.add_sub_of_le h.le
  refine ⟨Nat.le_of_eq hlength, ?_, ?_⟩
  · rw [hlength, List.drop_length]
  · rw [hlength, List.take_length, h.out, h.queued, List.append_assoc, List.take_append_drop]

theorem Account.Settles.clear {a : Account E} {queued out : List E} (h : a.Settles queued out) :
    Account.Settles { settled := a.settled ++ a.since.take a.handed } [] out :=
  ⟨Nat.le_refl _, rfl, by rw [h.out, List.take_nil, List.append_nil]⟩

theorem Account.Settles.enter {a : Account E} {c : Channel E} {out : List E} {turn : Turn E K}
    {later : List (Turn E K)} (h : a.Settles (c.queued.filter (kind · == k)) out)
    (hl : law kind depth (c, n) turn later) :
    (a.enter kind k turn).Settles ((replay kind c turn).queued.filter (kind · == k))
      (out ++ handing k turn) := by
  cases turn with
  | called | ended => exact (List.append_nil out).symm ▸ h
  | asked r =>
      have hout : out ++ handing k (.asked r : Turn E K) = out := List.append_nil out
      rw [hout]
      cases r with
      | emit e =>
          rw [replay, post, List.filter_append, Account.enter]
          by_cases hk : kind e = k
          · simpa [hk] using h.emit e
          · simpa [hk] using h
      | poll k' => exact h
      | subscribe name =>
          rw [replay, subscribe]
          split <;> exact h
      | unsubscribe name => exact h
      | clear => exact h.clear
  | answered r answer =>
      cases r with
      | emit | subscribe | unsubscribe | clear => exact (List.append_nil out).symm ▸ h
      | poll k' =>
          obtain rfl := hl
          rw [replay, take, handing, Account.enter]
          by_cases hk : k' = k
          · subst hk
            have hrest : (c.queued.filter (!kind · == k')).filter (kind · == k') = [] := by
              simp
            rw [if_pos rfl, if_pos rfl, hrest]
            exact h.poll
          · have hrest : (c.queued.filter (!kind · == k')).filter (kind · == k) =
                c.queued.filter (kind · == k) := by
              rw [List.filter_filter]
              refine List.filter_congr fun e _ => ?_
              by_cases he : kind e = k
              · simp [he, Ne.symm hk]
              · simp [he]
            rw [if_neg hk, if_neg hk, hrest, List.append_nil]
            exact h

/-- What has been kept of the turns: who listens, and the events of each kind. -/
structure Kept (kind : E → K) (turns : List (Turn E K)) (c : Channel E) : Prop where
  listeners : c.listeners = listening turns
  nodup : c.listeners.Nodup
  events : ∀ k, (account kind k turns).Settles (c.queued.filter (kind · == k)) (handedOut k turns)

omit [DecidableEq K] in
theorem listening_append (turns : List (Turn E K)) (turn : Turn E K) :
    listening (turns ++ [turn]) = hears (listening turns) turn := by
  rw [listening, List.foldl_append]
  rfl

theorem account_append (turns : List (Turn E K)) (turn : Turn E K) :
    account kind k (turns ++ [turn]) = (account kind k turns).enter kind k turn := by
  rw [account, List.foldl_append]
  rfl

theorem listeners_replay (c : Channel E) (turn : Turn E K) :
    (replay kind c turn).listeners = hears c.listeners turn := by
  cases turn with
  | called | ended => rfl
  | answered r => cases r <;> rfl
  | asked r =>
      cases r with
      | emit | poll | unsubscribe | clear => rfl
      | subscribe name =>
          rw [replay, subscribe, hears]
          split <;> rfl

theorem nodup_replay {c : Channel E} (h : c.listeners.Nodup) (turn : Turn E K) :
    (replay kind c turn).listeners.Nodup := by
  cases turn with
  | called | ended => exact h
  | answered r => cases r <;> exact h
  | asked r =>
      cases r with
      | emit | poll | clear => exact h
      | subscribe name => exact nodup_subscribe h name
      | unsubscribe name => exact nodup_unsubscribe h name

theorem Kept.after {turns later : List (Turn E K)} {c : Channel E} {turn : Turn E K}
    (h : Kept kind turns c) (hl : law kind depth (c, n) turn later) :
    Kept kind (turns ++ [turn]) (replay kind c turn) where
  listeners := by rw [listeners_replay, listening_append, h.listeners]
  nodup := nodup_replay h.nodup turn
  events k := by
    rw [account_append, handedOut, List.flatMap_append, List.flatMap_singleton]
    exact (h.events k).enter hl

end Keeping

def overheard (listener : Text → E → Client (Request E K) Request.Answer W Unit) (name : Text)
    (e : E) : Client (Request E K) Request.Answer (Transcript W (Turn E K)) Unit :=
  (listener name e).transcribedFrom (name, e)

section Runs

variable [DecidableEq K] {kind : E → K} {depth n : Nat}

def Told (kind : E → K) (depth n : Nat) (e : E) (name : Text) (c : Channel E) (l : List (Turn E K))
    (r : Except Fault Unit) (d : Channel E) : Prop :=
  (∃ m, l = .called (name, e) :: m ++ [.ended r] ∧
    Talk (law kind depth) (replay kind) (n + 1) c m d) ∨
  (depth ≤ n ∧ l = [] ∧ r = .error .budgetSpent ∧ d = c)

structure Round (kind : E → K) (depth n : Nat) (e : E) (names : List Text) (c : Channel E)
    (l : List (Turn E K)) (r : Except Fault Unit) (d : Channel E) : Prop where
  talk : Talk (law kind depth) (replay kind) n c l d
  delivered : ∀ more,
    Delivered (depth ≤ n) e names (surface 0 (l ++ .answered (.emit e) r :: more))

theorem Told.talk {e : E} {name : Text} {c d : Channel E} {l : List (Turn E K)}
    {r : Except Fault Unit} (h : Told kind depth n e name c l r d) :
    Talk (law kind depth) (replay kind) n c l d := by
  obtain ⟨m, rfl, hm⟩ | ⟨_, rfl, _, rfl⟩ := h
  · exact hm.call (fun _ => trivial) fun _ => trivial
  · exact .nil d

theorem writes_round {e : E} {call : Text → E → Act (Channel E × W) Unit}
    {call' : Text → E → Act (Channel E × Transcript W (Turn E K)) Unit}
    (hcall : ∀ name, Writes (Told kind depth n e name) (call name e) (call' name e))
    (names : List Text) :
    Writes (Round kind depth n e names) (names.forM (call · e)) (names.forM (call' · e)) := by
  induction names with
  | nil => exact fun c w turns => ⟨[], by simp [Pure.pure], .nil c, fun _ => .all⟩
  | cons name names ih =>
      change Writes _ (call name e >>= fun _ => names.forM (call · e))
        (call' name e >>= fun _ => names.forM (call' · e))
      refine (hcall name).bind (fun _ => ih) ?_ ?_
      · intro c l _ d m r u hl hm
        refine ⟨hl.talk.append hm.talk, fun more => ?_⟩
        obtain ⟨m, rfl, htalk⟩ | ⟨_, _, hr, _⟩ := hl
        · rw [List.append_assoc, surface_call htalk]
          exact .next (hm.delivered more)
        · cases hr
      · intro c l fault d hl
        refine ⟨hl.talk, fun more => ?_⟩
        obtain ⟨m, rfl, htalk⟩ | ⟨hspent, rfl, hr, _⟩ := hl
        · rw [surface_call htalk]
          exact .failed
        · obtain rfl := Except.error.inj hr
          exact .untold hspent

theorem writes_respond {call : Text → E → Act (Channel E × W) Unit}
    {call' : Text → E → Act (Channel E × Transcript W (Turn E K)) Unit}
    (hcall : ∀ name e, Writes (Told kind depth n e name) (call name e) (call' name e))
    (r : Request E K) : Writes
      (fun c l a d => Talk (law kind depth) (replay kind) n c (.asked r :: l ++ [.answered r a]) d)
      (respond kind call r) (respond kind call' r) := by
  cases r with
  | emit e =>
      intro c w turns
      obtain ⟨l, hl, hround⟩ :=
        writes_round (fun name => hcall name e) c.listeners (c.post e) w turns
      refine ⟨l, hl, hround.talk.exchange (fun more => ?_) fun _ => trivial⟩
      exact hround.delivered more
  | poll k =>
      refine (Writes.own (x := fun c => (c.take (kind · == k)).1)
        (f := fun c => (c.take (kind · == k)).2) (fun _ _ => rfl) fun _ _ => rfl).mono ?_
      rintro c _ _ _ ⟨rfl, rfl, rfl⟩
      exact Talk.exchange (.nil c) (fun _ => trivial) fun _ => rfl
  | subscribe name =>
      refine (Writes.own (f := Channel.subscribe name) (fun _ _ => rfl) fun _ _ => rfl).mono ?_
      rintro c _ _ _ ⟨rfl, rfl, rfl⟩
      exact Talk.exchange (.nil _) (fun _ => trivial) fun _ => trivial
  | unsubscribe name =>
      refine (Writes.own (f := Channel.unsubscribe name) (fun _ _ => rfl) fun _ _ => rfl).mono ?_
      rintro c _ _ _ ⟨rfl, rfl, rfl⟩
      exact Talk.exchange (.nil _) (fun _ => trivial) fun _ => trivial
  | clear =>
      refine (Writes.own (f := Channel.clear) (fun _ _ => rfl) fun _ _ => rfl).mono ?_
      rintro c _ _ _ ⟨rfl, rfl, rfl⟩
      exact Talk.exchange (.nil _) (fun _ => trivial) fun _ => trivial

theorem writes_perform (kind : E → K)
    (listener : Text → E → Client (Request E K) Request.Answer W Unit) {left : Nat}
    (hleft : depth = n + left) (r : Request E K) : Writes
      (fun c l a d => Talk (law kind depth) (replay kind) n c (.asked r :: l ++ [.answered r a]) d)
      (perform kind listener left r) (perform kind (overheard listener) left r) := by
  induction left generalizing n r with
  | zero =>
      refine writes_respond (fun name e c w turns => ?_) r
      exact ⟨[], by simp, .inr ⟨Nat.le_of_eq hleft, rfl, rfl, rfl⟩⟩
  | succ left ih =>
      refine writes_respond (fun name e => ?_) r
      have hnested (op : Request E K) := ih (by omega : depth = n + 1 + left) op
      exact (writes_transcribedFrom (fun op _ => hnested op) (Client.within_true _) (name, e)).mono
        fun _ _ _ _ h => .inl h

/-- The turns of a whole run, at whose end the channel is as given. -/
structure Faithful (kind : E → K) (depth : Nat) (turns : List (Turn E K)) (c : Channel E) :
    Prop where
  told : ∀ past e later, turns = past ++ .asked (.emit e) :: later →
    (listening past).Nodup ∧ Delivered (depth ≤ underway past) e (listening past) (surface 0 later)
  polled : ∀ past k a later, turns = past ++ .answered (.poll k) a :: later →
    a = .ok (waiting kind k past)
  spared : ∀ k, handedOut k turns ++ c.queued.filter (kind · == k) = spared kind k turns

/-- Whatever a host and the listeners ask of a new channel, and whether they fail: all who listen
when an event comes are told of it once, in the order of their subscriptions, up to the first who
fails, unless `depth` calls are under way already; to ask for the events of a kind hands out those
that have come, in order, and have neither been handed out nor discarded; and in the end all that
have not been discarded were handed out once or wait still. -/
theorem delivers (kind : E → K)
    (listener : Text → E → Client (Request E K) Request.Answer W Unit)
    (host : Client (Request E K) Request.Answer W α) (depth : Nat) (w : W) :
    ∃ (r : Except Fault α) (c : Channel E) (v : W) (turns : List (Turn E K)),
      (host.run (perform kind listener depth)).outcome ({}, w) = (r, (c, v)) ∧
      ((host.transcribed fun _ => []).run (perform kind (overheard listener) depth)).outcome
        ({}, ⟨w, []⟩) = (r, (c, ⟨v, turns⟩)) ∧
      Faithful kind depth turns c := by
  obtain ⟨r, c, v, turns, hrun, hwritten, htalk⟩ :=
    exists_talk (writes_perform kind listener (Nat.zero_add depth).symm) host {} w
  have hstart : Kept kind [] {} := ⟨rfl, List.nodup_nil, fun k => ⟨Nat.le_refl _, rfl, rfl⟩⟩
  have hkept {past later : List (Turn E K)} (h : turns = past ++ later) :
      Kept kind past (past.foldl (replay kind) {}) :=
    htalk.keeps hstart (fun past s turn later hl hp => hp.after hl) h
  have hend : Kept kind turns c :=
    htalk.keeps_end hstart fun past s turn later hl hp => hp.after hl
  refine ⟨r, c, v, turns, hrun, hwritten, ?_, ?_, ?_⟩
  · rintro past e later rfl
    have hpast := hkept rfl
    exact ⟨hpast.listeners ▸ hpast.nodup, hpast.listeners ▸ htalk.at⟩
  · rintro past k a later rfl
    exact htalk.at.trans (congrArg _ ((hkept rfl).events k).queued)
  · intro k
    rw [(hend.events k).out, (hend.events k).queued, List.append_assoc, List.take_append_drop]
    rfl

end Runs

/-- A listener that sends another one away, and emits an event when it is told of the first. The
world remembers who was told of what. -/
def meddling (name : Text) (e : Nat) :
    Client (Request Nat Nat) Request.Answer (List (Text × Nat)) Unit :=
  .touch (· ++ [(name, e)]) fun _ => .ask (.unsubscribe "b".toList) fun _ =>
    if e = 2 then .ask (.emit 3) fun _ => .done () else .fail (.raised .runtime name)

def announcing : Client (Request Nat Nat) Request.Answer (List (Text × Nat))
    (Except Fault (List Nat)) :=
  .ask (.subscribe "a".toList) fun _ => .ask (.subscribe "b".toList) fun _ =>
  .ask (.emit 2) fun _ => .ask (.poll 0) .done

theorem delivers_meddling : ∃ turns,
    (announcing.run (perform (· % 2) meddling 3)).outcome ({}, []) = (.ok (.ok [2]),
      ({ queued := [3, 3], listeners := ["a".toList] },
        [("a".toList, 2), ("a".toList, 3), ("b".toList, 2), ("a".toList, 3)])) ∧
    Faithful (· % 2) 3 turns { queued := [3, 3], listeners := ["a".toList] } := by
  obtain ⟨r, c, v, turns, hrun, _, hfaithful⟩ := delivers (· % 2) meddling announcing 3 []
  have hend : (announcing.run (perform (· % 2) meddling 3)).outcome ({}, []) = (.ok (.ok [2]),
      ({ queued := [3, 3], listeners := ["a".toList] },
        [("a".toList, 2), ("a".toList, 3), ("b".toList, 2), ("a".toList, 3)])) := rfl
  obtain rfl : _ = c := congrArg (·.2.1) (hend.symm.trans hrun)
  exact ⟨turns, hend, hfaithful⟩

end ShaderPipeline.Channel
