import ShaderPipeline.Proofs.Text.Cut
import ShaderPipeline.Text.Word

namespace ShaderPipeline.Text

/-- The second text is the first with stretches left out, each with `new` in its place. -/
inductive Patched (new : Text) : Text → Text → Prop
  | nil (t : Text) : Patched new t []
  | keep (c : Char) {t o : Text} (h : Patched new t o) : Patched new (c :: t) (c :: o)
  | put {t rest o : Text} (hs : rest <:+ t) (h : Patched new rest o) : Patched new t (new ++ o)

/-- A mark that cannot lie over `new`, start in it and go on behind it, or end in it. -/
structure Apart (mark new : Text) : Prop where
  whole : ¬ new <:+: mark
  starts : ∀ front, front <+: mark → front <:+ new → front = []
  ends : ∀ c ∈ mark.getLast?, c ∉ new

theorem ends_iff {mark new : Text} :
    mark.getLast?.all (!new.elem ·) = true ↔ ∀ c ∈ mark.getLast?, c ∉ new := by
  rw [Option.all_eq_true]
  exact forall₂_congr fun c _ => by simp

instance (mark new : Text) : Decidable (Apart mark new) :=
  decidable_of_iff (¬ new <:+: mark ∧ (∀ front ∈ mark.inits, front <:+ new → front = []) ∧
      mark.getLast?.all (!new.elem ·))
    ⟨fun ⟨hw, hs, he⟩ =>
        ⟨hw, fun front hp => hs front ((List.mem_inits _ _).mpr hp), ends_iff.mp he⟩,
      fun h => ⟨h.whole, fun front hp => h.starts front ((List.mem_inits _ _).mp hp),
        ends_iff.mpr h.ends⟩⟩

/-- A mark that can neither start in `new` and go on behind it nor end in it. -/
structure Foreign (mark new : Text) : Prop where
  nonempty : mark ≠ []
  last : ∃ front c, new = front ++ [c] ∧ c ∉ mark
  ends : ∀ c, mark.getLast? = some c → c ∉ new

theorem Foreign.apart {mark new : Text} (h : Foreign mark new) : Apart mark new := by
  obtain ⟨front, c, rfl, hc⟩ := h.last
  refine ⟨fun hi => hc (hi.subset (by simp)), fun start hp hs => ?_, h.ends⟩
  rcases List.suffix_concat_iff.mp hs with rfl | ⟨start', rfl, _⟩
  · rfl
  · exact absurd (hp.subset (by simp)) hc

variable {name new m t o : Text}

theorem patched_replaceWordFrom (inWord : Bool) (skip : Nat) (t : Text) :
    Patched new (t.drop skip) (replaceWordFrom name new inWord skip t) := by
  induction t generalizing inWord skip with
  | nil => cases skip <;> exact .nil _
  | cons c t ih =>
      cases skip with
      | succ skip => exact ih (isWord c) skip
      | zero =>
          rw [replaceWordFrom]
          split
          · split
            · exact .put ((List.drop_suffix _ t).trans (List.suffix_cons c t)) (ih (isWord c) _)
            · exact .keep c (ih (isWord c) 0)
          · exact .keep c (ih (isWord c) 0)

theorem patched_replaceWord (name new t : Text) : Patched new t (replaceWord name new t) :=
  patched_replaceWordFrom false 0 t

theorem patched_replaceFrom (old : Text) (skip : Nat) (t : Text) :
    Patched new (t.drop skip) (replaceFrom old new skip t) := by
  induction t generalizing skip with
  | nil => cases skip <;> exact .nil _
  | cons c t ih =>
      cases skip with
      | succ skip => exact ih skip
      | zero =>
          rw [replaceFrom]
          split
          · exact .put ((List.drop_suffix _ t).trans (List.suffix_cons c t)) (ih _)
          · exact .keep c (ih 0)

theorem patched_replaceAll {old : Text} (h : old ≠ []) (new t : Text) :
    Patched new t (replaceAll old new t) := by
  rw [replaceAll, if_neg h]
  exact patched_replaceFrom old 0 t

theorem not_infix_of_last_not_mem (hne : m ≠ []) (hm : ∀ c ∈ m.getLast?, c ∉ new) :
    ¬ m <:+: new := by
  intro hi
  have hlast := List.getLast?_eq_some_getLast hne
  exact hm _ hlast (hi.subset (List.getLast_mem hne))

namespace Patched

theorem mem (h : Patched new t o) {c : Char} (hc : c ∈ o) : c ∈ new ∨ c ∈ t := by
  induction h with
  | nil => cases hc
  | keep d _ ih =>
      rcases List.mem_cons.mp hc with rfl | hc
      · exact .inr List.mem_cons_self
      · exact (ih hc).imp_right (List.mem_cons_of_mem d)
  | put hs _ ih =>
      rcases List.mem_append.mp hc with hc | hc
      · exact .inl hc
      · exact (ih hc).imp_right fun h => hs.subset h

theorem starts (h : Patched new t o) (hw : ¬ new <:+: m) (he : ∀ c ∈ m.getLast?, c ∉ new)
    (hp : m <+: o) : m <+: t := by
  induction h generalizing m with
  | nil =>
      rw [List.prefix_nil.mp hp]
      exact List.nil_prefix
  | keep c _ ih =>
      cases m with
      | nil => exact List.nil_prefix
      | cons d m =>
          obtain ⟨rfl, htail⟩ := List.cons_prefix_cons.mp hp
          apply (List.prefix_cons_inj d).mpr
          refine ih (fun hi => hw (hi.trans (List.suffix_cons d m).isInfix)) (fun c hc => ?_) htail
          cases m with
          | nil => cases hc
          | cons e m => exact he c (by rw [List.getLast?_cons_cons]; exact hc)
  | put _ _ _ =>
      by_cases hne : m = []
      · rw [hne]
        exact List.nil_prefix
      · exfalso
        rcases List.prefix_or_prefix_of_prefix hp (List.prefix_append new _) with hmn | hnm
        · exact not_infix_of_last_not_mem hne he hmn.isInfix
        · exact hw hnm.isInfix

/-- A mark that is apart from the new text is in the result only where it is copied. -/
theorem infix_append (hm : Apart m new) (hi : m <:+: new ++ o) : m <:+: o := by
  by_cases hne : m = []
  · rw [hne]
    exact List.nil_infix
  · rcases List.infix_append_iff.mp hi with hnew | ho | ⟨front, rest, rfl, hfront, hrest⟩
    · exact absurd hnew (not_infix_of_last_not_mem hne hm.ends)
    · exact ho
    · rw [hm.starts front (List.prefix_append front rest) hfront]
      exact hrest.isInfix

theorem holds (h : Patched new t o) (hm : Apart m new) (hi : m <:+: o) : m <:+: t := by
  induction h with
  | nil =>
      rw [List.infix_nil.mp hi]
      exact List.nil_infix
  | keep c h ih =>
      rcases List.infix_cons_iff.mp hi with hp | hi
      · exact ((Patched.keep c h).starts hm.whole hm.ends hp).isInfix
      · exact (ih hi).trans (List.suffix_cons c _).isInfix
  | put hs _ ih => exact (ih (infix_append hm hi)).trans hs.isInfix

end Patched

theorem not_infix_replaceFrom {old : Text} (hne : old ≠ []) (hm : Apart old new) (skip : Nat)
    (t : Text) : ¬ old <:+: replaceFrom old new skip t := by
  induction t generalizing skip with
  | nil => cases skip <;> exact fun hi => hne (List.infix_nil.mp hi)
  | cons c t ih =>
      cases skip with
      | succ skip => exact ih skip
      | zero =>
          rw [replaceFrom]
          split
          · exact fun hi => ih _ (Patched.infix_append hm hi)
          · next hp =>
              intro hi
              rcases List.infix_cons_iff.mp hi with hstart | hi
              · have hcopy : Patched new (c :: t) (c :: replaceFrom old new 0 t) :=
                  .keep c (patched_replaceFrom old 0 t)
                exact hp (List.isPrefixOf_iff_prefix.mpr (hcopy.starts hm.whole hm.ends hstart))
              · exact ih 0 hi

theorem not_infix_replaceAll {old : Text} (hne : old ≠ []) (hm : Apart old new) (t : Text) :
    ¬ old <:+: replaceAll old new t := by
  rw [replaceAll, if_neg hne]
  exact not_infix_replaceFrom hne hm 0 t

end ShaderPipeline.Text
