import ShaderPipeline.Text.Basic
import Mathlib.Data.List.Infix

namespace ShaderPipeline.Text

variable {m t a b : Text}

theorem after?_eq_none_iff : after? m t = none ↔ ¬ m <+: t := by
  constructor
  · rintro h ⟨rest, rfl⟩
    rw [after?_eq_some_iff.mpr rfl] at h
    cases h
  · intro h
    cases hr : after? m t with
    | none => rfl
    | some rest => exact absurd ⟨rest, (after?_eq_some_iff.mp hr).symm⟩ h

theorem isSome_after? : (after? m t).isSome ↔ m <+: t := by
  rw [Option.isSome_iff_ne_none, ne_eq, after?_eq_none_iff, not_not]

theorem cut?_eq_none_iff : cut? m t = none ↔ ¬ m <:+: t := by
  induction t with
  | nil =>
      rw [cut?, List.infix_nil]
      by_cases h : m = [] <;> simp [h]
  | cons c t ih =>
      rw [cut?, List.infix_cons_iff]
      cases h : after? m (c :: t) with
      | some rest => simp [(after?_eq_some_iff.mp h).symm ▸ List.prefix_append m rest]
      | none => simp [ih, after?_eq_none_iff.mp h]

theorem contains_iff : contains m t = true ↔ m <:+: t := by
  rw [contains, Option.isSome_iff_ne_none, ne_eq, cut?_eq_none_iff, not_not]

theorem contains_eq_false_iff : contains m t = false ↔ ¬ m <:+: t := by
  rw [← contains_iff, Bool.not_eq_true]

/-- The head of a cut is as short as it can be. -/
theorem not_infix_of_cut? {head rest : Text} (hm : m ≠ []) (h : cut? m t = some (head, rest)) :
    ¬ m <:+: head ++ m.dropLast := by
  have hlen : m.dropLast.length < m.length := by
    rw [List.length_dropLast]
    have := List.length_pos_iff.mpr hm
    omega
  induction t generalizing head with
  | nil =>
      rw [cut?, if_neg hm] at h
      cases h
  | cons c t ih =>
      rw [cut?] at h
      cases ha : after? m (c :: t) with
      | some r =>
          rw [ha] at h
          cases h
          intro hi
          have := hi.length_le
          rw [List.nil_append] at this
          omega
      | none =>
          rw [ha] at h
          obtain ⟨⟨head', rest'⟩, hc, he⟩ := Option.map_eq_some_iff.mp h
          cases he
          have ht := eq_append_of_cut? hc
          intro hi
          rcases List.infix_cons_iff.mp hi with hp | hi
          · refine after?_eq_none_iff.mp ha (hp.trans ?_)
            rw [ht, List.append_assoc]
            refine (List.prefix_cons_inj c).mpr ((List.prefix_append_right_inj head').mpr ?_)
            exact (List.dropLast_prefix m).trans (List.prefix_append m rest)
          · exact ih hc hi

theorem cut?_of_not_infix {head rest : Text} (hm : m ≠ []) (h : ¬ m <:+: head ++ m.dropLast) :
    cut? m (head ++ m ++ rest) = some (head, rest) := by
  induction head with
  | nil =>
      obtain ⟨c, m, rfl⟩ := List.exists_cons_of_ne_nil hm
      have ha : after? (c :: m) (c :: m ++ rest) = some rest := after?_eq_some_iff.mpr rfl
      rw [List.nil_append, List.cons_append, cut?]
      rw [List.cons_append] at ha
      rw [ha]
  | cons c head ih =>
      have hn : ¬ m <+: c :: (head ++ m ++ rest) := by
        intro hp
        refine h (List.IsPrefix.isInfix ?_)
        refine List.prefix_of_prefix_length_le hp ?_ ?_
        · rw [List.cons_append, List.append_assoc]
          refine (List.prefix_cons_inj c).mpr ((List.prefix_append_right_inj head).mpr ?_)
          exact (List.dropLast_prefix m).trans (List.prefix_append m rest)
        · rw [List.length_append, List.length_cons, List.length_dropLast]
          omega
      rw [List.cons_append, List.cons_append, cut?, after?_eq_none_iff.mpr hn,
        ih fun hi => h (hi.trans (List.suffix_cons c _).isInfix)]
      rfl

theorem before_of_not_infix (h : ¬ m <:+: t) : before m t = t := by
  rw [before, cut?_eq_none_iff.mpr h]

theorem prefix_before (m t : Text) : before m t <+: t := by
  rw [before]
  cases h : cut? m t with
  | none => exact List.prefix_refl t
  | some p =>
      obtain ⟨head, rest⟩ := p
      rw [eq_append_of_cut? h, List.append_assoc]
      exact List.prefix_append head _

theorem not_infix_before (hm : m ≠ []) (t : Text) : ¬ m <:+: before m t := by
  rw [before]
  cases h : cut? m t with
  | none => exact cut?_eq_none_iff.mp h
  | some p =>
      obtain ⟨head, rest⟩ := p
      exact fun hi => not_infix_of_cut? hm h (hi.trans (List.prefix_append head _).isInfix)

theorem infix_append_cons {c : Char} (hc : c ∉ m) (h : m <:+: a ++ c :: b) :
    m <:+: a ∨ m <:+: b := by
  induction a with
  | nil =>
      rcases List.infix_cons_iff.mp h with hp | hi
      · cases m with
        | nil => exact .inl List.nil_infix
        | cons d m =>
            obtain ⟨rfl, _⟩ := List.cons_prefix_cons.mp hp
            exact absurd (List.mem_cons_self) hc
      · exact .inr hi
  | cons d a ih =>
      rcases List.infix_cons_iff.mp h with hp | hi
      · refine .inl (List.IsPrefix.isInfix ?_)
        have hlong : d :: a <+: d :: (a ++ c :: b) := List.prefix_append (d :: a) (c :: b)
        rcases List.prefix_or_prefix_of_prefix hp hlong with hp' | ⟨r, hr⟩
        · exact hp'
        · rw [← hr] at hp hc ⊢
          obtain ⟨s, hs⟩ := hp
          cases r with
          | nil => simp
          | cons e r =>
              have he : e = c := by simpa using congrArg List.head? (List.append_cancel_left
                (show (d :: a) ++ (e :: r ++ s) = (d :: a) ++ c :: b by simpa using hs))
              exact absurd (by simp [he]) hc
      · exact (ih hi).imp_left fun h => h.trans (List.suffix_cons d a).isInfix

theorem infix_append_of_disjoint (hm : m ≠ []) (hb : ∀ c ∈ b, c ∉ m) (h : m <:+: a ++ b) :
    m <:+: a := by
  cases b with
  | nil => rwa [List.append_nil] at h
  | cons c b =>
      rcases infix_append_cons (hb c List.mem_cons_self) h with h | h
      · exact h
      · obtain ⟨x, hx⟩ := List.exists_mem_of_ne_nil m hm
        exact absurd hx (hb x (List.mem_cons_of_mem c (h.subset hx)))

theorem cut?_append {x : Char} (hx : x ∉ a) (m t : Text) :
    cut? (x :: m) (a ++ t) = (cut? (x :: m) t).map fun (b, r) => (a ++ b, r) := by
  induction a with
  | nil =>
      rw [List.nil_append]
      cases cut? (x :: m) t <;> rfl
  | cons c a ih =>
      have hc : x ≠ c := fun h => hx (h ▸ List.mem_cons_self)
      rw [List.cons_append, cut?, after?, if_neg hc, ih fun h => hx (List.mem_cons_of_mem c h)]
      cases cut? (x :: m) t <;> rfl

theorem before_append {x : Char} (hx : x ∉ a) (m t : Text) :
    before (x :: m) (a ++ t) = a ++ before (x :: m) t := by
  rw [before, before, cut?_append hx]
  cases cut? (x :: m) t <;> rfl

theorem cut?_append_of_disjoint (hm : m ≠ []) (hb : ∀ c ∈ b, c ∉ m) (t : Text) :
    cut? m (t ++ b) = (cut? m t).map fun (a, r) => (a, r ++ b) := by
  cases h : cut? m t with
  | none =>
      rw [cut?_eq_none_iff] at h
      exact cut?_eq_none_iff.mpr fun hi => h (infix_append_of_disjoint hm hb hi)
  | some p =>
      obtain ⟨head, r⟩ := p
      rw [eq_append_of_cut? h, List.append_assoc]
      exact cut?_of_not_infix hm (not_infix_of_cut? hm h)

end ShaderPipeline.Text
