import ShaderPipeline.Proofs.Text.Patch
import ShaderPipeline.Proofs.Text.Pieces

namespace ShaderPipeline.Text

variable {old new t : Text} {c : Char} {ls : List Text}

theorem replaceFrom_append_cons (hne : old ≠ []) (hc : c ∉ old) (b : Text) {a : Text} {skip : Nat}
    (hs : skip ≤ a.length) : replaceFrom old new skip (a ++ c :: b) =
      replaceFrom old new skip a ++ c :: replaceFrom old new 0 b := by
  induction a generalizing skip with
  | nil =>
      obtain rfl : skip = 0 := by simpa using hs
      have hno : old.isPrefixOf (c :: b) = false := by
        cases old with
        | nil => exact absurd rfl hne
        | cons d old =>
            have hd : (d == c) = false := beq_eq_false_iff_ne.mpr (List.ne_of_not_mem_cons hc).symm
            rw [List.isPrefixOf, hd, Bool.false_and]
      change replaceFrom old new 0 (c :: b) = c :: replaceFrom old new 0 b
      rw [replaceFrom, hno, if_neg (by decide)]
  | cons x a ih =>
      cases skip with
      | succ skip => exact ih (by simpa using hs)
      | zero =>
          -- an occurrence that starts here ends before `c`
          have hsame : old.isPrefixOf (x :: (a ++ c :: b)) = old.isPrefixOf (x :: a) := by
            rw [Bool.eq_iff_iff, List.isPrefixOf_iff_prefix, List.isPrefixOf_iff_prefix]
            refine ⟨fun h => ?_, fun h => h.trans (List.prefix_append (x :: a) _)⟩
            rcases List.prefix_or_prefix_of_prefix h (List.prefix_append (x :: a) (c :: b)) with h' | h'
            · exact h'
            · obtain ⟨m, rfl⟩ := h'
              have hm : m <+: c :: b := (List.prefix_append_right_inj (x :: a)).mp h
              cases m with
              | nil => simp
              | cons d m =>
                  obtain ⟨rfl, _⟩ := List.cons_prefix_cons.mp hm
                  exact absurd (by simp) hc
          rw [List.cons_append, replaceFrom, replaceFrom, hsame]
          split
          · next h =>
              have hlong := (List.isPrefixOf_iff_prefix.mp h).length_le
              rw [ih (by simp only [List.length_cons] at hlong; omega), List.append_assoc]
          · rw [ih (Nat.zero_le _)]
            rfl

theorem replaceAll_append_cons (hne : old ≠ []) (hc : c ∉ old) (a b : Text) :
    replaceAll old new (a ++ c :: b) = replaceAll old new a ++ c :: replaceAll old new b := by
  simp only [replaceAll, if_neg hne]
  exact replaceFrom_append_cons hne hc b (Nat.zero_le _)

theorem replaceAll_eq_self (h : ¬ old <:+: t) : replaceAll old new t = t := by
  have hne : old ≠ [] := fun he => h (he ▸ List.nil_infix)
  rw [replaceAll, if_neg hne]
  induction t with
  | nil => rfl
  | cons c t ih =>
      have hno : old.isPrefixOf (c :: t) = false := by
        rw [← Bool.not_eq_true, List.isPrefixOf_iff_prefix]
        exact fun hp => h hp.isInfix
      rw [replaceFrom, hno, if_neg (by decide),
        ih fun hi => h (hi.trans (List.suffix_cons c t).isInfix)]

theorem replaceAll_unlines (hne : old ≠ []) (hn : '\n' ∉ old) (ls : List Text) :
    replaceAll old new (unlines ls) = unlines (ls.map (replaceAll old new)) := by
  induction ls with
  | nil => rw [unlines, replaceAll, if_neg hne]; rfl
  | cons l ls ih =>
      cases ls with
      | nil => rfl
      | cons m ms =>
          change replaceAll old new (l ++ '\n' :: unlines (m :: ms)) = _
          rw [replaceAll_append_cons hne hn, ih]
          rfl

theorem lines_replaceAll (hne : old ≠ []) (hn : '\n' ∉ old) (hnew : '\n' ∉ new) (t : Text) :
    lines (replaceAll old new t) = (lines t).map (replaceAll old new) := by
  conv_lhs => rw [← unlines_lines t, replaceAll_unlines hne hn]
  refine lines_unlines (by simp [lines, pieces_ne_nil]) fun l hl hm => ?_
  obtain ⟨k, hk, rfl⟩ := List.mem_map.mp hl
  exact ((patched_replaceAll hne new k).mem hm).elim hnew (newline_not_mem_of_mem_lines hk)

end ShaderPipeline.Text
