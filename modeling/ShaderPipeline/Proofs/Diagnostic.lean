import ShaderPipeline.Proofs.Messages
import Mathlib.Data.List.Infix

namespace ShaderPipeline

open Text

/-- No run of digits is too long to be read as a number. -/
def Readable (message : Text) : Prop :=
  ∀ run, run <:+: message → run.all isDigit → run.length ≤ numeralLimit

theorem Readable.of_infix {m t : Text} (h : Readable t) (hm : m <:+: t) : Readable m :=
  fun run hr => h run (hr.trans hm)

theorem Readable.of_length {t : Text} (h : t.length ≤ numeralLimit) : Readable t :=
  fun _ hr _ => hr.length_le.trans h

theorem Readable.of_not_isDigit {t : Text} (h : t.all (!isDigit ·)) : Readable t := by
  intro run hr hd
  cases run with
  | nil => exact Nat.zero_le _
  | cons c run =>
      have hc := List.all_eq_true.mp h c (hr.subset (by simp))
      have hc' := List.all_eq_true.mp hd c (by simp)
      simp [hc'] at hc

theorem prefix_trimEnd (t : Text) : trimEnd t <+: t := by
  obtain ⟨tail, _, ht⟩ := exists_trimEnd t
  exact ⟨tail, ht.symm⟩

theorem Names.is_run {m line : Text} (h : Names m line) :
    line <:+: m ∧ line.all isDigit = true := by
  rcases h with h | h
  · cases h with
    | @intro indent file line rest _ _ hl =>
        exact ⟨⟨indent ++ (file ++ ['(']), ')' :: rest, by simp⟩, hl.2⟩
  · cases h with
    | @intro indent severity colon gap file line rest mark _ _ _ _ _ hl _ =>
        exact ⟨⟨indent ++ (severity ++ (colon ++ (gap ++ (file ++ [':'])))), mark :: rest, by simp⟩,
          hl.2⟩

theorem lineNumber_ok {m : Text} (h : Readable m) : ∃ n, lineNumber m = .ok n := by
  by_cases hm : ∃ line, Names m line
  · obtain ⟨line, hline⟩ := hm
    obtain ⟨hrun, hdigits⟩ := hline.is_run
    exact ⟨numeral line, (lineNumber_of_names hline).trans (if_pos (h line hrun hdigits))⟩
  · exact ⟨0, lineNumber_of_not_names fun line hline => hm ⟨line, hline⟩⟩

end ShaderPipeline
