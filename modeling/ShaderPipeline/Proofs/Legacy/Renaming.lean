import ShaderPipeline.Proofs.Glsl.Blocks
import ShaderPipeline.Proofs.Legacy.Lines
import ShaderPipeline.Proofs.Text.Rename

namespace ShaderPipeline.Legacy

open Text Glsl

variable {name t o : Text} {output : Option Text}

def marks : List Text := [lineMark, openMark, closeMark]

/-- A name without blanks that holds no mark of a comment. -/
structure Inert (name : Text) : Prop where
  token : Token isBlank name
  unmarked : ∀ m ∈ marks, ¬ m <:+: name

theorem wordless_of_mem_marks : ∀ m ∈ marks, Wordless m := by decide

theorem foreign_of_mem_marks : ∀ m ∈ marks, Foreign m sinkName := by
  intro m hm
  simp only [marks, List.mem_cons, List.not_mem_nil, or_false] at hm
  rcases hm with rfl | rfl | rfl
  · exact foreign_sinkName '/' rfl (by decide) (by decide)
  · exact foreign_openMark
  · exact foreign_sinkName '/' rfl (by decide) (by decide)

section Name

variable (h : Inert name)

include h

theorem Inert.cut?_replaceWord {m : Text} (hm : m ∈ marks) (t : Text) :
    cut? m (replaceWord name sinkName t) =
      (cut? m t).map fun (a, r) => (replaceWord name sinkName a, replaceWord name sinkName r) :=
  Text.cut?_replaceWord (wordless_of_mem_marks m hm) (h.unmarked m hm) h.token.1
    (foreign_of_mem_marks m hm) t

theorem Inert.unblocked (ht : Unblocked t o) :
    Unblocked (replaceWord name sinkName t) (replaceWord name sinkName o) := by
  have hopen := h.cut?_replaceWord (m := openMark) (by decide)
  have hclose := h.cut?_replaceWord (m := closeMark) (by decide)
  induction ht with
  | plain hp => exact .plain (by rw [hopen, hp]; rfl)
  | unclosed hp hu => exact .unclosed (by rw [hopen, hp]; rfl) (by rw [hclose, hu]; rfl)
  | @block t a u m r o hp hu _ ih =>
      have hspace : ¬ [' '] <:+: name := by
        rw [List.singleton_infix_iff]
        intro hc
        have := h.token.2 _ hc
        revert this
        decide
      have hsplit : replaceWord name sinkName (a ++ ' ' :: o) =
          replaceWord name sinkName a ++ ' ' :: replaceWord name sinkName o := by
        have hs : replaceWord name sinkName (a ++ [' '] ++ o) =
            replaceWord name sinkName a ++ [' '] ++ replaceWord name sinkName o :=
          replaceWord_append (by decide) hspace h.token.1 a o
        rwa [List.append_assoc, List.append_assoc] at hs
      rw [hsplit]
      exact .block (by rw [hopen, hp]; rfl) (by rw [hclose, hu]; rfl) ih

theorem Inert.liveSpan_replaceWord (hn : '\n' ∉ t) : liveSpan (replaceWord name sinkName t) =
    (replaceWord name sinkName (liveSpan t).1, (liveSpan t).2) := by
  have hnew : '\n' ∉ renamed (some name) t := newline_not_mem_renamed hn
  have hdrop : dropBlocks (replaceWord name sinkName t) = replaceWord name sinkName (dropBlocks t) :=
    (h.unblocked (unblocked_dropBlocks hn)).eq hnew
  have hstrip : stripLine (replaceWord name sinkName t) = replaceWord name sinkName (stripLine t) := by
    rw [stripLine, stripLine, hdrop, before, before, h.cut?_replaceWord (by decide)]
    cases cut? lineMark (dropBlocks t) <;> rfl
  rw [liveSpan, liveSpan, hstrip, h.cut?_replaceWord (by decide)]
  cases cut? openMark (stripLine t) <;> rfl

theorem Inert.liveLine_replaceWord (hn : '\n' ∉ t) : liveLine (replaceWord name sinkName t) =
    (replaceWord name sinkName (liveLine t).1, (liveLine t).2) := by
  rw [liveLine_eq, liveLine_eq, h.liveSpan_replaceWord hn,
    trim_replaceWord h.token.1 (by decide)]

end Name

theorem livePart?_renamed (h : ∀ name ∈ output, Inert name) (hn : '\n' ∉ t) (inBlock : Bool) :
    livePart? inBlock (renamed output t) =
      ((livePart? inBlock t).1.map (renamed output), (livePart? inBlock t).2) := by
  cases output with
  | none =>
      have hid : renamed none = id := rfl
      rw [hid, Option.map_id]
      rfl
  | some name =>
      have hname := h name rfl
      change livePart? inBlock (replaceWord name sinkName t) =
        ((livePart? inBlock t).1.map (replaceWord name sinkName), (livePart? inBlock t).2)
      cases inBlock with
      | false =>
          rw [livePart?, livePart?, if_neg (by decide), if_neg (by decide),
            hname.liveLine_replaceWord hn]
          rfl
      | true =>
          rw [livePart?, livePart?, if_pos rfl, if_pos rfl, hname.cut?_replaceWord (by decide)]
          cases hc : cut? closeMark t with
          | none => rfl
          | some p =>
              obtain ⟨head, r⟩ := p
              have hr : '\n' ∉ r := by
                intro hm
                rw [eq_append_of_cut? hc] at hn
                exact hn (List.mem_append_right _ hm)
              dsimp only [Option.map_some]
              rw [hname.liveLine_replaceWord hr]

end ShaderPipeline.Legacy
