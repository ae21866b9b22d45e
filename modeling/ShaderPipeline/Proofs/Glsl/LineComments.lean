import ShaderPipeline.Glsl.Declaration
import ShaderPipeline.Proofs.Text.Pieces
import ShaderPipeline.Proofs.Text.Words

namespace ShaderPipeline.Glsl

open Text

variable {line x t : Text}

theorem dropBlocks_of_no_open (h : ¬ openMark <:+: t) : dropBlocks t = t := by
  rw [dropBlocks]
  induction t with
  | nil => rfl
  | cons c t ih =>
      have ha : after? openMark (c :: t) = none := after?_eq_none_iff.mpr fun hp => h hp.isInfix
      rw [dropBlocksFrom, ha]
      exact congrArg (c :: ·) (ih fun hi => h (hi.trans (List.suffix_cons c t).isInfix))

def liveHead (line : Text) : Text := trim (before lineMark line)

theorem liveLine_of_no_open (h : ¬ openMark <:+: line) : liveLine line = (liveHead line, false) := by
  have hs : stripLine line = before lineMark line := by rw [stripLine, dropBlocks_of_no_open h]
  have hc : cut? openMark (before lineMark line) = none :=
    cut?_eq_none_iff.mpr fun hi => h (hi.trans (prefix_before lineMark line).isInfix)
  rw [liveLine, hs, hc]
  rfl

theorem liveFrom_of_no_open {ls : List Text} (h : ∀ l ∈ ls, ¬ openMark <:+: l) :
    liveFrom false ls = (ls.map liveHead, false) := by
  induction ls with
  | nil => rfl
  | cons l ls ih =>
      rw [liveFrom, liveLine_of_no_open (h l List.mem_cons_self)]
      dsimp only
      rw [ih fun m hm => h m (List.mem_cons_of_mem l hm)]
      rfl

theorem liveHead_of_no_mark (h : ¬ lineMark <:+: line) : liveHead line = trim line := by
  rw [liveHead, before_of_not_infix h]

theorem liveLines_of_no_mark {source : Text} (hl : ¬ lineMark <:+: source)
    (hb : ¬ openMark <:+: source) : liveLines source = (lines source).map trim := by
  rw [liveLines, liveFrom_of_no_open fun l hm hi => hb (hi.trans (infix_of_mem_lines hm))]
  exact List.map_congr_left fun l hm =>
    liveHead_of_no_mark fun hi => hl (hi.trans (infix_of_mem_lines hm))

theorem trim_mem_liveLines {source : Text} (hl : ¬ lineMark <:+: source)
    (hb : ¬ openMark <:+: source) (h : line ∈ lines source) : trim line ∈ liveLines source := by
  rw [liveLines_of_no_mark hl hb]
  exact List.mem_map_of_mem h

theorem liveHead_of_blank (h : allBlank line = true) : liveHead line = [] := by
  rw [liveHead, trim_eq_nil_iff, allBlank_iff]
  exact fun c hc => allBlank_iff.mp h c ((prefix_before lineMark line).subset hc)

theorem endsWord_of_blank_append {a b : Text} (ha : allBlank a = true) (hb : endsWord b = true) :
    endsWord (a ++ b) = true := by
  cases a with
  | nil => exact hb
  | cons c a => exact endsWord_cons (not_isWord_of_isBlank (allBlank_iff.mp ha c List.mem_cons_self)) _

theorem endsWord_of_allBlank {a : Text} (ha : allBlank a = true) : endsWord a = true := by
  rw [← List.append_nil a]
  exact endsWord_of_blank_append ha rfl

/-- What the line comment takes away does not go on with a word. -/
theorem exists_trim_eq_liveHead (line : Text) :
    ∃ more, endsWord more = true ∧ trim line = liveHead line ++ more := by
  unfold liveHead before
  cases hc : cut? lineMark line with
  | none => exact ⟨[], rfl, (List.append_nil _).symm⟩
  | some p =>
      obtain ⟨head, rest⟩ := p
      dsimp only
      have hline : line = head ++ ('/' :: '/' :: rest) := by
        simpa [lineMark] using eq_append_of_cut? hc
      have hslash : isBlank '/' = false := by decide
      have hrest : allBlank ('/' :: '/' :: rest) = false := by
        rw [allBlank, List.all_cons, hslash, Bool.false_and]
      have hmark : trimEnd ('/' :: '/' :: rest) = '/' :: trimEnd ('/' :: rest) := by
        apply trimEnd_append (a := ['/'])
        rw [allBlank, List.all_cons, hslash, Bool.false_and]
      have hword : endsWord (trimEnd ('/' :: '/' :: rest)) = true := by
        rw [hmark]
        exact endsWord_cons (by decide) _
      cases hb : allBlank head with
      | true =>
          refine ⟨trimEnd ('/' :: '/' :: rest), hword, ?_⟩
          rw [hline, trim_of_blank_append hb, trim_eq_nil_iff.mpr hb, trim, trimStart_cons hslash,
            List.nil_append]
      | false =>
          obtain ⟨tail, ht, he⟩ := exists_trimEnd (trimStart head)
          refine ⟨tail ++ trimEnd ('/' :: '/' :: rest), endsWord_of_blank_append ht hword, ?_⟩
          rw [hline, trim_append hb hrest, trim, ← List.append_assoc, ← he]

end ShaderPipeline.Glsl
