import ShaderPipeline.Proofs.Glsl.Blocks

namespace ShaderPipeline.Glsl

open Text

variable {l s : Text}

/-- A line that starts no comment and has no blank at either end. -/
structure Stripped (l : Text) : Prop extends Live l where
  head : ∀ c ∈ l.head?, isBlank c = false
  last : ∀ c ∈ l.getLast?, isBlank c = false

theorem stripped_iff : Stripped l ↔ Live l ∧ trim l = l := by
  rw [trim_eq_self_iff]
  constructor
  · rintro ⟨live, head, last⟩
    exact ⟨live, head, last⟩
  · rintro ⟨live, head, last⟩
    exact ⟨live, head, last⟩

theorem stripped_of_mem_liveLines (h : l ∈ liveLines s) : Stripped l :=
  stripped_iff.mpr ⟨(liveLine_of_mem_liveLines h).live, (liveLine_of_mem_liveLines h).trimmed⟩

theorem liveLines_of_stripped (h : ∀ l ∈ lines s, Stripped l) : liveLines s = lines s := by
  refine liveFrom_of_liveLine fun l hl => ?_
  obtain ⟨hlive, htrim⟩ := stripped_iff.mp (h l hl)
  exact ⟨hlive, htrim, newline_not_mem_of_mem_lines hl⟩

theorem unlines_liveLines_eq_self_iff :
    unlines (liveLines s) = s ↔ ∀ l ∈ lines s, Stripped l := by
  constructor
  · intro h l hl
    rw [← h, lines_unlines_liveLines] at hl
    exact stripped_of_mem_liveLines hl
  · intro h
    rw [liveLines_of_stripped h, unlines_lines]

/-- What is left of a source is one line at least, and none that starts a comment or has blanks
around it. Taking the comments away again changes nothing, as it changes nothing of just the sources
whose lines are like that, and what is left declares what the source declares. -/
theorem liveLines_stable (s : Text) :
    (∀ l ∈ liveLines s, Stripped l) ∧ liveLines s ≠ [] ∧
    liveLines (unlines (liveLines s)) = liveLines s ∧
    (unlines (liveLines s) = s ↔ ∀ l ∈ lines s, Stripped l) ∧
    scan (unlines (liveLines s)) = scan s ∧
    outputNames (unlines (liveLines s)) = outputNames s :=
  ⟨fun _ => stripped_of_mem_liveLines, liveLines_ne_nil s, liveLines_unlines_liveLines s,
    unlines_liveLines_eq_self_iff, scan_unlines_liveLines s, outputNames_unlines_liveLines s⟩

/-- Without its comments a slash stands before another and one before a star. -/
def converging : Text := unlines [
  "float a = b / /* by */ / c; /* opened".toList,
  "// and closed */ float n = p //**/* q; // gone /*".toList]

theorem liveLines_stable_converging :
    "float n = p / * q;".toList ∈ liveLines converging ∧ Stripped "float n = p / * q;".toList ∧
    unlines (liveLines converging) ≠ converging ∧
    liveLines (unlines (liveLines converging)) = liveLines converging := by
  obtain ⟨hstripped, _, hstable, hself, _⟩ := liveLines_stable converging
  have hmem : "float n = p / * q;".toList ∈ liveLines converging := by decide +kernel
  have hsource : "float a = b / /* by */ / c; /* opened".toList ∈ lines converging := by
    decide +kernel
  have hblock : openMark <:+: "float a = b / /* by */ / c; /* opened".toList := by decide +kernel
  exact ⟨hmem, hstripped _ hmem, fun h => (hself.mp h _ hsource).block hblock, hstable⟩

end ShaderPipeline.Glsl
