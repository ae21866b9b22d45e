import ShaderPipeline.Proofs.Legacy.Kept
import ShaderPipeline.Proofs.Legacy.WholeLines

namespace ShaderPipeline.Legacy

open Text Glsl

variable {stage : Stage} {p q : Progress} {inBlock : Bool} {ls ms : List Text} {l raw : Text}

section Run

/-- A body beside that of the live lines: both are faulty or neither is, and the live lines are the
same. -/
structure Agrees (inBlock : Bool) (body bare : Body) : Prop where
  fault : body.fault = none ↔ bare.fault = none
  lines : nonBlank (liveFrom inBlock body.lines).1 = nonBlank bare.lines
  live : ∀ l ∈ bare.lines, LiveLine l

theorem nonBlank_append (ls ms : List Text) : nonBlank (ls ++ ms) = nonBlank ls ++ nonBlank ms :=
  List.filter_append ..

theorem agrees_of_aligned (hn : ∀ l ∈ ls, '\n' ∉ l) (hpq : Beside p q)
    (h : Aligned stage p inBlock ls) : Agrees inBlock (recastFrom {} stage p ls)
      (recastFrom {} stage q (liveFrom inBlock ls).1) := by
  induction ls generalizing p q inBlock with
  | nil =>
      rw [liveFrom_nil]
      refine ⟨Iff.rfl, ?_, by simp [recastFrom]⟩
      change nonBlank (liveFrom inBlock []).1 = _
      rw [liveFrom_nil]
      rfl
  | cons raw ls ih =>
      obtain ⟨hline, hrest⟩ := h
      have hraw := hn raw List.mem_cons_self
      rw [liveFrom_cons]
      rcases matched_of_alike hraw hpq hline with ⟨hp, hw, hq⟩ | ⟨ms, hp, hq, hnext, hm, hb, hl⟩
      · rw [hw, recastFrom_error hp]
        dsimp only [Option.toList_some]
        rw [List.singleton_append, recastFrom_error hq]
        refine ⟨by simp, ?_, by simp⟩
        change nonBlank (liveFrom inBlock []).1 = _
        rw [liveFrom_nil]
      · rw [hp, livePart?_line hraw hpq] at hrest
        have ih := ih (fun l hl => hn l (List.mem_cons_of_mem raw hl)) hnext hrest
        have hone := passes_one hp
        refine ⟨?_, ?_, ?_⟩
        · rw [hq.fault, ← ih.fault]
          exact iff_of_eq (congrArg (· = none) (hone.fault ls))
        · rw [hq.lines, nonBlank_append, ← ih.lines, ← hl, ← hb, ← nonBlank_append,
            ← liveFrom_append]
          exact congrArg (fun ls => nonBlank (liveFrom inBlock ls).1) (hone.lines ls)
        · rw [hq.lines]
          intro l hl
          rcases List.mem_append.mp hl with hl | hl
          · exact hm l hl
          · exact ih.live l hl

end Run

section Text

theorem livePart?_of_allBlank (hl : allBlank l = true) (hn : '\n' ∉ l) (inBlock : Bool) :
    livePart? inBlock l = livePart? inBlock [] := by
  rw [← livePart?_trimEnd hn, trimEnd_eq_nil_iff.mpr hl]

theorem liveFrom_of_allBlank (h : ∀ l ∈ ls, allBlank l = true) (hn : ∀ l ∈ ls, '\n' ∉ l)
    (inBlock : Bool) :
    (liveFrom inBlock ls).2 = inBlock ∧ nonBlank (liveFrom inBlock ls).1 = [] := by
  have hempty : (livePart? inBlock []).2 = inBlock ∧
      nonBlank (livePart? inBlock []).1.toList = [] := by
    cases inBlock <;> exact ⟨rfl, rfl⟩
  induction ls with
  | nil =>
      rw [liveFrom_nil]
      exact ⟨rfl, rfl⟩
  | cons l ls ih =>
      have ih := ih (fun m hm => h m (List.mem_cons_of_mem l hm))
        fun m hm => hn m (List.mem_cons_of_mem l hm)
      rw [liveFrom_cons, livePart?_of_allBlank (h l List.mem_cons_self) (hn l List.mem_cons_self),
        hempty.1]
      refine ⟨ih.1, ?_⟩
      rw [nonBlank_append, hempty.2, ih.2]
      rfl

theorem nonBlank_trimLines (hn : ∀ l ∈ ls, '\n' ∉ l) (inBlock : Bool) :
    nonBlank (liveFrom inBlock (trimLines ls)).1 = nonBlank (liveFrom inBlock ls).1 := by
  obtain ⟨lead, tail, hlead, htail, he⟩ := exists_trimLines ls
  have hlead' := liveFrom_of_allBlank hlead (fun l hl => hn l (by rw [he]; simp [hl])) inBlock
  have htail' := liveFrom_of_allBlank htail (fun l hl => hn l (by rw [he]; simp [hl]))
    (liveFrom inBlock (trimLines ls)).2
  conv_rhs => rw [he]
  rw [liveFrom_append, nonBlank_append, hlead'.1, hlead'.2, liveFrom_append, nonBlank_append,
    htail'.2]
  exact (List.append_nil _).symm

theorem nonBlank_liveLines_unlines (hn : ∀ l ∈ ls, '\n' ∉ l) :
    nonBlank (liveLines (unlines (trimLines ls))) = nonBlank (liveFrom false ls).1 := by
  rw [liveLines, ← nonBlank_trimLines hn]
  rcases lines_unlines_cases fun l hl => hn l (mem_of_mem_trimLines hl) with he | ⟨hnil, he⟩
  · rw [he]
  · rw [he, hnil]
    rfl

theorem contains_macroToken_eq_false (h : ∀ l ∈ ls, ¬ macroToken <:+: l) :
    contains macroToken (unlines (trimLines ls)) = false := by
  rw [contains_eq_false_iff, infix_unlines_iff (by decide) (by decide)]
  rintro ⟨l, hl, hi⟩
  exact h l (mem_of_mem_trimLines hl) hi

theorem not_infix_unlines_liveLines {m s : Text} (hm : m ≠ []) (hn : '\n' ∉ m) (hs : ' ' ∉ m)
    (h : ¬ m <:+: s) : ¬ m <:+: unlines (liveLines s) := by
  rw [infix_unlines_iff hm hn]
  rintro ⟨l, hl, hi⟩
  exact h (infix_of_mem_liveLines hl hs hi)

/-- Both fail, or neither does and what can be seen of the live lines is the same. -/
inductive SameLive : Except Fault Text → Except Fault Text → Prop
  | fault (fault fault' : Fault) : SameLive (.error fault) (.error fault')
  | text {t u : Text} (h : nonBlank (liveLines t) = nonBlank (liveLines u)) :
      SameLive (.ok t) (.ok u)

theorem not_sameLive_of_fault {x y : Except Fault Text} {fault : Fault} {t : Text}
    (hx : x = .error fault) (hy : y = .ok t) : ¬ SameLive x y := by
  subst hx hy
  rintro ⟨⟩

theorem liveFrom_header {hs : List Text} (hh : ∀ l ∈ hs, HeaderLine l) (ls : List Text) :
    (liveFrom false (hs ++ ls)).1 = hs ++ (liveFrom false ls).1 := by
  have hlive : ∀ l ∈ hs, LiveLine l := by
    intro l hl
    have hline := hh l hl
    refine ⟨hline.live, ?_, hline.newline⟩
    rw [← liveHead_of_no_mark hline.live.line, hline.whole]
  have hstate : (liveFrom false hs).2 = false := by
    rw [liveFrom_of_no_open fun l hl => (hh l hl).live.block]
  rw [liveFrom_append, liveFrom_of_liveLine hlive, hstate]

/-- The comments, which only the second body is without, make no difference: both bodies are faulty or
neither is, and then the same is live in both. -/
structure Unaffected (body bare : Body) : Prop where
  fault : body.fault = none ↔ bare.fault = none
  lines : body.fault = none →
    nonBlank (liveFrom false body.lines).1 = nonBlank (liveFrom false bare.lines).1

theorem Agrees.unaffected {body bare : Body} (h : Agrees false body bare) :
    Unaffected body bare :=
  ⟨h.fault, fun _ => by rw [h.lines, liveFrom_of_liveLine h.live]⟩

def Body.under (hs : List Text) (b : Body) : Body := { b with lines := trimLines (hs ++ b.lines) }

theorem nonBlank_under {hs : List Text} {b : Body} (hh : ∀ l ∈ hs, HeaderLine l)
    (hn : ∀ l ∈ b.lines, '\n' ∉ l) : nonBlank (liveLines (unlines (b.under hs).lines)) =
      nonBlank hs ++ nonBlank (liveFrom false b.lines).1 := by
  have hnewline : ∀ l ∈ hs ++ b.lines, '\n' ∉ l := by
    intro l hl
    rcases List.mem_append.mp hl with hl | hl
    · exact (hh l hl).newline
    · exact hn l hl
  rw [Body.under, nonBlank_liveLines_unlines hnewline, liveFrom_header hh, nonBlank_append]

theorem sameLive_under_iff {hs : List Text} {body bare : Body} (hh : ∀ l ∈ hs, HeaderLine l)
    (hn : ∀ l ∈ body.lines, '\n' ∉ l) (hn' : ∀ l ∈ bare.lines, '\n' ∉ l) :
    SameLive (body.under hs).text (bare.under hs).text ↔ Unaffected body bare := by
  have hbody := nonBlank_under hh hn
  have hbare := nonBlank_under hh hn'
  obtain ⟨ls, _, fault⟩ := body
  obtain ⟨ms, _, fault'⟩ := bare
  cases fault with
  | some fault =>
      cases fault' with
      | some fault' => exact iff_of_true (.fault fault fault') ⟨by simp, by simp⟩
      | none => exact iff_of_false (by rintro ⟨⟩) fun h => by simpa using h.fault
  | none =>
      cases fault' with
      | some fault' => exact iff_of_false (by rintro ⟨⟩) fun h => by simpa using h.fault
      | none =>
          constructor
          · intro h
            refine ⟨Iff.rfl, fun _ => ?_⟩
            cases h with
            | text h =>
                rw [hbody, hbare] at h
                exact List.append_cancel_left h
          · intro h
            refine .text ?_
            rw [hbody, hbare, h.lines rfl]

theorem outcome_of_plain {W : Type} [Records W] (w : W) {stage : Stage} {s : Text}
    (hstage : stage.convertible = true) (hindex : contains "gl_VertexID".toList s = false)
    (hmacros : contains "glslify".toList s = false) :
    ((convertAndExpand {} stage none none s : Act W Text).outcome w).1 =
      (scan s).bind fun i => ((recast {} stage (lines s)).under (header {} false i)).text := by
  have hmacros' := contains_eq_false_iff.mp hmacros
  have huses : usesVertexIndex {} s = false := hindex
  have hrename : renameVertexIndex {} s = s := by
    rw [renameVertexIndex, huses]
    rfl
  rw [outcome_convertAndExpand, convert_text, hrename, huses, hstage, if_pos rfl]
  cases hi : scan s with
  | error fault => rfl
  | ok i =>
      dsimp only [Except.bind, Body.under, Body.text]
      cases (recast {} stage (lines s)).fault with
      | some fault => rfl
      | none =>
          dsimp only
          have hheader : i.Written fun t => ¬ macroToken <:+: t :=
            scan_good (fun hb hab ha => hb (ha.trans hab))
              (fun l hl hi => hmacros' (infix_of_mem_liveLines hl (by decide) hi)) hi
          have hnone : ∀ l ∈ header {} false i ++ (recast {} stage (lines s)).lines,
              ¬ macroToken <:+: l := by
            intro l hl
            rcases List.mem_append.mp hl with hl | hl
            · exact unwritten_macroToken.not_infix_of_mem_header hheader.words hl
            · intro hi
              obtain ⟨raw, hraw, hi⟩ := unwritten_macroToken.infix_of_mem_recastFrom hl hi
              exact hmacros' (hi.trans (infix_of_mem_lines hraw))
          apply if_neg
          rw [Bool.not_eq_true]
          exact contains_macroToken_eq_false hnone

theorem unaffected_of_aligned (stage : Stage) {s : Text} (h : Aligned stage {} false (lines s)) :
    Unaffected (recast {} stage (lines s)) (recast {} stage (liveLines s)) := by
  refine (agrees_of_aligned (fun l hl => newline_not_mem_of_mem_lines hl) ?_ h).unaffected
  exact ⟨rfl, rfl, rfl, by simp⟩

theorem sameLive_iff {W : Type} [Records W] (w w' : W) (stage : Stage) {s : Text}
    (hstage : stage.convertible = true) (hindex : contains "gl_VertexID".toList s = false)
    (hmacros : contains "glslify".toList s = false) :
    SameLive ((convertAndExpand {} stage none none s : Act W Text).outcome w).1
        ((convertAndExpand {} stage none none (unlines (liveLines s)) : Act W Text).outcome w').1 ↔
      ∀ i, scan s = .ok i →
        Unaffected (recast {} stage (lines s)) (recast {} stage (liveLines s)) := by
  have hbare {m : Text} (hm : m ≠ []) (hn : '\n' ∉ m) (hs : ' ' ∉ m) (h : contains m s = false) :
      contains m (unlines (liveLines s)) = false :=
    contains_eq_false_iff.mpr (not_infix_unlines_liveLines hm hn hs (contains_eq_false_iff.mp h))
  have hs := outcome_of_plain w hstage hindex hmacros
  have hc := outcome_of_plain w' hstage (hbare (by decide) (by decide) (by decide) hindex)
    (hbare (by decide) (by decide) (by decide) hmacros)
  rw [scan_unlines_liveLines, lines_unlines_liveLines] at hc
  rw [hs, hc]
  cases hi : scan s with
  | error fault =>
      refine iff_of_true (.fault fault fault) fun i h => ?_
      cases h
  | ok i =>
      have hheader := header_headerLine (scan_written hi) false
      refine (sameLive_under_iff hheader ?_ ?_).trans ⟨fun h _ _ => h, fun h => h i rfl⟩
      · exact fun l => newline_not_mem_of_mem_recastFrom fun l => newline_not_mem_of_mem_lines
      · exact fun l => newline_not_mem_of_mem_recastFrom fun l hl =>
          (liveLine_of_mem_liveLines hl).newline

/-- Comments that fill whole lines make no difference. -/
theorem sameLive_of_wholeLines {W : Type} [Records W] (w w' : W) (stage : Stage) {s : Text}
    (hstage : stage.convertible = true) (hindex : contains "gl_VertexID".toList s = false)
    (hmacros : contains "glslify".toList s = false) (h : WholeLines false (lines s)) :
    SameLive ((convertAndExpand {} stage none none s : Act W Text).outcome w).1
      ((convertAndExpand {} stage none none (unlines (liveLines s)) : Act W Text).outcome w').1 := by
  have haligned : Aligned stage {} false (lines s) :=
    h.aligned rfl (fun l hl => newline_not_mem_of_mem_lines hl) (by simp)
  exact (sameLive_iff w w' stage hstage hindex hmacros).mpr fun _ _ =>
    unaffected_of_aligned stage haligned

/-- Converting what is live in a source instead of the source makes no difference to what is live
in the result just if it makes none to the body. It makes none if every line is taken for what its
live part is taken for. -/
theorem sameLive_iff_unaffected {W : Type} [Records W] (w w' : W) (stage : Stage) {s : Text}
    (hstage : stage.convertible = true) (hindex : contains "gl_VertexID".toList s = false)
    (hmacros : contains "glslify".toList s = false) :
    (SameLive ((convertAndExpand {} stage none none s : Act W Text).outcome w).1
        ((convertAndExpand {} stage none none (unlines (liveLines s)) : Act W Text).outcome w').1 ↔
      ∀ i, scan s = .ok i →
        Unaffected (recast {} stage (lines s)) (recast {} stage (liveLines s))) ∧
    (Aligned stage {} false (lines s) →
      Unaffected (recast {} stage (lines s)) (recast {} stage (liveLines s))) :=
  ⟨sameLive_iff w w' stage hstage hindex hmacros, unaffected_of_aligned stage⟩

/-- Comments before, in and behind declarations, where they do no harm. -/
def commented : Text := unlines [
  "#version 330 // core".toList,
  "/* hidden:".toList,
  "uniform float old; */".toList,
  "flat in vec2 /* place */ uv; /* kept".toList,
  "color */ float gain = 1.0;".toList,
  "out vec4 color; /* rgba */".toList,
  "void main() { color /* color */ = vec4(uv, gain); }".toList]

theorem sameLive_commented : Stage.fragment.convertible = true ∧
    contains "gl_VertexID".toList commented = false ∧
    contains "glslify".toList commented = false ∧
    Aligned .fragment {} false (lines commented) ∧
    SameLive ((convertAndExpand {} .fragment none none commented : Act Unit Text).outcome ()).1
      ((convertAndExpand {} .fragment none none (unlines (liveLines commented)) :
        Act Unit Text).outcome ()).1 := by
  have hindex : contains "gl_VertexID".toList commented = false := by decide +kernel
  have hmacros : contains "glslify".toList commented = false := by decide +kernel
  have haligned : Aligned .fragment {} false (lines commented) := by decide +kernel
  obtain ⟨hiff, hunaffected⟩ := sameLive_iff_unaffected () () .fragment rfl hindex hmacros
  exact ⟨rfl, hindex, hmacros, haligned, hiff.mpr fun _ _ => hunaffected haligned⟩

/-- The comment starts behind code, so the output in it is taken for one. -/
def reopened : Text := unlines [
  "out vec4 color;".toList,
  "float gain = 1.0; /* was".toList,
  "out vec4 other;".toList,
  "*/".toList,
  "void main() { color = vec4(gain); }".toList]

theorem not_sameLive_reopened : contains "gl_VertexID".toList reopened = false ∧
    contains "glslify".toList reopened = false ∧
    ((convertAndExpand {} .fragment none none reopened : Act Unit Text).outcome ()).1 =
      .error (.secondOutput "out vec4 other;".toList) ∧
    ((convertAndExpand {} .fragment none none (unlines (liveLines reopened)) :
      Act Unit Text).outcome ()).1 =
      .ok (unlines ["float gain = 1.0;".toList, [],
        "void main() { gl_FragColor = vec4(gain); }".toList]) ∧
    ¬ SameLive ((convertAndExpand {} .fragment none none reopened : Act Unit Text).outcome ()).1
      ((convertAndExpand {} .fragment none none (unlines (liveLines reopened)) :
        Act Unit Text).outcome ()).1 := by
  have hfault : ((convertAndExpand {} .fragment none none reopened : Act Unit Text).outcome ()).1 =
      .error (.secondOutput "out vec4 other;".toList) := by decide +kernel
  have hbare : ((convertAndExpand {} .fragment none none (unlines (liveLines reopened)) :
      Act Unit Text).outcome ()).1 = .ok (unlines ["float gain = 1.0;".toList, [],
        "void main() { gl_FragColor = vec4(gain); }".toList]) := by decide +kernel
  exact ⟨by decide +kernel, by decide +kernel, hfault, hbare, not_sameLive_of_fault hfault hbare⟩

end Text

end ShaderPipeline.Legacy
