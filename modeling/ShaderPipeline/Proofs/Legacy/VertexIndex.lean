import ShaderPipeline.Proofs.Legacy.Comments
import ShaderPipeline.Proofs.Legacy.Idempotent
import ShaderPipeline.Proofs.Legacy.Varyings

namespace ShaderPipeline.Legacy

open Text Glsl

variable {stage : Stage} {l m s t type name type' name' : Text} {i : Interface}

def indexLine : Text := attributeLine "float".toList vertexIndexAttribute

/-- How many attributes of the source are written as the one that stands in. -/
def standIns (i : Interface) : Nat :=
  i.attributes.countP fun a => widen a.type == "float".toList && a.name == vertexIndexAttribute

section Header

theorem infix_widen (hint : ¬ m <:+: "int".toList) (h : m <:+: type) : m <:+: widen type := by
  rw [widen]
  split
  case isTrue heq => exact absurd (heq ▸ h) hint
  case isFalse => exact h

theorem infix_attributeLine (type name : Text) :
    type <:+: attributeLine type name ∧ name <:+: attributeLine type name := by
  rw [attributeLine_eq]
  constructor
  · exact ⟨attributeWord ++ [' '], ' ' :: (name ++ [';']), by simp⟩
  · exact ⟨attributeWord ++ ' ' :: (type ++ [' ']), [';'], by simp⟩

theorem infix_uniformLine (u : Uniform) :
    widen u.type <:+: uniformLine u ∧ u.name <:+: uniformLine u := by
  rw [uniformLine_eq]
  constructor
  · exact ⟨uniformWord ++ [' '], ' ' :: (u.name ++ arraySuffix u.length ++ [';']), by simp⟩
  · exact ⟨uniformWord ++ ' ' :: (widen u.type ++ [' ']), arraySuffix u.length ++ [';'], by simp⟩

theorem exists_mem_header (hint : ¬ m <:+: "int".toList) (usesIndex : Bool)
    (h : ∃ word ∈ i.words, m <:+: word) : ∃ l ∈ header {} usesIndex i, m <:+: l := by
  obtain ⟨word, hword, hm⟩ := h
  rw [Interface.words, List.mem_append, List.mem_flatMap, List.mem_flatMap] at hword
  rcases hword with ⟨u, hu, hword⟩ | ⟨a, ha, hword⟩
  · refine ⟨uniformLine u, List.mem_append_right _ (List.mem_map_of_mem hu), ?_⟩
    have hline := infix_uniformLine u
    simp only [List.mem_cons, List.not_mem_nil, or_false] at hword
    rcases hword with rfl | rfl
    · exact (infix_widen hint hm).trans hline.1
    · exact hm.trans hline.2
  · refine ⟨attributeLine (widen a.type) a.name,
      List.mem_append_left _ (List.mem_append_left _ (List.mem_map.mpr ⟨a, ha, rfl⟩)), ?_⟩
    have hline := infix_attributeLine (widen a.type) a.name
    simp only [List.mem_cons, List.not_mem_nil, or_false] at hword
    rcases hword with rfl | rfl
    · exact (infix_widen hint hm).trans hline.1
    · exact hm.trans hline.2

theorem attributeLine_inj (ht : Token endsDeclaration type) (hn : Token endsDeclaration name)
    (ht' : Token endsDeclaration type') (hn' : Token endsDeclaration name') :
    attributeLine type name = attributeLine type' name' ↔ type = type' ∧ name = name' := by
  constructor
  · intro h
    have hread := attribute?_attributeLine ht hn
    rw [h, attribute?_attributeLine ht' hn'] at hread
    cases hread
    exact ⟨rfl, rfl⟩
  · rintro ⟨rfl, rfl⟩
    rfl

theorem count_header (h : i.Written Live) :
    (header {} true i).count indexLine = 1 + standIns i := by
  have hattributes : (i.attributes.map fun a => attributeLine (widen a.type) a.name).count indexLine =
      standIns i := by
    rw [List.count_eq_countP, List.countP_map]
    apply List.countP_congr
    intro a ha
    have hwritten := h.attributes a ha
    have hfloat : Token endsDeclaration "float".toList := by decide
    have hname : Token endsDeclaration vertexIndexAttribute := by decide
    have hline :=
      attributeLine_inj (token_widen (by decide) hwritten.type.1) hwritten.name.1 hfloat hname
    simpa [indexLine] using hline
  have huniforms : (i.uniforms.map uniformLine).count indexLine = 0 := by
    apply List.count_eq_zero_of_not_mem
    intro hm
    obtain ⟨u, _, hu⟩ := List.mem_map.mp hm
    have hhead := congrArg List.head? hu
    revert hhead
    rw [uniformLine_eq]
    exact fun hhead => by cases hhead
  have hindex : [indexLine].count indexLine = 1 := List.count_singleton_self
  have hheader : header {} true i = (i.attributes.map fun a => attributeLine (widen a.type) a.name) ++
      [indexLine] ++ i.uniforms.map uniformLine := rfl
  rw [hheader, List.count_append, List.count_append, hattributes, hindex, huniforms]
  omega

end Header

section Body

theorem count_nonBlank (ls : List Text) : (nonBlank ls).count indexLine = ls.count indexLine :=
  List.count_filter (by decide)

theorem count_of_quiet {ls : List Text} (h : ∀ l ∈ ls, declares l = false) :
    ls.count indexLine = 0 := by
  apply List.count_eq_zero_of_not_mem
  intro hm
  exact absurd (h _ hm) (by decide)

theorem count_body (h : ¬ openMark <:+: s ∨
      Aligned stage {} false (lines (renameVertexIndex {} s))) :
    (liveFrom false (recast {} stage (lines (renameVertexIndex {} s))).lines).1.count indexLine =
      0 := by
  rcases h with hopen | haligned
  · have hbody : ∀ l ∈ (recast {} stage (lines (renameVertexIndex {} s))).lines, BodyLine l :=
      bodyLine_of_mem_recast hopen
    rw [liveFrom_of_no_open fun l hl => (hbody l hl).block]
    apply count_of_quiet
    intro l hl
    obtain ⟨raw, hraw, rfl⟩ := List.mem_map.mp hl
    exact (hbody raw hraw).quiet
  · have hagrees : Agrees false (recast {} stage (lines (renameVertexIndex {} s)))
        (recast {} stage (liveLines (renameVertexIndex {} s))) :=
      agrees_of_aligned (fun l hl => newline_not_mem_of_mem_lines hl)
        ⟨rfl, rfl, rfl, by simp⟩ haligned
    rw [← count_nonBlank, hagrees.lines, count_nonBlank]
    apply count_of_quiet
    intro l hl
    have hlive := hagrees.live l hl
    have hquiet := (bodyLine_of_mem_recastFrom (p := {}) (fun m hm =>
      ⟨(liveLine_of_mem_liveLines hm).newline, (liveLine_of_mem_liveLines hm).live.block⟩) rfl l
      hl).quiet
    rwa [liveHead_of_no_mark hlive.live.line, hlive.trimmed] at hquiet

end Body

section Text

/-- In a converted shader that uses the vertex index its name is left just if some word of the
interface holds it. The attribute that stands in for it is declared by one live line, by one more for
each attribute of the source that is written the same, and by what is live in the body; and the body
holds no such line if the source has no block comments, or if every line of it is taken for what its
live part is taken for. -/
theorem vertexIndex_of_convertAndExpand {W : Type} [Records W] {w : W}
    (huses : usesVertexIndex {} s = true)
    (h : ((convertAndExpand {} stage none none s : Act W Text).outcome w).1 = .ok t) :
    ∃ i, scan s = .ok i ∧
      (contains vertexIndex t = true ↔ ∃ word ∈ i.words, contains vertexIndex word = true) ∧
      (liveLines t).count indexLine = 1 + standIns i +
        (liveFrom false (recast {} stage (lines (renameVertexIndex {} s))).lines).1.count indexLine ∧
      (contains openMark s = false ∨ Aligned stage {} false (lines (renameVertexIndex {} s)) →
        (liveLines t).count indexLine = 1 + standIns i) := by
  obtain ⟨htext, _⟩ := text_of_outcome h
  obtain ⟨i, hi, rfl⟩ := convert_eq_ok htext
  have hwritten := scan_written hi
  have hheader := header_headerLine hwritten true
  rw [huses]
  have hcount : (liveLines (unlines (trimLines (header {} true i ++
        (recast {} stage (lines (renameVertexIndex {} s))).lines)))).count indexLine =
      1 + standIns i +
        (liveFrom false (recast {} stage (lines (renameVertexIndex {} s))).lines).1.count
          indexLine := by
    have hlive := nonBlank_under (b := recast {} stage (lines (renameVertexIndex {} s))) hheader
      fun l hl => newline_not_mem_of_mem_recastFrom (fun _ => newline_not_mem_of_mem_lines) hl
    rw [← count_nonBlank, ← count_header hwritten,
      ← count_nonBlank (header {} true i), ← count_nonBlank (liveFrom false _).1, ← List.count_append,
      ← hlive]
    rfl
  refine ⟨i, hi, ?_, hcount, fun hbody => ?_⟩
  · simp only [contains_iff]
    constructor
    · intro hindex
      by_contra hnone
      have hwords : ∀ word ∈ i.words, ¬ vertexIndex <:+: word :=
        fun word hword hm => hnone ⟨word, hword, hm⟩
      have hleft : usesVertexIndex {} (unlines (trimLines (header {} true i ++
          (recast {} stage (lines (renameVertexIndex {} s))).lines))) = false := by
        rw [← huses]
        exact usesVertexIndex_converted hwords s
      exact contains_eq_false_iff.mp hleft hindex
    · intro hwords
      obtain ⟨l, hl, hm⟩ := exists_mem_header (by decide) true hwords
      have hmem := mem_trimLines (List.mem_append_left
        (recast {} stage (lines (renameVertexIndex {} s))).lines hl) (hheader l hl).not_allBlank
      exact (infix_unlines_iff (by decide) (by decide)).mpr ⟨l, hmem, hm⟩
  · rw [hcount, count_body (hbody.imp_left contains_eq_false_iff.mp), Nat.add_zero]

/-- The index is a part of a longer name, and there is a comment over several lines. -/
def commentedIndex : Text := unlines [
  "/*".toList,
  "attribute float _vertex_id; */".toList,
  "uniform int n;".toList,
  "void main() { float my_gl_VertexID = gl_VertexID; }".toList]

def commentedIndexLegacy : Text := unlines [
  "attribute float _vertex_id;".toList,
  "uniform float n;".toList,
  "/*".toList,
  "attribute float _vertex_id; */".toList,
  "void main() { float my__vertex_id = _vertex_id; }".toList]

theorem vertexIndex_commented : usesVertexIndex {} commentedIndex = true ∧
    ((convertAndExpand {} .vertex none none commentedIndex : Act Unit Text).outcome ()).1 =
      .ok commentedIndexLegacy ∧
    contains vertexIndex commentedIndexLegacy = false ∧
    (liveLines commentedIndexLegacy).count indexLine = 1 := by
  have huses : usesVertexIndex {} commentedIndex = true := by decide +kernel
  have h : ((convertAndExpand {} .vertex none none commentedIndex : Act Unit Text).outcome ()).1 =
      .ok commentedIndexLegacy := by decide +kernel
  obtain ⟨i, hi, hleft, _, hcount⟩ := vertexIndex_of_convertAndExpand huses h
  have hscan : scan commentedIndex = .ok ⟨[⟨['n'], "int".toList, 0⟩], []⟩ := by
    decide +kernel
  obtain rfl : i = ⟨[⟨['n'], "int".toList, 0⟩], []⟩ := Except.ok.inj (hi.symm.trans hscan)
  refine ⟨huses, h, ?_, hcount (.inr (by decide +kernel))⟩
  rw [← Bool.not_eq_true, hleft]
  decide

def indexedUniform : Text := unlines [
  "uniform float a_gl_VertexID;".toList,
  "void main() { gl_Position.x = a_gl_VertexID; }".toList]

def indexedUniformLegacy : Text := unlines [
  "attribute float _vertex_id;".toList,
  "uniform float a_gl_VertexID;".toList,
  "void main() { gl_Position.x = a__vertex_id; }".toList]

def indexedAttribute : Text := unlines [
  "attribute float _vertex_id;".toList,
  "void main() { gl_Position.x = float(gl_VertexID); }".toList]

def indexedAttributeLegacy : Text := unlines [
  "attribute float _vertex_id;".toList,
  "attribute float _vertex_id;".toList,
  "void main() { gl_Position.x = float(_vertex_id); }".toList]

theorem vertexIndex_left : usesVertexIndex {} indexedUniform = true ∧
    ((convertAndExpand {} .vertex none none indexedUniform : Act Unit Text).outcome ()).1 =
      .ok indexedUniformLegacy ∧
    contains "glslify".toList indexedUniformLegacy = false ∧
    contains vertexIndex indexedUniformLegacy = true ∧
    usesVertexIndex {} indexedAttribute = true ∧
    ((convertAndExpand {} .vertex none none indexedAttribute : Act Unit Text).outcome ()).1 =
      .ok indexedAttributeLegacy ∧
    contains "glslify".toList indexedAttributeLegacy = false ∧
    (liveLines indexedAttributeLegacy).count indexLine = 2 :=
  ⟨by decide +kernel, by decide +kernel, by decide +kernel, by decide +kernel, by decide +kernel,
    by decide +kernel, by decide +kernel, by decide +kernel⟩

end Text

end ShaderPipeline.Legacy
