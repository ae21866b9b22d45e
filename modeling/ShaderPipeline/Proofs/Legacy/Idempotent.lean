import ShaderPipeline.Proofs.Legacy.Kept

namespace ShaderPipeline.Legacy

open Text Glsl

variable {stage : Stage} {p p' : Progress} {i : Interface} {ls hs bs : List Text}
  {l line part s t raw : Text}

section Stable

/-- A line that is left as it stands, in whatever shader. -/
structure Stable (stage : Stage) (l : Text) : Prop where
  ended : trimEnd l = l
  block : ¬ openMark <:+: l
  kept : reading stage false (trim l) = .kept

theorem stable_nil : Stable stage [] := ⟨rfl, by decide, rfl⟩

theorem Stable.recastLine (h : Stable stage l) : recastLine {} stage {} l = .ok (.keep l, {}) := by
  have hline : inspected {} l = l := h.ended
  have hr := recasts stage {} l
  rw [h.kept] at hr
  rw [recastLine_default, hline]
  generalize recastRenamed stage {} l = result at hr
  cases hr with
  | inside h => cases h
  | @comment _ staysOpen hs =>
      cases staysOpen with
      | true => exact absurd ((hs rfl).trans (infix_trim l)) h.block
      | false => rfl
  | blank _ ht =>
      have hnil : trimEnd l = [] := trimEnd_eq_nil_iff.mpr (trim_eq_nil_iff.mp ht)
      rw [← h.ended, hnil]
  | plain => rfl

theorem recastFrom_of_stable (h : ∀ l ∈ ls, Stable stage l) :
    recastFrom {} stage {} ls = { lines := ls } := by
  induction ls with
  | nil => rfl
  | cons l ls ih =>
      rw [recastFrom, (h l List.mem_cons_self).recastLine]
      dsimp only
      rw [ih fun m hm => h m (List.mem_cons_of_mem l hm)]
      rfl

theorem reading_varying {declaration : Text} (ho : ¬ openMark <:+: varyingWord ++ declaration)
    (he : endsWord declaration = true) :
    reading stage false (varyingWord ++ declaration) = .kept := by
  have hlayout : layout (varyingWord ++ declaration) = .code := by
    rw [layout_of_no_open ho]
    rfl
  have hpart : bodyPart? (varyingWord ++ declaration) = some (varyingWord ++ declaration) := rfl
  rw [reading, if_neg (by decide), hlayout]
  dsimp only
  rw [hpart]
  dsimp only
  rw [qualified?_varying he]

theorem stable_varying {declaration : Text} (hb : ¬ openMark <:+: line)
    (hd : declaration <:+: line) (he : endsWord declaration = true)
    (ht : trimEnd declaration = declaration) :
    Stable stage (indent line ++ varyingWord ++ declaration) := by
  have hopen := not_openMark_varying hb hd
  have htrim : trim (indent line ++ varyingWord ++ declaration) = varyingWord ++ declaration := by
    rw [trim_varying, ht]
  refine ⟨?_, hopen, ?_⟩
  · rw [trimEnd_append_of_trimmed (trimEnd_append (by decide)), ht]
  · rw [htrim]
    exact reading_varying (fun hi => hopen (hi.trans (htrim ▸ infix_trim _))) he

theorem stable_of_keep (hb : ¬ openMark <:+: raw) (hp : p.inBlock = false)
    (h : recastLine {} stage p raw = .ok (.keep l, p')) : Stable stage l := by
  have hopen : ¬ openMark <:+: inspected p raw := fun hi => hb
    (((patched_renamed p.output _).holds foreign_openMark.apart hi).trans (infix_trimEnd raw))
  have hended : trimEnd (inspected p raw) = inspected p raw := trimEnd_renamed (trimEnd_trimEnd raw)
  have hr := recasts stage p (inspected p raw)
  rw [← recastLine_default, h, hp] at hr
  generalize hreading : reading stage false (trim (inspected p raw)) = r at hr
  cases hr with
  | inside hin => rw [hp] at hin; cases hin
  | comment => exact ⟨hended, hopen, hreading⟩
  | blank => exact stable_nil
  | plain => exact ⟨hended, hopen, hreading⟩
  | varying _ hpart hq =>
      have hend : trimEnd _ = _ := trim_bodyPart? hpart (trim_trim _) ▸ trimEnd_trim _
      exact stable_varying hopen (infix_of_bodyPart? hpart hq) (endsWord_of_qualified? hq)
        (trimEnd_of_suffix hend (suffix_of_qualified? hq))

theorem stable_of_mem_recastFrom (hls : ∀ l ∈ ls, '\n' ∉ l ∧ ¬ openMark <:+: l)
    (hp : p.inBlock = false) (h : l ∈ (recastFrom {} stage p ls).lines) : Stable stage l := by
  obtain ⟨raw, hraw, q, q', hq, hr⟩ := exists_of_mem_recastFrom (I := (·.inBlock = false)) hp
    (fun raw hraw _ _ _ hq hr => (recastLine_bodyLine (hls raw hraw).1 (hls raw hraw).2 hq hr).1) h
  exact stable_of_keep (hls raw hraw).2 hq hr

end Stable

section Header

theorem HeaderLine.trim (h : HeaderLine l) : trim l = l := by
  rw [← liveHead_of_no_mark h.live.line, h.whole]

theorem HeaderLine.recastLine (h : HeaderLine l) (stage : Stage) :
    recastLine {} stage {} l = .ok (.drop, {}) := by
  have hline : inspected {} l = l := by
    change trimEnd l = l
    rw [← h.trim, trimEnd_trim]
  have hmark : after? lineMark l = none := after?_eq_none_iff.mpr fun hi => h.live.line hi.isInfix
  have hne : l ≠ [] := by
    rintro rfl
    exact absurd h.declares (by decide)
  have hpart : bodyPart? l = none := by
    rw [bodyPart?, if_neg (by simp [h.dialect.layout])]
    exact if_pos h.declares
  have hreading : reading stage false (Text.trim l) = .dropped := by
    rw [h.trim, reading, if_neg (by decide), layout_of_no_open h.live.block, h.dialect.version,
      hmark, if_neg (by decide), if_neg (by decide), if_neg hne]
    dsimp only
    rw [hpart]
  have hr := recasts stage {} l
  rw [hreading] at hr
  rw [recastLine_default, hline]
  generalize recastRenamed stage {} l = result at hr
  cases hr with
  | dropped => rfl

theorem recastFrom_header (hh : ∀ l ∈ hs, HeaderLine l) (ls : List Text) :
    recastFrom {} stage {} (hs ++ ls) = recastFrom {} stage {} ls := by
  induction hs with
  | nil => rfl
  | cons h hs ih =>
      rw [List.cons_append, recastFrom, (hh h List.mem_cons_self).recastLine]
      exact ih fun m hm => hh m (List.mem_cons_of_mem h hm)

theorem widen_widen (type : Text) : widen (widen type) = widen type := by
  rcases widen_cases type with he | he <;> rw [he]
  · exact he
  · rfl

theorem header_legacyInterface {usesIndex : Bool}
    (hname : usesIndex = true → ∀ a ∈ i.attributes, a.name ≠ "_vertex_id".toList) :
    header {} false (legacyInterface usesIndex i) = header {} usesIndex i := by
  have huniform (u : Uniform) : uniformLine { u with type := widen u.type } = uniformLine u := by
    rw [uniformLine_eq, uniformLine_eq, widen_widen]
  have hattributes : (i.attributes.map fun a => (⟨a.name, widen a.type, none⟩ : Attribute)).map
      (fun a => attributeLine (widen a.type) a.name) =
        i.attributes.map fun a => attributeLine (widen a.type) a.name := by
    rw [List.map_map]
    exact List.map_congr_left fun a _ => by rw [Function.comp_apply, widen_widen]
  have huniforms : (i.uniforms.map fun u => { u with type := widen u.type }).map uniformLine =
      i.uniforms.map uniformLine := by
    rw [List.map_map]
    exact List.map_congr_left fun u _ => huniform u
  rw [header, header, legacyInterface, List.map_append, hattributes, huniforms]
  cases usesIndex with
  | false => simp
  | true =>
      have hany : i.attributes.any (·.name == "_vertex_id".toList) = false := by
        rw [List.any_eq_false]
        exact fun a ha => by simpa using hname rfl a ha
      have hadd : (true && !false) = true := rfl
      rw [hany, if_pos hadd, if_neg Bool.false_ne_true, if_pos rfl, List.append_nil]
      rfl

end Header

section Text

theorem scan_converted (h : i.Written Live) (usesIndex : Bool) (hb : ∀ l ∈ bs, BodyLine l) :
    scan (unlines (trimLines (header {} usesIndex i ++ bs))) =
      .ok (legacyInterface usesIndex i) := by
  obtain ⟨hdialect, hfilter⟩ := liveLines_legacy (header_headerLine h usesIndex) hb
  rw [scan, ← declarations_filter hdialect, hfilter, declarations_header h]
  exact congrArg Except.ok (ofDeclarations_header h usesIndex)

theorem recast_converted (hh : ∀ l ∈ hs, HeaderLine l) (hb : ∀ l ∈ bs, Stable stage l)
    (hn : ∀ l ∈ bs, '\n' ∉ l) : ∃ rest,
      recast {} stage (lines (unlines (trimLines (hs ++ bs)))) = { lines := rest } ∧
        trimLines (hs ++ rest) = trimLines (hs ++ bs) := by
  obtain ⟨rest, htrim, hrest⟩ := exists_trimLines_append (fun l hl => (hh l hl).not_allBlank) bs
  have hnewline : ∀ l ∈ trimLines (hs ++ bs), '\n' ∉ l := by
    intro l hl
    rcases List.mem_append.mp (mem_of_mem_trimLines hl) with hl | hl
    · exact (hh l hl).newline
    · exact hn l hl
  rcases lines_unlines_cases hnewline with he | ⟨hnil, he⟩
  · refine ⟨rest, ?_, by rw [← htrim, trimLines_trimLines]⟩
    rw [he, htrim, recast, recastFrom_header hh,
      recastFrom_of_stable fun l hl => hb l (hrest l hl)]
  · -- nothing is left, and of nothing a single empty line is read
    obtain ⟨rfl, rfl⟩ : hs = [] ∧ rest = [] := List.append_eq_nil_iff.mp (htrim ▸ hnil)
    refine ⟨[[]], ?_, by rw [hnil]; rfl⟩
    rw [he, recast, recastFrom_of_stable]
    intro l hl
    rw [List.mem_singleton.mp hl]
    exact stable_nil

theorem unwritten_vertexIndex : Unwritten "gl_VertexID".toList := by decide

theorem not_vertexIndex_of_mem_recast
    (h : l ∈ (recast {} stage (lines (renameVertexIndex {} s))).lines) :
    ¬ "gl_VertexID".toList <:+: l := by
  intro hi
  obtain ⟨raw, hraw, hi⟩ := unwritten_vertexIndex.infix_of_mem_recastFrom h hi
  have hrename : ¬ "gl_VertexID".toList <:+: renameVertexIndex {} s := by
    rw [renameVertexIndex]
    split
    · exact not_infix_replaceAll (by decide) (by decide) s
    · next h => exact contains_eq_false_iff.mp (Bool.eq_false_iff.mpr h)
  exact hrename (hi.trans (infix_of_mem_lines hraw))

theorem usesVertexIndex_converted (hwords : ∀ word ∈ i.words, ¬ "gl_VertexID".toList <:+: word)
    (s : Text) : usesVertexIndex {} (unlines (trimLines (header {} (usesVertexIndex {} s) i ++
      (recast {} stage (lines (renameVertexIndex {} s))).lines))) = false := by
  refine contains_eq_false_iff.mpr fun hi => ?_
  obtain ⟨l, hl, hi⟩ := (infix_unlines_iff (by decide) (by decide)).mp hi
  rcases List.mem_append.mp (mem_of_mem_trimLines hl) with hl | hl
  · exact unwritten_vertexIndex.not_infix_of_mem_header hwords hl hi
  · exact not_vertexIndex_of_mem_recast hl hi

/-- Converting a shader that was converted gives it back as it is, whether there is a resolver or
not, where no word of the interface holds the name of the vertex index and, if the source uses
that, no attribute has the name it gets. -/
theorem convertAndExpand_idempotent {W : Type} [Records W] {w : W}
    (hs : contains openMark s = false) (hi : scan s = .ok i)
    (hwords : ∀ word ∈ i.words, contains "gl_VertexID".toList word = false)
    (hname : usesVertexIndex {} s = true → ∀ a ∈ i.attributes, a.name ≠ "_vertex_id".toList)
    (h : ((convertAndExpand {} stage none none s : Act W Text).outcome w).1 = .ok t)
    (resolver : Option (Text → Act W Text)) (w' : W) :
    ((convertAndExpand {} stage none resolver t).outcome w').1 = .ok t := by
  obtain ⟨htext, hmacros⟩ := text_of_outcome h
  have hstage := convertible_of_text htext
  obtain ⟨j, hj, rfl⟩ := convert_eq_ok htext
  obtain rfl : i = j := Except.ok.inj (hi.symm.trans hj)
  have hwritten := scan_written hi
  have hopen := not_openMark_renameVertexIndex (contains_eq_false_iff.mp hs)
  have hlines : ∀ l ∈ lines (renameVertexIndex {} s), '\n' ∉ l ∧ ¬ openMark <:+: l := fun l hl =>
    ⟨newline_not_mem_of_mem_lines hl, fun hm => hopen (hm.trans (infix_of_mem_lines hl))⟩
  have hbody : ∀ l ∈ (recast {} stage (lines (renameVertexIndex {} s))).lines, BodyLine l :=
    bodyLine_of_mem_recastFrom hlines rfl
  have hstable : ∀ l ∈ (recast {} stage (lines (renameVertexIndex {} s))).lines, Stable stage l :=
    fun l hl => stable_of_mem_recastFrom hlines rfl hl
  have hwords' : ∀ word ∈ i.words, ¬ "gl_VertexID".toList <:+: word :=
    fun word hw => contains_eq_false_iff.mp (hwords word hw)
  obtain ⟨rest, hrecast, htrim⟩ := recast_converted
    (header_headerLine hwritten (usesVertexIndex {} s)) hstable fun l hl => (hbody l hl).newline
  refine outcome_convertAndExpand_of_text ?_ hmacros w'
  rw [convert_text, if_pos hstage, scan_converted hwritten _ hbody, renameVertexIndex,
    usesVertexIndex_converted hwords', if_neg (by decide), hrecast]
  dsimp only [Except.bind]
  rw [header_legacyInterface hname, htrim]

theorem idempotent_indexedVertex :
    (∃ i, scan indexedVertex = .ok i ∧
      (∀ word ∈ i.words, contains "gl_VertexID".toList word = false) ∧
      ∀ a ∈ i.attributes, a.name ≠ "_vertex_id".toList) ∧
    contains openMark indexedVertex = false ∧ usesVertexIndex {} indexedVertex = true ∧
    ((convertAndExpand {} .vertex none none indexedVertex : Act Unit Text).outcome ()).1 =
      .ok indexedVertexLegacy ∧
    ((convertAndExpand {} .vertex none none indexedVertexLegacy : Act Unit Text).outcome ()).1 =
      .ok indexedVertexLegacy := by
  let i : Interface := ⟨[⟨"n".toList, "int".toList, 3⟩], [⟨"a".toList, "int".toList, some 0⟩]⟩
  have hs : contains openMark indexedVertex = false := by decide +kernel
  have hi : scan indexedVertex = .ok i := by decide +kernel
  have hwords : ∀ word ∈ i.words, contains "gl_VertexID".toList word = false := by decide +kernel
  have hname : ∀ a ∈ i.attributes, a.name ≠ "_vertex_id".toList := by decide +kernel
  have h : ((convertAndExpand {} .vertex none none indexedVertex : Act Unit Text).outcome ()).1 =
      .ok indexedVertexLegacy := by decide +kernel
  exact ⟨⟨i, hi, hwords, hname⟩, hs, by decide +kernel, h,
    convertAndExpand_idempotent hs hi hwords (fun _ => hname) h none ()⟩

end Text

end ShaderPipeline.Legacy
