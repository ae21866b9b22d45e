import ShaderPipeline.Proofs.Glsl.Passages
import ShaderPipeline.Proofs.Legacy.Dialect
import ShaderPipeline.Proofs.Legacy.Recasts

namespace ShaderPipeline.Legacy

open Text Glsl

variable {stage : Stage} {p p' : Progress} {raw rest l s t name part : Text} {v : Passage}

section Passages

theorem layout_of_leadingWord? {word : Text} (h : leadingWord? t = some (word, rest)) :
    layout t = .code := by
  cases t with
  | nil => cases h
  | cons c t =>
      rw [leadingWord?] at h
      split at h
      case isFalse => cases h
      case isTrue hc =>
          have hne (d : Char) (hd : startsWord d = false) : d ≠ c := by
            rintro rfl
            rw [hc] at hd
            cases hd
          have hversion : after? versionDirective (c :: t) = none := if_neg (hne '#' (by decide))
          have hline : after? lineMark (c :: t) = none := if_neg (hne '/' (by decide))
          have hopen : after? openMark (c :: t) = none := if_neg (hne '/' (by decide))
          rw [layout, hversion, hline, hopen]
          rfl

theorem On.bodyPart? (h : v.On rest l) : ∃ part,
    qualified? part = some (v.storage, trimEnd rest) ∧ layout (trim l) = .code ∧
    bodyPart? (trim l) = if v.place = none ∨ v.storage = .output then some part else none := by
  cases hp : v.place with
  | none =>
      have hstands := h.stands
      rw [hp] at hstands
      cases hstands with
      | bare ht =>
          have hq := h.qualified? ht
          obtain ⟨word, more, hword⟩ : ∃ word more, leadingWord? (trim l) = some (word, more) := by
            rw [qualified?_cases] at hq
            cases hw : leadingWord? (trim l) with
            | none => rw [hw] at hq; cases hq
            | some r => exact ⟨r.1, r.2, rfl⟩
          have hno (keyword : Text) (hk : leadingWord? keyword = some (keyword, []))
              (hs : Storage.ofWord? keyword = none) (hi : keyword ∉ interpolationWords) :=
            startsWithWord_of_qualified? hq hk hs hi
          refine ⟨trim l, hq, layout_of_leadingWord? hword, ?_⟩
          rw [Legacy.bodyPart?, hno layoutWord (by decide) (by decide) (by decide),
            if_neg (by decide), hno attributeWord (by decide) (by decide) (by decide),
            hno uniformWord (by decide) (by decide) (by decide), if_neg (by decide),
            if_pos (.inl rfl)]
  | some place =>
      obtain ⟨g, t, hg, hplace, ht, htrim⟩ := h.trim_laid hp
      have hq := h.qualified? ht
      have hends : endsWord (g ++ '(' :: (place ++ ')' :: trimEnd t)) = true :=
        endsWord_of_blank_append hg (endsWord_cons (by decide) _)
      have hstart : startsWithWord layoutWord
          (layoutWord ++ (g ++ '(' :: (place ++ ')' :: trimEnd t))) = true :=
        startsWithWord_iff.mpr ⟨_, rfl, hends⟩
      have hpast : pastLayout? (layoutWord ++ (g ++ '(' :: (place ++ ')' :: trimEnd t))) =
          some (trim t) := by
        rw [pastLayout?_laid hg hplace, trim_trimEnd]
      have hlayout : leadingWord? layoutWord = some (layoutWord, []) := by decide
      have hword := leadingWord?_append hlayout hends
      refine ⟨trim t, hq, ?_, ?_⟩
      · rw [htrim]
        exact layout_of_leadingWord? hword
      · rw [htrim, Legacy.bodyPart?, if_pos hstart, hpast]
        dsimp only
        rw [splitQualifier, hq]
        simp

end Passages

section Outputs

def sunkNames (stage : Stage) (code : Text) : List Text :=
  if stage = .fragment then outputNames code else []

theorem mem_outputNames (hl : l ∈ liveLines s) (h : outputName? l = some name) :
    name ∈ outputNames s := by
  rw [outputNames_eq, List.mem_eraseDups]
  exact List.mem_filterMap.mpr ⟨l, hl, h⟩

def qualifiedOutput? (line : Text) : Option Text :=
  match qualified? line with
  | some (.output, declaration) => some declaration
  | _ => none

theorem qualifiedOutput?_eq_some {line declaration : Text} :
    qualifiedOutput? line = some declaration ↔ qualified? line = some (.output, declaration) := by
  rw [qualifiedOutput?]
  rcases qualified? line with _ | ⟨_ | _, _⟩
  · simp
  · simp
  · simp

def outputDeclaration? (live : Text) : Option Text := do
  let line ← if startsWithWord layoutWord live then pastLayout? live else some live
  qualifiedOutput? line

theorem outputName?_eq (live : Text) :
    outputName? live = (outputDeclaration? live).bind variableName? := by
  have hqualified (line : Text) :
      (match qualified? line with
        | some (.output, declaration) => variableName? declaration
        | _ => none) = (qualifiedOutput? line).bind variableName? := by
    rw [qualifiedOutput?]
    rcases qualified? line with _ | ⟨_ | _, _⟩ <;> rfl
  rw [outputName?, outputDeclaration?]
  split
  · cases pastLayout? live with
    | none => rfl
    | some line => exact hqualified line
  · exact hqualified live

theorem outputDeclaration?_of_bodyPart? {declaration : Text} (hb : bodyPart? t = some part)
    (hq : qualified? part = some (.output, declaration)) :
    outputDeclaration? t = some declaration := by
  rw [bodyPart?] at hb
  rw [outputDeclaration?]
  split at hb
  · next hl =>
      rw [if_pos hl]
      cases hp : pastLayout? t with
      | none => rw [hp] at hb; cases hb
      | some rest =>
          rw [hp] at hb
          dsimp only at hb
          split at hb
          · cases hb
            exact qualifiedOutput?_eq_some.mpr hq
          · cases hb
  · next hl =>
      rw [if_neg hl]
      split at hb
      · cases hb
      · cases hb
        exact qualifiedOutput?_eq_some.mpr hq

theorem outputName?_of_bodyPart? {declaration : Text} (hb : bodyPart? t = some part)
    (hq : qualified? part = some (.output, declaration)) :
    outputName? t = variableName? declaration := by
  rw [outputName?_eq, outputDeclaration?_of_bodyPart? hb hq, Option.bind_some]

theorem output_of_reading {inBlock : Bool} (h : reading stage inBlock t = .output part) :
    stage = .fragment ∧ bodyPart? t = some part ∧
      ∃ declaration, qualified? part = some (.output, declaration) := by
  rw [reading] at h
  split at h
  · cases h
  · split at h
    · cases h
    · cases h
    · cases h
    · split at h
      · cases h
      · next hb =>
          split at h
          · cases h
          · next storage declaration hq =>
              split at h
              case isFalse => cases h
              case isTrue hs =>
                  cases h
                  exact ⟨hs.2, hb, declaration, hs.1 ▸ hq⟩

theorem token_of_variableName? {declaration : Text} (h : variableName? declaration = some name) :
    Token endsDeclaration name := by
  obtain ⟨hne, hno⟩ := (token_of_mem_tokens (mem_tokens_of_variableName? h)).1
  refine ⟨hne, fun c hc => ?_⟩
  have hends := hno c hc
  simp only [endsName, Bool.or_eq_false_iff] at hends
  exact hends.1.1.1

/-- The name to be replaced, if there is one, is one of these. -/
structure Sunk (names : List Text) (p : Progress) : Prop where
  outside : p.inBlock = false
  undeclared : p.declared = false → p.output = none
  output : ∀ name ∈ p.output, name ∈ names ∧ Token endsDeclaration name

theorem recastLine_sunk (hl : ¬ lineMark <:+: s) (hb : ¬ openMark <:+: s) (hraw : raw ∈ lines s)
    {outcome : Outcome} (hp : Sunk (sunkNames stage s) p)
    (h : recastLine {} stage p raw = .ok (outcome, p')) : Sunk (sunkNames stage s) p' := by
  have houtside : p'.inBlock = false :=
    (recastLine_bodyLine (newline_not_mem_of_mem_lines hraw)
      (fun hi => hb (hi.trans (infix_of_mem_lines hraw))) hp.outside h).1
  rw [recastLine_default] at h
  have hr := recasts stage p (inspected p raw)
  rw [h] at hr
  generalize hread : reading stage p.inBlock (trim (inspected p raw)) = r at hr
  cases hr with
  | inside | comment => exact ⟨houtside, hp.undeclared, hp.output⟩
  | blank | plain | dropped | varying => exact hp
  | unnamed _ hd => exact ⟨houtside, nofun, hp.output⟩
  | @named _ part declaration name storage hd hbody hq hn =>
      refine ⟨houtside, nofun, ?_⟩
      rintro _ ⟨⟩
      refine ⟨?_, token_of_variableName? hn⟩
      obtain ⟨rfl, _, declaration', hq'⟩ := output_of_reading hread
      have hline : inspected p raw = trimEnd raw := by
        rw [inspected, hp.undeclared hd]
        rfl
      rw [hline, trim_trimEnd] at hbody
      rw [sunkNames, if_pos rfl]
      refine mem_outputNames (trim_mem_liveLines hl hb hraw) ?_
      rw [outputName?_of_bodyPart? hbody hq', ← hn]
      rw [hq'] at hq
      cases hq
      rfl

end Outputs

section Lines

def vertexIndex : Text := "gl_VertexID".toList
def vertexIndexAttribute : Text := "_vertex_id".toList

/-- The declaration is rewritten where it stands: it is not behind a layout, unless it is an output,
and it is no output of a fragment shader. -/
def Stays (stage : Stage) (v : Passage) : Prop :=
  (v.place = none ∨ v.storage = .output) ∧ ¬ (v.storage = .output ∧ stage = .fragment)

theorem renameVertexIndex_eq (s : Text) :
    renameVertexIndex {} s = replaceAll vertexIndex vertexIndexAttribute s := by
  rw [renameVertexIndex]
  split
  · rfl
  · next h =>
      have hno : ¬ vertexIndex <:+: s := fun hi => h (contains_iff.mpr hi)
      rw [replaceAll_eq_self hno]

theorem mem_lines_renameVertexIndex (hl : l ∈ lines s) :
    replaceAll vertexIndex vertexIndexAttribute l ∈ lines (renameVertexIndex {} s) := by
  rw [renameVertexIndex_eq, lines_replaceAll (by decide) (by decide) (by decide)]
  exact List.mem_map_of_mem hl

theorem mem_trimLines {ls : List Text} (hl : l ∈ ls) (hb : allBlank l = false) :
    l ∈ trimLines ls := by
  have hfilter := filter_trimLines (q := fun l => !allBlank l) (fun l hl => by simp [hl]) ls
  have hmem : l ∈ ls.filter fun l => !allBlank l := List.mem_filter.mpr ⟨hl, by simp [hb]⟩
  rw [← hfilter] at hmem
  exact (List.mem_filter.mp hmem).1

theorem inspected_passage (h : v.On rest raw) (hs : Stays stage v)
    (hp : Sunk (sunkNames stage s) p) (hwords : ∀ w ∈ v.words, w ∉ sunkNames stage s) :
    inspected p raw = trimEnd raw := by
  rw [inspected]
  cases ho : p.output with
  | none => rfl
  | some name =>
      obtain ⟨hmem, htoken⟩ := hp.output name ho
      have hstage : stage = .fragment := by
        rw [sunkNames] at hmem
        split at hmem
        · assumption
        · cases hmem
      have hplace : v.place = none := hs.1.resolve_right fun ho => hs.2 ⟨ho, hstage⟩
      have hstatement := h.statement
      rw [hplace] at hstatement
      cases hstatement with
      | bare ht => exact ht.trimEnd.replaceWord htoken fun hw => hwords name hw hmem

theorem recastRenamed_passage (h : v.On rest raw) (hs : Stays stage v) (hp : p.inBlock = false) :
    recastRenamed stage p (trimEnd raw) =
      .ok (.keep (indent (trimEnd raw) ++ varyingWord ++ trimEnd rest), p) := by
  obtain ⟨part, hq, hlayout, hbody⟩ := On.bodyPart? h
  rw [if_pos hs.1] at hbody
  rw [recastRenamed, hp, if_neg (by decide), trim_trimEnd, hlayout]
  dsimp only
  rw [recastCode, hbody]
  dsimp only
  rw [hq]
  dsimp only
  rw [if_neg hs.2]

theorem liveHead_varying {ws : List Text} (line : Text) (h : Statement ws rest) :
    liveHead (indent line ++ varyingWord ++ trimEnd rest) = varyingWord ++ trimEnd rest := by
  have hslash : '/' ∉ indent line ++ varyingWord ++ trimEnd rest := by
    have hindent : allBlank (indent line) = true := List.all_takeWhile
    simp only [List.mem_append, not_or]
    refine ⟨⟨fun hm => ?_, by decide⟩, fun hm => ?_⟩
    · exact absurd (allBlank_iff.mp hindent _ hm) (by decide)
    · rcases h.trimEnd.mem_cases hm with hc | hc
      · exact absurd hc (by decide)
      · exact absurd hc (by decide)
  rw [liveHead_of_no_mark (live_of_no_slash hslash).line, trim_varying, trimEnd_trimEnd]

theorem mem_liveLines_of_mem_body {hs bs : List Text} (hh : ∀ l ∈ hs, HeaderLine l)
    (hb : ∀ l ∈ bs, BodyLine l) (hl : l ∈ bs) (hne : liveHead l ≠ []) :
    liveHead l ∈ liveLines (unlines (trimLines (hs ++ bs))) := by
  have hblank : allBlank l = false := by
    rw [← Bool.not_eq_true]
    exact fun hblank => hne (liveHead_of_blank hblank)
  have hmem := mem_trimLines (List.mem_append_right hs hl) hblank
  rcases liveLines_unlines_trimLines (lines_unopened hh hb) with he | ⟨hnil, _⟩
  · rw [he]
    exact List.mem_map_of_mem hmem
  · rw [hnil] at hmem
    cases hmem

theorem varying_mem_liveLines (hl : ¬ lineMark <:+: s) (hb : ¬ openMark <:+: s)
    (h : (convert {} stage none s).text = .ok t) (hmem : l ∈ lines s) (hv : v.On rest l)
    (hs : Stays stage v) (hindex : ¬ vertexIndex <:+: v.type ∧ ¬ vertexIndex <:+: v.name)
    (hwords : ∀ w ∈ v.words, w ∉ sunkNames stage (renameVertexIndex {} s)) :
    varyingWord ++ trimEnd rest ∈ liveLines t := by
  obtain ⟨i, hi, rfl⟩ := convert_eq_ok h
  have hopen := not_openMark_renameVertexIndex hb
  have hline : ¬ lineMark <:+: renameVertexIndex {} s := by
    have hapart : Apart lineMark vertexIndexAttribute := by decide
    rw [renameVertexIndex_eq]
    exact fun hi => hl ((patched_replaceAll (by decide) _ s).holds hapart hi)
  have hclean : ∀ w ∈ v.words, ¬ vertexIndex <:+: w := by
    have hinterpolation : ∀ q ∈ interpolationWords, ¬ vertexIndex <:+: q := by decide
    have hstorage : ¬ vertexIndex <:+: v.storage.word := by cases v.storage <;> decide
    simp only [Passage.words, Passage.opening, List.append_assoc, List.mem_append, List.mem_cons,
      List.not_mem_nil, or_false]
    rintro w (hw | rfl | rfl | rfl)
    · exact hinterpolation w (hv.qualifiers w hw)
    · exact hstorage
    · exact hindex.1
    · exact hindex.2
  have hindexWord : ∀ c ∈ vertexIndex, isWord c = true := List.all_eq_true.mp (by decide)
  have hrenamed :=
    hv.replaceAll vertexIndexAttribute (by decide) hindexWord (by decide) (by decide) hclean
  have hstays : Stays stage { v with
      place := v.place.map (replaceAll vertexIndex vertexIndexAttribute) } := by
    refine ⟨hs.1.imp_left fun hn => ?_, hs.2⟩
    dsimp only
    rw [hn]
    rfl
  have hstart : Sunk (sunkNames stage (renameVertexIndex {} s)) {} :=
    ⟨rfl, fun _ => rfl, fun _ hn => by cases hn⟩
  obtain ⟨p, outcome, p', hp, hr, hkept⟩ := recastFrom_reaches hstart
    (fun raw hraw p outcome p' hp hr => recastLine_sunk hline hopen hraw hp hr) (fault_of_text h)
    (mem_lines_renameVertexIndex hmem)
  rw [recastLine_default, inspected_passage hrenamed hstays hp hwords,
    recastRenamed_passage hrenamed hstays hp.outside] at hr
  cases hr
  have hlive := liveHead_varying (trimEnd (replaceAll vertexIndex vertexIndexAttribute l)) hv.declares
  rw [← hlive]
  refine mem_liveLines_of_mem_body (header_headerLine (scan_written hi) _)
    (bodyLine_of_mem_recast hb) (hkept _ rfl) ?_
  rw [hlive]
  exact List.cons_ne_nil _ _

end Lines

section Attributes

def attributeNames (t : Text) : List Text :=
  (liveLines t).filterMap fun l =>
    if startsWithWord attributeWord l then (attribute? l).map (·.name) else none

variable {i : Interface}

theorem attributeNames_converted {bs : List Text} (h : i.Written Live) (usesIndex : Bool)
    (hb : ∀ l ∈ bs, BodyLine l) : attributeNames (unlines (trimLines (header {} usesIndex i ++ bs))) =
      i.attributes.map (·.name) ++ if usesIndex then [vertexIndexAttribute] else [] := by
  let named (l : Text) : Option Text :=
    if startsWithWord attributeWord l then (attribute? l).map (·.name) else none
  obtain ⟨_, hfilter⟩ := liveLines_legacy (header_headerLine h usesIndex) hb
  have hdeclares (ls : List Text) : (ls.filter declares).filterMap named = ls.filterMap named := by
    rw [List.filterMap_filter]
    refine List.filterMap_congr fun l _ => ?_
    cases hd : declares l with
    | true => rfl
    | false =>
        rw [declares, Bool.or_eq_false_iff] at hd
        simp [named, hd.1]
  have hline {type name : Text} (ht : Token endsDeclaration type) (hn : Token endsDeclaration name) :
      named (attributeLine type name) = some name := by
    have hstart : startsWithWord attributeWord (attributeLine type name) = true := by
      rw [attributeLine_eq]
      exact startsWithWord_iff.mpr ⟨_, rfl, endsWord_cons (by decide) _⟩
    change (if startsWithWord attributeWord (attributeLine type name) then _ else _) = _
    rw [if_pos hstart, attribute?_attributeLine ht hn]
    rfl
  have hattributes : (i.attributes.map fun a => attributeLine (widen a.type) a.name).filterMap named =
      i.attributes.map (·.name) := by
    rw [List.filterMap_map, ← List.filterMap_eq_map]
    refine List.filterMap_congr fun a ha => ?_
    exact hline (token_widen (by decide) (h.attributes a ha).type.1) (h.attributes a ha).name.1
  have huniforms : (i.uniforms.map uniformLine).filterMap named = [] := by
    rw [List.filterMap_map, List.filterMap_eq_nil_iff]
    intro u _
    rfl
  change (liveLines _).filterMap named = _
  rw [← hdeclares, hfilter, header, List.filterMap_append, List.filterMap_append, hattributes,
    huniforms, List.append_nil]
  cases usesIndex with
  | false => rfl
  | true =>
      rw [if_pos rfl, if_pos rfl, List.filterMap_cons_some (hline (by decide) (by decide))]
      rfl

theorem mem_attributeNames_of_convert (hl : ¬ lineMark <:+: s) (hb : ¬ openMark <:+: s)
    (h : (convert {} stage none s).text = .ok t) : name ∈ attributeNames t ↔
      (∃ l ∈ lines s, ∃ a, declaration? (trim l) = .ok (some (.attribute a)) ∧ a.name = name) ∨
        name = vertexIndexAttribute ∧ usesVertexIndex {} s = true := by
  obtain ⟨i, hi, rfl⟩ := convert_eq_ok h
  rw [attributeNames_converted (scan_written hi) _ (bodyLine_of_mem_recast hb), List.mem_append,
    mem_attributes_of_scan hi, liveLines_of_no_mark hl hb]
  refine or_congr ?_ ?_
  · simp only [List.mem_map, exists_exists_and_eq_and]
  · cases usesVertexIndex {} s <;> simp

theorem mem_attributeNames_of_laid (hl : ¬ lineMark <:+: s) (hb : ¬ openMark <:+: s)
    (h : (convert {} stage none s).text = .ok t) (hmem : l ∈ lines s) (hv : v.On rest l)
    (hs : v.storage = .input) {place : Text} (hp : v.place = some place)
    (hd : (location? place).isSome = true) : v.name ∈ attributeNames t := by
  obtain ⟨i, hi, _⟩ := convert_eq_ok h
  obtain ⟨digits, hdigits⟩ := Option.isSome_iff_exists.mp hd
  have hread := hv.declaration?_laid hs hp hdigits
  obtain ⟨d, hok⟩ := exists_declaration?_of_scan hi (trim_mem_liveLines hl hb hmem)
  rw [mem_attributeNames_of_convert hl hb h]
  rw [hread] at hok
  cases hn : readNumeral digits with
  | error fault => rw [hn] at hok; cases hok
  | ok n =>
      rw [hn] at hread
      exact .inl ⟨l, hmem, _, hread, rfl⟩

end Attributes

section Text

/-- Of sources without comments, the vertex conversion makes a varying of every output, and the
fragment conversion one of every input that is not behind a layout, unless an output is named by one
of its words. An input behind a layout with a number becomes an attribute: the attributes of the
result are what lines of the source are read as, and the one for the vertex index. -/
theorem varyings_of_convertAndExpand {W : Type} [Records W] {w w' : W} {s s' f f' : Text}
    (hsl : contains lineMark s = false) (hsb : contains openMark s = false)
    (hfl : contains lineMark f = false) (hfb : contains openMark f = false)
    (hs : ((convertAndExpand {} .vertex none none s : Act W Text).outcome w).1 = .ok s')
    (hf : ((convertAndExpand {} .fragment none none f : Act W Text).outcome w').1 = .ok f')
    {type name : Text} (htype : contains vertexIndex type = false)
    (hname : contains vertexIndex name = false) {place place' : Option Text}
    {qualifiers qualifiers' : List Text} {rest rest' l l' : Text} (hl : l ∈ lines s)
    (hu : (⟨place, qualifiers, .output, type, name⟩ : Passage).On rest l) (hl' : l' ∈ lines f)
    (hv : (⟨place', qualifiers', .input, type, name⟩ : Passage).On rest' l') :
    varyingWord ++ trimEnd rest ∈ liveLines s' ∧
    (place' = none →
      (∀ word ∈ qualifiers' ++ [inWord, type, name],
        word ∉ outputNames (renameVertexIndex {} f)) →
      varyingWord ++ trimEnd rest' ∈ liveLines f') ∧
    (∀ location ∈ place', (location? location).isSome = true → name ∈ attributeNames f') ∧
    ∀ n, n ∈ attributeNames f' ↔
      (∃ l ∈ lines f, ∃ a, declaration? (trim l) = .ok (some (.attribute a)) ∧ a.name = n) ∨
        n = vertexIndexAttribute ∧ usesVertexIndex {} f = true := by
  rw [contains_eq_false_iff] at hsl hsb hfl hfb htype hname
  obtain ⟨hs, _⟩ := text_of_outcome hs
  obtain ⟨hf, _⟩ := text_of_outcome hf
  refine ⟨?_, fun hplace hwords => ?_, fun location hplace hd => ?_, fun n => ?_⟩
  · exact varying_mem_liveLines hsl hsb hs hl hu ⟨.inr rfl, nofun⟩ ⟨htype, hname⟩ fun _ _ => nofun
  · refine varying_mem_liveLines hfl hfb hf hl' hv ⟨.inl hplace, nofun⟩ ⟨htype, hname⟩ ?_
    have hall : (⟨place', qualifiers', .input, type, name⟩ : Passage).words =
        qualifiers' ++ [inWord, type, name] := List.append_assoc qualifiers' [inWord] [type, name]
    rw [sunkNames, if_pos rfl, hall]
    exact hwords
  · exact mem_attributeNames_of_laid hfl hfb hf hl' hv rfl hplace hd
  · exact mem_attributeNames_of_convert hfl hfb hf

def passingVertex : Text := unlines [
  "layout(location = 2) flat out vec2 uv;".toList,
  "void main() {}".toList]

def passingVertexLegacy : Text := unlines [
  "varying vec2 uv;".toList,
  "void main() {}".toList]

def passingFragment : Text := unlines [
  "out vec4 color;".toList,
  "  smooth in vec2 uv;".toList,
  "void main() { color = vec4(uv, 0.0, 1.0); }".toList]

def passingFragmentLegacy : Text := unlines [
  "  varying vec2 uv;".toList,
  "void main() { gl_FragColor = vec4(uv, 0.0, 1.0); }".toList]

theorem varyings_passing :
    ((convertAndExpand {} .vertex none none passingVertex : Act Unit Text).outcome ()).1 =
      .ok passingVertexLegacy ∧
    ((convertAndExpand {} .fragment none none passingFragment : Act Unit Text).outcome ()).1 =
      .ok passingFragmentLegacy ∧
    "varying vec2 uv;".toList ∈ liveLines passingVertexLegacy ∧
    "varying vec2 uv;".toList ∈ liveLines passingFragmentLegacy ∧
    "uv".toList ∉ attributeNames passingFragmentLegacy := by
  have hs : ((convertAndExpand {} .vertex none none passingVertex : Act Unit Text).outcome ()).1 =
      .ok passingVertexLegacy := by decide +kernel
  have hf : ((convertAndExpand {} .fragment none none passingFragment :
      Act Unit Text).outcome ()).1 = .ok passingFragmentLegacy := by decide +kernel
  have hrest : Statement ["vec2".toList, "uv".toList] " vec2 uv;".toList :=
    (statement_spelled ["vec2".toList, "uv".toList] (by decide)).blank_append (g := [' '])
      (by decide)
  have hends : endsWord " vec2 uv;".toList = true := by decide
  have hu : (⟨some "location = 2".toList, ["flat".toList], .output, "vec2".toList,
      "uv".toList⟩ : Passage).On " vec2 uv;".toList
        "layout(location = 2) flat out vec2 uv;".toList := by
    refine ⟨by decide, .laid (g := []) (h := []) rfl rfl (by decide) ?_, hrest⟩
    exact .word (g := [' ']) (by decide) (by decide) (by decide)
      (.word (g := [' ']) (by decide) (by decide) hends (.rest hends))
  have hv : (⟨none, ["smooth".toList], .input, "vec2".toList, "uv".toList⟩ : Passage).On
      " vec2 uv;".toList "  smooth in vec2 uv;".toList := by
    refine ⟨by decide, .bare ?_, hrest⟩
    exact .word (g := [' ', ' ']) (by decide) (by decide) (by decide)
      (.word (g := [' ']) (by decide) (by decide) hends (.rest hends))
  obtain ⟨hvertex, hfragment, _, hattributes⟩ := varyings_of_convertAndExpand (by decide +kernel)
    (by decide +kernel) (by decide +kernel) (by decide +kernel) hs hf (by decide +kernel)
    (by decide +kernel) (l := "layout(location = 2) flat out vec2 uv;".toList) (by decide +kernel) hu
    (by decide +kernel) hv
  refine ⟨hs, hf, hvertex, hfragment rfl (by decide +kernel), fun hm => ?_⟩
  have hnone : ∀ l ∈ lines passingFragment, declaration? (trim l) = .ok none := by decide +kernel
  rcases (hattributes _).mp hm with ⟨l, hl, a, ha, _⟩ | ⟨hn, _⟩
  · rw [hnone l hl] at ha
    cases ha
  · exact absurd hn (by decide)

/-- The fragment stage takes the variable over behind a layout. -/
def locatedFragment : Text := unlines [
  "layout(location = 0) in vec2 uv;".toList,
  "void main() {}".toList]

def locatedFragmentLegacy : Text := unlines [
  "attribute vec2 uv;".toList,
  "void main() {}".toList]

theorem varyings_located : contains lineMark locatedFragment = false ∧
    contains openMark locatedFragment = false ∧
    ((convertAndExpand {} .vertex none none passingVertex : Act Unit Text).outcome ()).1 =
      .ok passingVertexLegacy ∧
    ((convertAndExpand {} .fragment none none locatedFragment : Act Unit Text).outcome ()).1 =
      .ok locatedFragmentLegacy ∧
    "layout(location = 2) flat out vec2 uv;".toList ∈ lines passingVertex ∧
    "layout(location = 0) in vec2 uv;".toList ∈ lines locatedFragment ∧
    "varying vec2 uv;".toList ∈ liveLines passingVertexLegacy ∧
    "varying vec2 uv;".toList ∉ liveLines locatedFragmentLegacy ∧
    "uv".toList ∈ attributeNames locatedFragmentLegacy :=
  ⟨by decide +kernel, by decide +kernel, by decide +kernel, by decide +kernel, by decide +kernel,
    by decide +kernel, by decide +kernel, by decide +kernel, by decide +kernel⟩

end Text

end ShaderPipeline.Legacy
