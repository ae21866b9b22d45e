import ShaderPipeline.Proofs.Glsl.Variables
import ShaderPipeline.Proofs.Legacy.Dialect

namespace ShaderPipeline.Legacy

open Text Glsl

variable {l s t type name : Text} {i : Interface}

def declaredVariable? (l : Text) : Option Text :=
  if startsWithWord uniformWord l then variableName? (l.drop uniformWord.length)
  else if startsWithWord attributeWord l then variableName? (l.drop attributeWord.length)
  else none

/-- The variables of the interface of a converted shader. -/
def keptNames (t : Text) : List Text := (liveLines t).filterMap declaredVariable?

/-- A single word for a type or a variable, which is taken for nothing else. -/
structure Plain (t : Text) : Prop where
  token : Token endsName t
  notPrecision : t ∉ precisionWords

instance (t : Text) : Decidable (Plain t) :=
  decidable_of_iff (Token endsName t ∧ precisionWords.elem t = false)
    ⟨fun ⟨ht, hp⟩ => ⟨ht, by simpa using hp⟩, fun h => ⟨h.token, by simpa using h.notPrecision⟩⟩

section Names

theorem Plain.widen (h : Plain type) : Plain (widen type) := by
  rcases widen_cases type with he | he <;> rw [he]
  · exact h
  · exact ⟨by decide, by decide⟩

theorem plain_of_identifier (h : Identifier name) : Plain name := by
  refine ⟨⟨ne_nil_of_leadingWord? h.word, fun c hc => ?_⟩, h.notPrecision⟩
  have hword := isWord_of_leadingWord? h.word c hc
  have hne (d : Char) (hd : isWord d = false) : (c == d) = false := by
    rw [beq_eq_false_iff_ne]
    rintro rfl
    rw [hd] at hword
    cases hword
  rw [endsName, parts_endsDeclaration.word c hword, hne ',' (by decide), hne '=' (by decide),
    hne '[' (by decide)]
  rfl

theorem variableName?_plain {c : Char} {rest : Text}
    (hlive : Live (' ' :: (type ++ ' ' :: (name ++ c :: rest)))) (ht : Plain type)
    (hn : Plain name) (hc : endsName c = true) :
    variableName? (' ' :: (type ++ ' ' :: (name ++ c :: rest))) = some name := by
  have htype : precisionWords.elem type = false := by simpa using ht.notPrecision
  have hname : precisionWords.elem name = false := by simpa using hn.notPrecision
  rw [variableName?, stripLine_of_live hlive, tokens_cons (by decide),
    tokens_append ht.token (by decide), tokens_append hn.token hc,
    List.filter_cons_of_pos (by rw [htype]; rfl), List.filter_cons_of_pos (by rw [hname]; rfl)]

theorem declaredVariable?_attributeLine (hlive : Live (attributeLine type name))
    (ht : Plain type) (hn : Plain name) :
    declaredVariable? (attributeLine type name) = some name := by
  rw [attributeLine_eq] at hlive ⊢
  have hstart : startsWithWord attributeWord
      (attributeWord ++ ' ' :: (type ++ ' ' :: (name ++ ';' :: []))) = true :=
    startsWithWord_iff.mpr ⟨_, rfl, endsWord_cons (by decide) _⟩
  have huniform : startsWithWord uniformWord
      (attributeWord ++ ' ' :: (type ++ ' ' :: (name ++ ';' :: []))) = false := rfl
  rw [declaredVariable?, if_neg (by simp [huniform]), if_pos hstart, List.drop_left]
  exact variableName?_plain (hlive.of_infix (List.suffix_append _ _).isInfix) ht hn (by decide)

theorem declaredVariable?_uniformLine {u : Uniform} (hlive : Live (uniformLine u))
    (ht : Plain u.type) (hn : Plain u.name) : declaredVariable? (uniformLine u) = some u.name := by
  obtain ⟨c, rest, hrest, hc⟩ : ∃ c rest, arraySuffix u.length ++ ';' :: [] = c :: rest ∧
      endsName c = true := by
    rw [arraySuffix]
    split
    · exact ⟨'[', _, rfl, by decide⟩
    · exact ⟨';', [], rfl, by decide⟩
  have hline : uniformLine u =
      uniformWord ++ ' ' :: (Legacy.widen u.type ++ ' ' :: (u.name ++ c :: rest)) := by
    rw [uniformLine_eq, List.append_assoc u.name, hrest]
  rw [hline] at hlive ⊢
  have hstart : startsWithWord uniformWord
      (uniformWord ++ ' ' :: (Legacy.widen u.type ++ ' ' :: (u.name ++ c :: rest))) = true :=
    startsWithWord_iff.mpr ⟨_, rfl, endsWord_cons (by decide) _⟩
  rw [declaredVariable?, if_pos hstart, List.drop_left]
  exact variableName?_plain (hlive.of_infix (List.suffix_append _ _).isInfix) ht.widen hn hc

theorem mem_declared_header (h : i.Written Live) (usesIndex : Bool) {d : Declaration}
    (hd : d ∈ i.declarations) (ht : Plain d.type) (hn : Plain d.name) :
    d.name ∈ (header {} usesIndex i).filterMap declaredVariable? := by
  have hlive := header_headerLine h usesIndex
  rcases List.mem_append.mp hd with hd | hd
  · obtain ⟨u, hu, rfl⟩ := List.mem_map.mp hd
    have hmem : uniformLine u ∈ header {} usesIndex i :=
      List.mem_append_right _ (List.mem_map_of_mem hu)
    exact List.mem_filterMap.mpr
      ⟨_, hmem, declaredVariable?_uniformLine (hlive _ hmem).live ht hn⟩
  · obtain ⟨a, ha, rfl⟩ := List.mem_map.mp hd
    have hattribute : attributeLine (Legacy.widen a.type) a.name ∈
        i.attributes.map fun a => attributeLine (Legacy.widen a.type) a.name :=
      List.mem_map.mpr ⟨a, ha, rfl⟩
    have hmem : attributeLine (Legacy.widen a.type) a.name ∈ header {} usesIndex i := by
      rw [header, List.append_assoc]
      exact List.mem_append_left _ hattribute
    exact List.mem_filterMap.mpr
      ⟨_, hmem, declaredVariable?_attributeLine (hlive _ hmem).live ht.widen hn⟩

theorem declaredVariable?_of_not_declares (h : declares l = false) :
    declaredVariable? l = none := by
  rw [declares, Bool.or_eq_false_iff] at h
  rw [declaredVariable?, h.1, h.2]
  rfl

theorem filterMap_filter_declares (ls : List Text) :
    (ls.filter declares).filterMap declaredVariable? = ls.filterMap declaredVariable? := by
  induction ls with
  | nil => rfl
  | cons l ls ih =>
      cases hd : declares l with
      | true => rw [List.filter_cons_of_pos hd, List.filterMap_cons, List.filterMap_cons, ih]
      | false =>
          rw [List.filter_cons_of_neg (by simp [hd]), ih,
            List.filterMap_cons_none (declaredVariable?_of_not_declares hd)]

end Names

section Text

theorem keptNames_converted {bs : List Text} (h : i.Written Live) (usesIndex : Bool)
    (hb : ∀ l ∈ bs, BodyLine l) :
    keptNames (unlines (trimLines (header {} usesIndex i ++ bs))) =
      (header {} usesIndex i).filterMap declaredVariable? := by
  obtain ⟨_, hfilter⟩ := liveLines_legacy (header_headerLine h usesIndex) hb
  rw [keptNames, ← filterMap_filter_declares, hfilter]

/-- Of a source without comments a conversion keeps the variables that the header declares. Each line
that declares a variable is read as a declaration, but not always as one of that variable; where it
is, the variable is kept, unless the interface has it with something else than a word for its
type. -/
theorem keptNames_of_convertAndExpand {W : Type} [Records W] {stage : Stage} {w : W}
    (hl : contains lineMark s = false) (hb : contains openMark s = false)
    (h : ((convertAndExpand {} stage none none s : Act W Text).outcome w).1 = .ok t) :
    ∃ i, scan s = .ok i ∧
      keptNames t = (header {} (usesVertexIndex {} s) i).filterMap declaredVariable? ∧
      ∀ l ∈ lines s, ∀ v : Variable, v.On l → declaration? (trim l) = v.reading ∧
        ∀ d, v.reading = .ok (some d) → d.name = v.name →
          (∀ e ∈ i.declarations, e.name = v.name → Plain e.type) → v.name ∈ keptNames t := by
  rw [contains_eq_false_iff] at hl hb
  obtain ⟨htext, _⟩ := text_of_outcome h
  obtain ⟨i, hi, rfl⟩ := convert_eq_ok htext
  have hwritten := scan_written hi
  have hopen := not_openMark_renameVertexIndex hb
  have hbody : ∀ l ∈ (recast {} stage (lines (renameVertexIndex {} s))).lines, BodyLine l :=
    bodyLine_of_mem_recastFrom (fun l hl => ⟨newline_not_mem_of_mem_lines hl,
      fun hm => hopen (hm.trans (infix_of_mem_lines hl))⟩) rfl
  have hkept := keptNames_converted hwritten (usesVertexIndex {} s) hbody
  refine ⟨i, hi, hkept, fun l hmem v hv => ⟨hv.declaration?_trim, fun d hd hname hplain => ?_⟩⟩
  have hlive : trim l ∈ liveLines s := by
    rw [liveLines_of_no_mark hl hb]
    exact List.mem_map_of_mem hmem
  obtain ⟨e, he, hen⟩ := exists_mem_of_scan hi hlive (hv.declaration?_trim.trans hd)
  rw [hname] at hen
  have hplainName : Plain e.name := hen ▸ plain_of_identifier hv.name
  rw [hkept, ← hen]
  exact mem_declared_header hwritten _ he (hplain e he hen) hplainName

def litVertex : Text := unlines [
  "layout(location = 0) in vec2 uv;".toList,
  "uniform vec3 light;".toList,
  "void main() {}".toList]

def litVertexLegacy : Text := unlines [
  "attribute vec2 uv;".toList,
  "uniform vec3 light;".toList,
  "void main() {}".toList]

theorem keptNames_litVertex : contains lineMark litVertex = false ∧
    contains openMark litVertex = false ∧
    ((convertAndExpand {} .vertex none none litVertex : Act Unit Text).outcome ()).1 =
      .ok litVertexLegacy ∧
    "uv".toList ∈ keptNames litVertexLegacy ∧ "light".toList ∈ keptNames litVertexLegacy := by
  let uv : Variable := ⟨.laidInput "location = 0".toList, none, "vec2".toList, "uv".toList⟩
  let light : Variable := ⟨.plainUniform, none, "vec3".toList, "light".toList⟩
  have hl : contains lineMark litVertex = false := by decide +kernel
  have hb : contains openMark litVertex = false := by decide +kernel
  have h : ((convertAndExpand {} .vertex none none litVertex : Act Unit Text).outcome ()).1 =
      .ok litVertexLegacy := by decide +kernel
  have huv : uv.On "layout(location = 0) in vec2 uv;".toList :=
    ⟨by decide, by decide, by decide, .intro (g := []) (h := []) rfl rfl (by decide)
      ((statement_spelled (inWord :: uv.words) (by decide)).blank_append (g := [' '])
        (by decide))⟩
  have hlight : light.On "uniform vec3 light;".toList :=
    ⟨by decide, by decide, by decide,
      statement_spelled (uniformWord :: light.words) (by decide)⟩
  obtain ⟨i, hi, _, hkept⟩ := keptNames_of_convertAndExpand hl hb h
  obtain rfl : i = ⟨[⟨"light".toList, "vec3".toList, 0⟩],
      [⟨"uv".toList, "vec2".toList, some 0⟩]⟩ := by
    have hscan : scan litVertex = .ok ⟨[⟨"light".toList, "vec3".toList, 0⟩],
        [⟨"uv".toList, "vec2".toList, some 0⟩]⟩ := by decide +kernel
    exact Except.ok.inj (hi.symm.trans hscan)
  refine ⟨hl, hb, h, ?_, ?_⟩
  · exact (hkept _ (by decide +kernel) uv huv).2 (.attribute ⟨"uv".toList, "vec2".toList, some 0⟩)
      (by decide +kernel) rfl (by decide +kernel)
  · exact (hkept _ (by decide +kernel) light hlight).2 (.uniform ⟨"light".toList, "vec3".toList, 0⟩)
      rfl rfl (by decide +kernel)

/-- Declarations that are taken out of the body and not put into the header: the first is read as
one of a variable named by its type, the second as none at all. -/
def qualifiedVertex : Text := unlines [
  "uniform highp vec3 light;".toList,
  "layout(location = 2) uniform vec3 tint;".toList,
  "void main() {}".toList]

def qualifiedVertexLegacy : Text := unlines [
  "uniform highp vec3;".toList,
  "void main() {}".toList]

theorem not_mem_keptNames_qualifiedVertex : contains lineMark qualifiedVertex = false ∧
    contains openMark qualifiedVertex = false ∧
    ((convertAndExpand {} .vertex none none qualifiedVertex : Act Unit Text).outcome ()).1 =
      .ok qualifiedVertexLegacy ∧
    lines qualifiedVertex = ["uniform highp vec3 light;".toList,
      "layout(location = 2) uniform vec3 tint;".toList, "void main() {}".toList] ∧
    (⟨.plainUniform, some "highp".toList, "vec3".toList, "light".toList⟩ : Variable).On
      "uniform highp vec3 light;".toList ∧
    (⟨.laidUniform "location = 2".toList, none, "vec3".toList, "tint".toList⟩ : Variable).On
      "layout(location = 2) uniform vec3 tint;".toList ∧
    "light".toList ∉ keptNames qualifiedVertexLegacy ∧
    "tint".toList ∉ keptNames qualifiedVertexLegacy := by
  refine ⟨by decide +kernel, by decide +kernel, by decide +kernel, by decide +kernel,
    ⟨by decide, by decide, by decide, ?_⟩, ⟨by decide, by decide, by decide, ?_⟩,
    by decide +kernel, by decide +kernel⟩
  · exact statement_spelled ["uniform".toList, "highp".toList, "vec3".toList,
      "light".toList] (by decide)
  · exact .intro (g := []) (h := []) rfl rfl (by decide)
      ((statement_spelled ["uniform".toList, "vec3".toList, "tint".toList]
        (by decide)).blank_append (g := [' ']) (by decide))

end Text

end ShaderPipeline.Legacy
