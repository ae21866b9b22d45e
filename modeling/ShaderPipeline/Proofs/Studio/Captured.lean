import ShaderPipeline.Proofs.Glsl.Declarators
import ShaderPipeline.Proofs.Legacy.Varyings
import ShaderPipeline.Studio.Program

namespace ShaderPipeline.Studio

open Text Glsl Legacy

variable {g l rest s t : Text} {ls : List Text} {storage : Storage}

section Layouts

/-- `t` is the line, or what stands behind the layout that the line starts with. A layout ends at the
first closing parenthesis, whatever else there is in it. -/
inductive Behind (t : Text) : Text → Prop
  | bare : Behind t t
  | laid {g inside : Text} (hg : allBlank g = true) (hi : endsWord inside = true)
      (hp : ')' ∉ inside) : Behind t (g ++ (layoutWord ++ (inside ++ ')' :: t)))

theorem Behind.of_placed {p : Text → Prop} {place : Option Text} (h : Placed p place l) :
    ∃ t, p t ∧ Behind t l := by
  cases h with
  | bare ht => exact ⟨l, ht, .bare⟩
  | @laid g k place t hg hk hp ht =>
      refine ⟨t, ht, ?_⟩
      have hsplit : k ++ '(' :: (place ++ ')' :: t) = k ++ '(' :: place ++ ')' :: t := by simp
      rw [hsplit]
      refine .laid hg (endsWord_of_blank_append hk (endsWord_cons (by decide) _)) ?_
      have hblank : ')' ∉ k := fun hm => absurd (allBlank_iff.mp hk _ hm) (by decide)
      simp only [List.mem_append, List.mem_cons, not_or]
      exact ⟨hblank, by decide, hp⟩

theorem Behind.suffix (h : Behind t l) : t <:+ l := by
  cases h with
  | bare => exact List.suffix_refl l
  | @laid g inside =>
      have hsplit : g ++ (layoutWord ++ (inside ++ ')' :: t)) =
          g ++ (layoutWord ++ (inside ++ [')'])) ++ t := by simp
      rw [hsplit]
      exact List.suffix_append _ t

theorem Behind.outputDeclaration? (h : Behind t l)
    (hq : Glsl.qualified? (trim t) = some (storage, rest)) :
    Legacy.outputDeclaration? (trim l) = qualifiedOutput? (trim t) := by
  cases h with
  | bare =>
      have hno : startsWithWord layoutWord (trim l) = false :=
        startsWithWord_of_qualified? hq (by decide) (by decide) (by decide)
      rw [Legacy.outputDeclaration?, if_neg (by simp [hno])]
      rfl
  | @laid g inside hg hi hp =>
      have hblank : allBlank t = false := by
        rw [← Bool.not_eq_true, ← trim_eq_nil_iff]
        exact (qualified_of_eq hq).ne_nil
      have hstart : startsWithWord layoutWord (layoutWord ++ (inside ++ ')' :: trimEnd t)) = true :=
        startsWithWord_iff.mpr ⟨_, rfl, endsWord_append hi (endsWord_cons (by decide) _)⟩
      have hpast : pastLayout? (layoutWord ++ (inside ++ ')' :: trimEnd t)) = some (trim t) := by
        have hnone : ')' ∉ layoutWord ++ inside := by
          rw [List.mem_append, not_or]
          exact ⟨by decide, hp⟩
        rw [← List.append_assoc, pastLayout?_append hnone, trim_trimEnd]
      rw [trim_layout hg hblank, Legacy.outputDeclaration?, if_pos hstart, hpast]
      rfl

def StartsOutput (l : Text) : Prop :=
  ∃ t qs rest, Behind t l ∧ (∀ q ∈ qs, q ∈ interpolationWords) ∧ Opens rest (qs ++ [outWord]) t

theorem opens_of_qualified? (h : Glsl.qualified? (trim t) = some (storage, rest)) : ∃ qs rest',
    (∀ q ∈ qs, q ∈ interpolationWords) ∧ Opens rest' (qs ++ [storage.word]) t := by
  obtain ⟨qs, hqs, ho⟩ := (qualified_of_eq h).opens
  obtain ⟨lead, tail, hlead, htail, ht⟩ := exists_trim t
  have hends := endsWord_of_allBlank htail
  refine ⟨qs, rest ++ tail, hqs, ?_⟩
  rw [ht, List.append_assoc]
  exact (ho.append hends).blank_append hlead (by simp)

theorem exists_behind {declaration : Text} (h : outputDeclaration? (trim l) = some declaration) :
    ∃ t, Behind t l ∧ Glsl.qualified? (trim t) = some (.output, declaration) := by
  rw [Legacy.outputDeclaration?] at h
  split at h
  case isFalse => exact ⟨l, .bare, qualifiedOutput?_eq_some.mp h⟩
  case isTrue hs =>
      obtain ⟨r, hr, hends⟩ := startsWithWord_iff.mp hs
      obtain ⟨lead, tail, hlead, htail, hl⟩ := exists_trim l
      rw [hr] at h hl
      rw [pastLayout?, cut?_append (by decide)] at h
      cases hc : cut? [')'] r with
      | none => rw [hc] at h; cases h
      | some p =>
          obtain ⟨inside, t⟩ := p
          rw [hc] at h
          have hq : qualifiedOutput? (trim t) = some declaration := h
          have hp : ')' ∉ inside := by
            have hfirst := not_infix_of_cut? (by decide) hc
            rwa [List.dropLast_singleton, List.append_nil, List.singleton_infix_iff] at hfirst
          obtain rfl : r = inside ++ [')'] ++ t := eq_append_of_cut? hc
          -- The layout ends in the trimmed line, so the blanks behind that belong to the rest.
          refine ⟨t ++ tail, ?_, ?_⟩
          · have hsplit : l = lead ++ (layoutWord ++ (inside ++ ')' :: (t ++ tail))) := by
              simpa using hl
            rw [hsplit]
            rw [List.append_assoc] at hends
            exact .laid hlead (endsWord_of_append hends) hp
          · rw [trim_append_of_blank htail]
            exact qualifiedOutput?_eq_some.mp hq

theorem startsOutput_iff : StartsOutput l ↔ (outputDeclaration? (trim l)).isSome = true := by
  constructor
  · rintro ⟨t, qs, rest, hb, hqs, ho⟩
    have hread : Qualified (trimStart t) .output rest := Opens.qualified hqs ho
    obtain ⟨rest', hq⟩ := hread.exists_trimEnd
    have heq : Glsl.qualified? (trim t) = some (.output, rest') := hq.eq
    rw [hb.outputDeclaration? heq, qualifiedOutput?_eq_some.mpr heq]
    rfl
  · intro h
    obtain ⟨declaration, hd⟩ := Option.isSome_iff_exists.mp h
    obtain ⟨t, hb, hq⟩ := exists_behind hd
    obtain ⟨qs, rest, hqs, ho⟩ := opens_of_qualified? hq
    exact ⟨t, qs, rest, hb, hqs, ho⟩

instance (l : Text) : Decidable (StartsOutput l) := decidable_of_iff' _ startsOutput_iff

end Layouts

section Outputs

/-- A declaration of one or more outputs, `place` being what stands between the parentheses of its
layout. -/
structure OutputList where
  place : Option Text := none
  qualifiers : List Text := []
  precision : Option Text := none
  type : Text
  names : List Text
  deriving DecidableEq, Repr

structure OutputList.On (o : OutputList) (l : Text) : Prop where
  qualifiers : ∀ q ∈ o.qualifiers, q ∈ interpolationWords
  precision : ∀ p ∈ o.precision, p ∈ precisionWords
  type : Identifier o.type
  stands : ∃ t list, Placed (Opens t (o.qualifiers ++ [outWord])) o.place l ∧
    Opens list (o.precision.toList ++ [o.type]) t ∧ Declarators o.names list

/-- Of the lines, those that start as outputs are the declarations, in their order. -/
inductive Declares : List OutputList → List Text → Prop
  | nil : Declares [] []
  | output {o : OutputList} {os : List OutputList} {l : Text} {ls : List Text} (ho : o.On l)
      (h : Declares os ls) : Declares (o :: os) (l :: ls)
  | other {os : List OutputList} {l : Text} {ls : List Text} (hl : ¬ StartsOutput l)
      (h : Declares os ls) : Declares os (l :: ls)

variable {o : OutputList} {os : List OutputList}

theorem OutputList.On.outputName?_trim (h : o.On l) (hl : Live l) :
    outputName? (trim l) = o.names.head? := by
  obtain ⟨t, list, hplaced, ho, hd⟩ := h.stands
  obtain ⟨u, hu, hb⟩ := Behind.of_placed hplaced
  have hread : Qualified (trimStart u) .output t := Opens.qualified h.qualifiers hu
  have hq : Glsl.qualified? (trim u) = some (.output, trimEnd t) :=
    (hread.trimEnd (ho.not_allBlank (by simp))).eq
  have hlive : Live t := hl.of_infix (hu.suffix.trans hb.suffix).isInfix
  rw [outputName?_eq, hb.outputDeclaration? hq, qualifiedOutput?_eq_some.mpr hq, Option.bind_some]
  exact variableName?_declarators h.precision h.type ho hd hlive

theorem outputName?_trim_of_other (h : ¬ StartsOutput l) : outputName? (trim l) = none := by
  have hnone : outputDeclaration? (trim l) = none := by
    rw [startsOutput_iff] at h
    simpa using h
  rw [outputName?_eq, hnone]
  rfl

theorem Declares.filterMap (h : Declares os ls) (hl : ∀ l ∈ ls, Live l) :
    (ls.map trim).filterMap outputName? = os.filterMap (·.names.head?) := by
  induction h with
  | nil => rfl
  | output ho _ ih =>
      have hrest := ih fun m hm => hl m (List.mem_cons_of_mem _ hm)
      rw [List.map_cons, List.filterMap_cons, List.filterMap_cons, hrest,
        ho.outputName?_trim (hl _ List.mem_cons_self)]
  | other ho _ ih =>
      have hrest := ih fun m hm => hl m (List.mem_cons_of_mem _ hm)
      rw [List.map_cons, List.filterMap_cons, hrest, outputName?_trim_of_other ho]

/-- Of the outputs that are declared on a line the first is found, and no other unless it is the first
on a line as well. So all are found if each has a line of its own; and a program that is linked from
the feedback stage captures those that are found. -/
theorem varyings_of_declares (hl : contains lineMark s = false) (hb : contains openMark s = false)
    (h : Declares os (lines s)) :
    let first := os.filterMap (·.names.head?)
    let all := os.flatMap (·.names)
    outputNames s = first.eraseDups ∧
    (all ⊆ outputNames s ↔ ∀ o ∈ os, o.names.tail ⊆ first) ∧
    ((∀ o ∈ os, o.names.length = 1) → outputNames s = all.eraseDups) ∧
    ∀ (W P : Type) (x : Studio W P), allBlank (x.shaders.get .vertex).code = true →
      (x.shaders.get .feedbackVertex).code = s →
      (linkArgs? x).map (·.varyings) = if allBlank s then none else some (some first.eraseDups) := by
  intro first all
  have hl' := contains_eq_false_iff.mp hl
  have hb' := contains_eq_false_iff.mp hb
  have hlive : ∀ l ∈ lines s, Live l := fun l hm =>
    Live.of_infix ⟨hl', hb'⟩ (infix_of_mem_lines hm)
  have hnames : outputNames s = first.eraseDups := by
    rw [outputNames_eq, liveLines_of_no_mark hl' hb', h.filterMap hlive]
  refine ⟨hnames, ?_, fun hone => ?_, fun W P x hv hf => ?_⟩
  · rw [hnames]
    constructor
    · intro hall o ho name hname
      have hmem : name ∈ all := List.mem_flatMap.mpr ⟨o, ho, List.mem_of_mem_tail hname⟩
      exact List.mem_eraseDups.mp (hall hmem)
    · intro htail name hname
      obtain ⟨o, ho, hname⟩ := List.mem_flatMap.mp hname
      rw [List.mem_eraseDups]
      cases hn : o.names with
      | nil =>
          rw [hn] at hname
          cases hname
      | cons m ms =>
          rw [hn] at hname
          rcases List.mem_cons.mp hname with rfl | hname
          · exact List.mem_filterMap.mpr ⟨o, ho, by rw [hn]; rfl⟩
          · exact htail o ho (by rw [hn]; exact hname)
  · have hsingle : first = all := by
      refine (List.filterMap_eq_flatMap_toList _ os).trans (List.flatMap_congr fun o ho => ?_)
      obtain ⟨name, hname⟩ := List.length_eq_one_iff.mp (hone o ho)
      rw [hname]
      rfl
    rw [hnames, hsingle]
  · rw [linkArgs?, hf, hv, hnames]
    cases allBlank s <;> rfl

def feeding (code : Text) : Studio Unit Unit :=
  ({} : Studio Unit Unit).updateShader .feedbackVertex fun shader => { shader with code := code }

def spread : Text := unlines [
  "in vec3 position;".toList,
  "layout(location = 1) flat out highp vec4 a[2], b ;".toList,
  "void main() { a[0] = vec4(position, 1.0); }".toList,
  "out vec2 b;".toList]

def spreadFirst : OutputList :=
  { place := some "location = 1".toList, qualifiers := ["flat".toList],
    precision := some "highp".toList, type := "vec4".toList, names := ["a".toList, "b".toList] }

def spreadSecond : OutputList := { type := "vec2".toList, names := ["b".toList] }

theorem on_spreadFirst :
    spreadFirst.On "layout(location = 1) flat out highp vec4 a[2], b ;".toList := by
  refine ⟨by decide, by decide, by decide, " highp vec4 a[2], b ;".toList, " a[2], b ;".toList,
    .laid (g := []) (h := []) rfl rfl (by decide) ?_, ?_, ?_⟩
  · exact .word (g := [' ']) (by decide) (by decide) (by decide)
      (.word (g := [' ']) (by decide) (by decide) (by decide) (.rest (by decide)))
  · exact .word (g := [' ']) (by decide) (by decide) (by decide)
      (.word (g := [' ']) (by decide) (by decide) (by decide) (.rest (by decide)))
  · exact .comma (g := [' ']) (b := "[2]".toList) (by decide) (by decide)
      (.index (g := []) (t := ['2']) rfl (.cons (by decide) .nil) (.blank rfl))
      (.last (g := [' ']) (b := [' ']) (z := []) (by decide) (by decide) (.blank (by decide)) rfl)

theorem on_spreadSecond : spreadSecond.On "out vec2 b;".toList := by
  refine ⟨by decide, by decide, by decide, " vec2 b;".toList, " b;".toList, .bare ?_, ?_, ?_⟩
  · exact .word (g := []) (by decide) (by decide) (by decide) (.rest (by decide))
  · exact .word (g := [' ']) (by decide) (by decide) (by decide) (.rest (by decide))
  · exact .last (g := [' ']) (b := []) (z := []) (by decide) (by decide) (.blank rfl) rfl

theorem varyings_spread : contains lineMark spread = false ∧ contains openMark spread = false ∧
    Declares [spreadFirst, spreadSecond] (lines spread) ∧
    outputNames spread = ["a".toList, "b".toList] ∧
    (linkArgs? (feeding spread)).map (·.varyings) = some (some ["a".toList, "b".toList]) ∧
    Declares [spreadSecond] (lines "out vec2 b;".toList) ∧
    outputNames "out vec2 b;".toList = ["b".toList] := by
  have hl : contains lineMark spread = false := by decide +kernel
  have hb : contains openMark spread = false := by decide +kernel
  have hd : Declares [spreadFirst, spreadSecond] (lines spread) := by
    rw [spread, lines_unlines (by decide) (by decide)]
    exact .other (by decide +kernel) (.output on_spreadFirst
      (.other (by decide +kernel) (.output on_spreadSecond .nil)))
  obtain ⟨hnames, _, _, hlinked⟩ := varyings_of_declares hl hb hd
  have hone : Declares [spreadSecond] (lines "out vec2 b;".toList) := .output on_spreadSecond .nil
  refine ⟨hl, hb, hd, hnames, hlinked Unit Unit (feeding spread) rfl rfl, hone, ?_⟩
  exact (varyings_of_declares (by decide) (by decide) hone).2.2.1 (by decide)

def pair : OutputList := { type := "vec4".toList, names := ["a".toList, "b".toList] }

theorem on_pair : pair.On "out vec4 a, b;".toList := by
  refine ⟨by decide, by decide, by decide, " vec4 a, b;".toList, " a, b;".toList, .bare ?_, ?_, ?_⟩
  · exact .word (g := []) (by decide) (by decide) (by decide) (.rest (by decide))
  · exact .word (g := [' ']) (by decide) (by decide) (by decide) (.rest (by decide))
  · exact .comma (g := [' ']) (b := []) (by decide) (by decide) (.blank rfl)
      (.last (g := [' ']) (b := []) (z := []) (by decide) (by decide) (.blank rfl) rfl)

theorem varyings_pair : contains lineMark "out vec4 a, b;".toList = false ∧
    contains openMark "out vec4 a, b;".toList = false ∧
    Declares [pair] (lines "out vec4 a, b;".toList) ∧ "b".toList ∈ pair.names ∧
    outputNames "out vec4 a, b;".toList = ["a".toList] ∧
    (linkArgs? (feeding "out vec4 a, b;".toList)).map (·.varyings) = some (some ["a".toList]) :=
  ⟨by decide, by decide, .output on_pair .nil, by decide, by decide +kernel, by decide +kernel⟩

end Outputs

end ShaderPipeline.Studio
