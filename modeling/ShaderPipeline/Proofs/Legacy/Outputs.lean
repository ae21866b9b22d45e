import ShaderPipeline.Proofs.Legacy.AfterOutput
import ShaderPipeline.Proofs.Legacy.Comments
import ShaderPipeline.Proofs.Legacy.Varyings

namespace ShaderPipeline.Legacy

open Text Glsl

variable {stage : Stage} {p : Progress} {raw s t name part declaration rest : Text}
variable {output : Option Text} {ls live : List Text}

def openingWords : List Text := layoutWord :: inWord :: outWord :: interpolationWords

/-- A name that is an identifier: it is made of word characters and is none of the words by which
declarations are recognized. -/
def Ordinary (name : Text) : Prop := Token notWord name ∧ name ∉ openingWords

instance (name : Text) : Decidable (Ordinary name) :=
  inferInstanceAs (Decidable (Token notWord name ∧ name ∉ openingWords))

theorem leadingWord?_sinkName : leadingWord? sinkName = some (sinkName, []) := by decide

section Renaming

variable (hname : Ordinary name)
include hname

theorem renameRun_opening {word : Text} (hword : word ∈ openingWords) :
    renameRun name sinkName word = word := by
  apply if_neg
  rintro rfl
  exact hname.2 hword

theorem leadingWord?_renamed_iff {word : Text} (hword : word ∈ openingWords) :
    (∃ rest, leadingWord? (replaceWord name sinkName t) = some (word, rest)) ↔
      ∃ rest, leadingWord? t = some (word, rest) := by
  have hsink : word ≠ sinkName := by
    rintro rfl
    revert hword
    decide
  constructor
  · rintro ⟨rest, h⟩
    cases ht : leadingWord? t with
    | none =>
        rcases leadingWord?_replaceWord_none hname.1 leadingWord?_sinkName ht with hn | ⟨_, hn⟩
        · cases hn.symm.trans h
        · cases hn.symm.trans h
          contradiction
    | some q =>
        obtain ⟨w, more⟩ := q
        have hw := leadingWord?_replaceWord hname.1 leadingWord?_sinkName ht
        rw [h, renameRun] at hw
        split at hw
        · cases hw
          contradiction
        · cases hw
          exact ⟨more, rfl⟩
  · rintro ⟨rest, h⟩
    have hw := leadingWord?_replaceWord hname.1 leadingWord?_sinkName h
    rw [renameRun_opening hname hword] at hw
    exact ⟨_, hw⟩

theorem qualified?_renamed (t : Text) : qualified? (replaceWord name sinkName t) =
    (qualified? t).map fun q => (q.1, replaceWord name sinkName q.2) := by
  induction hn : t.length using Nat.strong_induction_on generalizing t with
  | _ n ih =>
      cases ht : leadingWord? t with
      | none =>
          have hnone : qualified? t = none := by rw [qualified?_cases, ht]
          rw [hnone]
          rcases leadingWord?_replaceWord_none hname.1 leadingWord?_sinkName ht with h | ⟨_, h⟩
          · rw [qualified?_cases, h]
            rfl
          · exact qualified?_of_word h (by decide) (by decide)
      | some q =>
          obtain ⟨word, rest⟩ := q
          have hword := leadingWord?_replaceWord hname.1 leadingWord?_sinkName ht
          by_cases hopening : word ∈ openingWords
          · rw [renameRun_opening hname hopening] at hword
            rw [qualified?_cases, qualified?_cases t, hword, ht]
            dsimp only
            cases Storage.ofWord? word with
            | some storage => rfl
            | none =>
                dsimp only
                split
                · have hlt : (trimStart rest).length < n := by
                    have hsub : (trimStart rest).length ≤ rest.length :=
                      (List.dropWhile_sublist _).length_le
                    have hrest := length_leadingWord?_lt ht
                    omega
                  rw [trimStart_replaceWord (by decide)]
                  exact ih _ hlt _ rfl
                · rfl
          · have hplain {w : Text} (hw : w ∉ openingWords) :
                Storage.ofWord? w = none ∧ w ∉ interpolationWords := by
              simp only [openingWords, List.mem_cons, not_or] at hw
              refine ⟨?_, hw.2.2.2⟩
              rw [Storage.ofWord?, if_neg hw.2.1, if_neg hw.2.2.1]
            rw [qualified?_of_word ht (hplain hopening).1 (hplain hopening).2]
            rw [renameRun] at hword
            split at hword
            · exact qualified?_of_word hword (by decide) (by decide)
            · exact qualified?_of_word hword (hplain hopening).1 (hplain hopening).2

theorem pastLayout?_renamed (t : Text) : pastLayout? (replaceWord name sinkName t) =
    (pastLayout? t).map (replaceWord name sinkName) := by
  have hclosing : ¬ [')'] <:+: name := by
    intro h
    have hword := isWord_of_whole hname.1.2 ')' (h.subset List.mem_cons_self)
    revert hword
    decide
  have hforeign : Foreign [')'] sinkName := foreign_sinkName ')' rfl (by decide) (by decide)
  rw [pastLayout?, pastLayout?, cut?_replaceWord (by decide) hclosing hname.1.1 hforeign]
  cases cut? [')'] t with
  | none => rfl
  | some q => exact congrArg some (trim_replaceWord hname.1.1 (by decide) q.2)

theorem outputDeclaration?_renamed (t : Text) : outputDeclaration? (replaceWord name sinkName t) =
    (outputDeclaration? t).map (replaceWord name sinkName) := by
  have hlayout : startsWithWord layoutWord (replaceWord name sinkName t) =
      startsWithWord layoutWord t := by
    rw [Bool.eq_iff_iff, startsWithWord_iff_leadingWord? (by decide),
      startsWithWord_iff_leadingWord? (by decide)]
    exact leadingWord?_renamed_iff hname (by decide)
  have hqualified (u : Text) : qualifiedOutput? (replaceWord name sinkName u) =
      (qualifiedOutput? u).map (replaceWord name sinkName) := by
    rw [qualifiedOutput?, qualifiedOutput?, qualified?_renamed hname]
    rcases qualified? u with _ | ⟨_ | _, _⟩ <;> rfl
  rw [outputDeclaration?, outputDeclaration?, hlayout]
  split
  · rw [pastLayout?_renamed hname]
    cases pastLayout? t with
    | none => rfl
    | some rest => exact hqualified rest
  · exact hqualified t

end Renaming

section Lines

theorem reading_of_outputDeclaration? (h : outputDeclaration? t = some declaration) :
    ∃ part, reading .fragment false t = .output part ∧
      qualified? part = some (.output, declaration) := by
  obtain ⟨part, hlayout, hbody, hq⟩ : ∃ part, layout t = .code ∧ bodyPart? t = some part ∧
      qualified? part = some (.output, declaration) := by
    rw [outputDeclaration?] at h
    split at h
    · next hlaid =>
        obtain ⟨rest, hword⟩ := (startsWithWord_iff_leadingWord? (by decide)).mp hlaid
        cases hp : pastLayout? t with
        | none => rw [hp] at h; cases h
        | some line =>
            rw [hp] at h
            have hq := qualifiedOutput?_eq_some.mp h
            refine ⟨line, layout_of_leadingWord? hword, ?_, hq⟩
            rw [bodyPart?, if_pos hlaid, hp]
            dsimp only
            rw [splitQualifier, hq]
            rfl
    · next hlaid =>
        have hq := qualifiedOutput?_eq_some.mp h
        obtain ⟨word, rest, hword⟩ : ∃ word rest, leadingWord? t = some (word, rest) := by
          cases ht : leadingWord? t with
          | none => rw [qualified?_cases, ht] at hq; cases hq
          | some q => exact ⟨q.1, q.2, rfl⟩
        have hattribute : startsWithWord attributeWord t = false :=
          startsWithWord_of_qualified? hq (by decide) (by decide) (by decide)
        have huniform : startsWithWord uniformWord t = false :=
          startsWithWord_of_qualified? hq (by decide) (by decide) (by decide)
        refine ⟨t, layout_of_leadingWord? hword, ?_, hq⟩
        rw [bodyPart?, if_neg hlaid, hattribute, huniform]
        rfl
  refine ⟨part, ?_, hq⟩
  rw [reading, if_neg (by decide), hlayout]
  dsimp only
  rw [hbody]
  dsimp only
  rw [hq]
  rfl

theorem trim_inspected (hname : ∀ name ∈ p.output, name ≠ []) (raw : Text) :
    trim (inspected p raw) = renamed p.output (trim raw) := by
  rw [inspected]
  cases ho : p.output with
  | none => exact trim_trimEnd raw
  | some name =>
      have htrim : trim (replaceWord name sinkName (trimEnd raw)) =
          replaceWord name sinkName (trim (trimEnd raw)) :=
        trim_replaceWord (hname name ho) (by decide) _
      rw [trim_trimEnd] at htrim
      exact htrim

/-- What becomes of a line in a fragment shader without comments. -/
inductive Counted (p : Progress) (raw : Text) : Prop
  | quiet (outcome : Outcome) (hd : outputDeclaration? (trim (inspected p raw)) = none)
      (h : recastLine {} .fragment p raw = .ok (outcome, p))
  | first (outcome : Outcome) {declaration : Text}
      (hd : outputDeclaration? (trim (inspected p raw)) = some declaration)
      (hp : p.declared = false) (h : recastLine {} .fragment p raw = .ok (outcome,
        { p with declared := true, output := (variableName? declaration).or p.output }))
  | second {part declaration : Text}
      (hd : outputDeclaration? (trim (inspected p raw)) = some declaration)
      (hp : p.declared = true)
      (h : recastLine {} .fragment p raw = .error (.secondOutput part))

theorem counted (hp : p.inBlock = false) (hb : ¬ openMark <:+: raw) : Counted p raw := by
  have hopen : ¬ openMark <:+: trim (inspected p raw) := by
    intro hi
    have hline := (patched_renamed p.output (trimEnd raw)).holds foreign_openMark.apart
      (hi.trans (infix_trim _))
    exact hb (hline.trans (infix_trimEnd raw))
  have hr := recasts .fragment p (inspected p raw)
  rw [← recastLine_default] at hr
  cases hd : outputDeclaration? (trim (inspected p raw)) with
  | some declaration =>
      obtain ⟨part, hread, hq⟩ := reading_of_outputDeclaration? hd
      rw [hp, hread] at hr
      generalize hline : recastLine {} .fragment p raw = o at hr
      cases hr with
      | again _ hdeclared => exact .second hd hdeclared hline
      | unnamed _ hdeclared _ hq' hn =>
          cases hq.symm.trans hq'
          refine .first (.unnamed part) hd hdeclared ?_
          rw [hline, hn, Option.none_or]
      | named _ hdeclared _ hq' hn =>
          cases hq.symm.trans hq'
          refine .first .drop hd hdeclared ?_
          rw [hline, hn, Option.some_or]
  | none =>
      have hno (part : Text) :
          reading .fragment p.inBlock (trim (inspected p raw)) ≠ .output part := by
        intro hread
        obtain ⟨_, hbody, declaration, hq⟩ := output_of_reading hread
        rw [outputDeclaration?_of_bodyPart? hbody hq] at hd
        cases hd
      generalize hread : reading .fragment p.inBlock (trim (inspected p raw)) = r at hr
      generalize hline : recastLine {} .fragment p raw = o at hr
      cases hr with
      | again | unnamed | named => exact absurd hread (hno _)
      | inside h => rw [hp] at h; cases h
      | @comment _ staysOpen hs =>
          obtain rfl : staysOpen = false := by
            rw [← Bool.not_eq_true]
            exact fun h => hopen (hs h)
          obtain ⟨output, declared, inBlock⟩ := p
          cases hp
          exact .quiet _ hd hline
      | blank | plain | dropped | varying => exact .quiet _ hd hline

end Lines

section Run

/-- Among the live lines one that declares an output is followed by one that does so after the name was
replaced in it. -/
def declaresSecond : List Text → Bool
  | [] => false
  | l :: rest =>
    match outputDeclaration? l with
    | none => declaresSecond rest
    | some declaration =>
      rest.any fun m => (outputDeclaration? (renamed (variableName? declaration) m)).isSome

structure Refuses (second : Bool) (b : Body) : Prop where
  iff : b.fault.isSome = second
  reason : ∀ fault ∈ b.fault, ∃ part, fault = .secondOutput part

theorem Refuses.put {second : Bool} {b : Body} (h : Refuses second b) (outcome : Outcome) :
    Refuses second (b.put outcome) := by
  have hfault := fault_put outcome b
  constructor
  · rw [hfault]
    exact h.iff
  · rw [hfault]
    exact h.reason

theorem refuses_second {part : Text} : Refuses true { fault := some (.secondOutput part) } := by
  constructor
  · rfl
  · rintro _ ⟨⟩
    exact ⟨part, rfl⟩

theorem refuses_declared (hname : ∀ name ∈ output, name ≠ []) (hb : ∀ l ∈ ls, ¬ openMark <:+: l) :
    Refuses ((ls.map trim).any fun m => (outputDeclaration? (renamed output m)).isSome)
      (recastFrom {} .fragment ⟨output, true, false⟩ ls) := by
  induction ls with
  | nil => exact ⟨rfl, fun fault h => by cases h⟩
  | cons raw ls ih =>
      have htrim : trim (inspected ⟨output, true, false⟩ raw) = renamed output (trim raw) :=
        trim_inspected hname raw
      rw [List.map_cons, List.any_cons, ← htrim, recastFrom]
      rcases counted (p := ⟨output, true, false⟩) rfl (hb raw List.mem_cons_self) with
        ⟨outcome, hd, h⟩ | ⟨_, _, hp, _⟩ | ⟨hd, _, h⟩
      · rw [hd, h]
        exact (ih fun l hl => hb l (List.mem_cons_of_mem raw hl)).put outcome
      · cases hp
      · rw [hd, h]
        exact refuses_second

theorem ne_nil_of_variableName? (h : variableName? declaration = some name) : name ≠ [] :=
  (token_of_variableName? h).1

theorem refuses_recast (hb : ∀ l ∈ ls, ¬ openMark <:+: l) :
    Refuses (declaresSecond (ls.map trim)) (recast {} .fragment ls) := by
  rw [recast]
  induction ls with
  | nil => exact ⟨rfl, fun fault h => by cases h⟩
  | cons raw ls ih =>
      have htrim : trim (inspected {} raw) = trim raw :=
        trim_inspected (p := {}) (fun name hn => by cases hn) raw
      have hrest := fun l hl => hb l (List.mem_cons_of_mem raw hl)
      rw [List.map_cons, declaresSecond, ← htrim, recastFrom]
      rcases counted (p := {}) rfl (hb raw List.mem_cons_self) with
        ⟨outcome, hd, h⟩ | ⟨outcome, hd, _, h⟩ | ⟨_, hp, _⟩
      · rw [hd, h]
        exact (ih hrest).put outcome
      · rw [hd, h, Option.or_none]
        exact (refuses_declared (fun name => ne_nil_of_variableName?) hrest).put outcome
      · cases hp

end Run

section Names

theorem declaresSecond_iff
    (h : ∀ name ∈ (live.filterMap outputDeclaration?).head?.bind variableName?, Ordinary name) :
    declaresSecond live = true ↔ 2 ≤ (live.filterMap outputDeclaration?).length := by
  induction live with
  | nil => decide
  | cons l live ih =>
      rw [declaresSecond]
      cases hd : outputDeclaration? l with
      | none =>
          rw [List.filterMap_cons_none hd] at h ⊢
          exact ih h
      | some declaration =>
          rw [List.filterMap_cons_some hd] at h ⊢
          have hsame (m : Text) : (outputDeclaration? (renamed (variableName? declaration) m)).isSome =
              (outputDeclaration? m).isSome := by
            cases hn : variableName? declaration with
            | none => rfl
            | some name =>
                have hrenamed := outputDeclaration?_renamed (h name hn) m
                rw [renamed, hrenamed, Option.isSome_map]
          simp only [hsame, List.any_eq_true, List.length_cons]
          constructor
          · rintro ⟨m, hm, hsome⟩
            obtain ⟨d, hd⟩ := Option.isSome_iff_exists.mp hsome
            have hpos := List.length_pos_of_mem (List.mem_filterMap.mpr ⟨m, hm, hd⟩)
            omega
          · intro hlength
            obtain ⟨d, hd⟩ := List.exists_mem_of_length_pos (Nat.lt_of_succ_lt_succ hlength)
            obtain ⟨m, hm, hsome⟩ := List.mem_filterMap.mp hd
            exact ⟨m, hm, by rw [hsome]; rfl⟩

theorem length_foldl_names (xs names : List Text) :
    (xs.foldl (fun names name => if names.elem name then names else names ++ [name]) names).length ≤
      names.length + xs.length := by
  induction xs generalizing names with
  | nil => exact le_rfl
  | cons x xs ih =>
      rw [List.foldl_cons, List.length_cons]
      split
      · have hrest := ih names
        omega
      · have hrest := ih (names ++ [x])
        rw [List.length_append, List.length_singleton] at hrest
        omega

theorem foldl_names_of_nodup {xs : List Text} (names : List Text) (h : (names ++ xs).Nodup) :
    xs.foldl (fun names name => if names.elem name then names else names ++ [name]) names =
      names ++ xs := by
  induction xs generalizing names with
  | nil => exact (List.append_nil names).symm
  | cons x xs ih =>
      have hx : x ∉ names := by
        intro hx
        exact (List.nodup_append.mp h).2.2 x hx x List.mem_cons_self rfl
      have hnew : names.elem x = false := by simpa using hx
      rw [List.foldl_cons, hnew, if_neg (by decide), ih _ (by simpa using h), List.append_assoc]
      rfl

theorem filterMap_outputName? (live : List Text) : live.filterMap outputName? =
    (live.filterMap outputDeclaration?).filterMap variableName? := by
  rw [List.filterMap_filterMap]
  exact List.filterMap_congr fun l _ => outputName?_eq l

theorem length_outputNames (s : Text) :
    (outputNames s).length ≤ ((liveLines s).filterMap outputDeclaration?).length := by
  have hnames := length_foldl_names ((liveLines s).filterMap outputName?) []
  rw [List.length_nil, Nat.zero_add] at hnames
  rw [outputNames]
  rw [filterMap_outputName?] at hnames ⊢
  exact hnames.trans (List.length_filterMap_le _ _)

theorem length_outputNames_of_nodup
    (hn : ∀ d ∈ (liveLines s).filterMap outputDeclaration?, (variableName? d).isSome = true)
    (hd : ((liveLines s).filterMap outputName?).Nodup) :
    (outputNames s).length = ((liveLines s).filterMap outputDeclaration?).length := by
  rw [outputNames, foldl_names_of_nodup [] hd, List.nil_append, filterMap_outputName?,
    List.length_filterMap_eq_countP, List.countP_eq_length.mpr hn]

end Names

section Text

/-- A fragment source without comments is refused, for a second output, just if another line declares
one after the name of the first was replaced in it; otherwise it is converted. If the first has an
ordinary name, or none, this is to say that two lines declare one, so it is refused whenever two names
are found; and only then, if every one of the lines gives a name and no two give the same. -/
theorem refused_iff {W : Type} [Records W] (w : W) {i : Interface}
    (hl : contains lineMark s = false) (hb : contains openMark s = false)
    (hindex : contains "gl_VertexID".toList s = false)
    (hmacros : contains "glslify".toList s = false) (hi : scan s = .ok i) :
    let outcome := ((convertAndExpand {} .fragment none none s : Act W Text).outcome w).1
    let refused := ∃ fault, outcome = .error fault ∧ fault.family = .operation
    let declarations := (liveLines s).filterMap outputDeclaration?
    (refused ↔ declaresSecond (liveLines s) = true) ∧ (¬ refused → ∃ t, outcome = .ok t) ∧
    ((∀ name ∈ declarations.head?.bind variableName?, Ordinary name) →
      (refused ↔ 2 ≤ declarations.length) ∧ (2 ≤ (outputNames s).length → refused) ∧
      ((∀ d ∈ declarations, (variableName? d).isSome = true) →
        ((liveLines s).filterMap outputName?).Nodup →
        (refused ↔ 2 ≤ (outputNames s).length))) := by
  have houtcome := outcome_of_plain w (show Stage.fragment.convertible = true from rfl) hindex hmacros
  rw [hi] at houtcome
  intro outcome refused declarations
  have hopen : ∀ l ∈ lines s, ¬ openMark <:+: l := fun l hl hm =>
    contains_eq_false_iff.mp hb (hm.trans (infix_of_mem_lines hl))
  have hrefuses := refuses_recast hopen
  rw [← liveLines_of_no_mark (contains_eq_false_iff.mp hl) (contains_eq_false_iff.mp hb)] at hrefuses
  have hcases : (∃ part, outcome = .error (.secondOutput part)) ∧ declaresSecond (liveLines s) = true ∨
      (∃ t, outcome = .ok t) ∧ declaresSecond (liveLines s) = false := by
    rw [← hrefuses.iff]
    cases hfault : (recast {} .fragment (lines s)).fault with
    | some fault =>
        obtain ⟨part, rfl⟩ := hrefuses.reason fault hfault
        rw [Except.bind, Body.under, Body.text, hfault] at houtcome
        exact .inl ⟨⟨part, houtcome⟩, rfl⟩
    | none =>
        rw [Except.bind, Body.under, Body.text, hfault] at houtcome
        exact .inr ⟨⟨_, houtcome⟩, rfl⟩
  have hiff : refused ↔ declaresSecond (liveLines s) = true := by
    rcases hcases with ⟨⟨part, ho⟩, hsecond⟩ | ⟨⟨t, ho⟩, hsecond⟩
    · exact iff_of_true ⟨_, ho, rfl⟩ hsecond
    · refine iff_of_false ?_ (by rw [hsecond]; decide)
      rintro ⟨fault, hf, _⟩
      cases ho.symm.trans hf
  refine ⟨hiff, fun hno => ?_, fun hordinary => ?_⟩
  · rcases hcases with ⟨⟨part, ho⟩, _⟩ | ⟨ht, _⟩
    · exact absurd ⟨_, ho, rfl⟩ hno
    · exact ht
  · have hcount : refused ↔ 2 ≤ declarations.length := hiff.trans (declaresSecond_iff hordinary)
    refine ⟨hcount, fun hnames => ?_, fun hnamed hnodup => ?_⟩
    · exact hcount.mpr (hnames.trans (length_outputNames s))
    · rw [hcount, length_outputNames_of_nodup hnamed hnodup]

def twoOutputs : Text := unlines [
  "layout(location = 0) out highp vec4 color;".toList,
  "in vec2 uv;".toList,
  "flat out vec4 color2;".toList,
  "void main() { color = color2 = vec4(uv, 0.0, 1.0); }".toList]

theorem refused_twoOutputs : outputNames twoOutputs = ["color".toList, "color2".toList] ∧
    ∃ fault, ((convertAndExpand {} .fragment none none twoOutputs : Act Unit Text).outcome ()).1 =
      .error fault ∧ fault.family = .operation := by
  have hnames : outputNames twoOutputs = ["color".toList, "color2".toList] := by decide +kernel
  have hi : scan twoOutputs = .ok {} := by decide +kernel
  obtain ⟨_, _, hordinary⟩ := refused_iff () (s := twoOutputs) (by decide +kernel) (by decide +kernel)
    (by decide +kernel) (by decide +kernel) hi
  refine ⟨hnames, (hordinary ?_).2.1 ?_⟩
  · have hfirst : ((liveLines twoOutputs).filterMap outputDeclaration?).head?.bind variableName? =
        some "color".toList := by decide +kernel
    rw [hfirst]
    rintro _ ⟨⟩
    decide +kernel
  · rw [hnames]
    decide

def twoArms : Text := unlines [
  "#ifdef WIDE".toList,
  "out vec4 color;".toList,
  "#else".toList,
  "out vec4 color;".toList,
  "#endif".toList,
  "void main() { color = vec4(1.0); }".toList]

theorem refused_twoArms : contains lineMark twoArms = false ∧ contains openMark twoArms = false ∧
    contains "gl_VertexID".toList twoArms = false ∧ contains "glslify".toList twoArms = false ∧
    scan twoArms = .ok {} ∧ outputNames twoArms = ["color".toList] ∧
    ((convertAndExpand {} .fragment none none twoArms : Act Unit Text).outcome ()).1 =
      .error (.secondOutput "out vec4 gl_FragColor;".toList) ∧
    (Fault.secondOutput "out vec4 gl_FragColor;".toList).family = .operation :=
  ⟨by decide +kernel, by decide +kernel, by decide +kernel, by decide +kernel, by decide +kernel,
    by decide +kernel, by decide +kernel, rfl⟩

end Text

end ShaderPipeline.Legacy
