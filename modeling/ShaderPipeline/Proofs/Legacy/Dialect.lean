import ShaderPipeline.Proofs.Legacy.Lines

namespace ShaderPipeline.Legacy

open Text Glsl

variable {l line part t : Text}

/-- A line of a converted body: it is in the dialect, and declares nothing. -/
structure BodyLine (l : Text) : Prop where
  newline : '\n' ∉ l
  block : ¬ openMark <:+: l
  dialect : InDialect (liveHead l)
  quiet : declares (liveHead l) = false

section Line

theorem bodyLine_of_trim (hn : '\n' ∉ l) (hb : ¬ openMark <:+: l)
    (hv : after? versionDirective (trim l) = none) (hl : startsWithWord layoutWord (trim l) = false)
    (hq : qualified? (trim l) = none) (hd : declares (trim l) = false) : BodyLine l := by
  rw [declares, Bool.or_eq_false_iff] at hd
  refine ⟨hn, hb, ⟨after?_liveHead hv, startsWithWord_liveHead hl, ?_⟩, ?_⟩
  · exact splitQualifier_eq_none (qualified?_liveHead hq)
  · rw [declares, startsWithWord_liveHead hd.1, startsWithWord_liveHead hd.2]
    rfl

theorem bodyLine_nil : BodyLine [] :=
  bodyLine_of_trim (by simp) (by decide) rfl rfl qualified?_nil rfl

theorem qualified?_of_not_startsWord {c : Char} (h : startsWord c = false) (t : Text) :
    qualified? (c :: t) = none := by
  rw [qualified?_cases, leadingWord?, if_neg (by simp [h])]

theorem bodyLine_of_comment (hn : '\n' ∉ l) (hb : ¬ openMark <:+: l) (hc : lineMark <+: trim l) :
    BodyLine l := by
  obtain ⟨rest, hr⟩ := hc
  have htrim : trim l = '/' :: '/' :: rest := hr.symm
  refine bodyLine_of_trim hn hb ?_ ?_ ?_ ?_
  · rw [htrim]; rfl
  · rw [htrim]; rfl
  · rw [htrim]; exact qualified?_of_not_startsWord (by decide) _
  · rw [htrim]; rfl

theorem not_openMark_varying {declaration : Text} (hb : ¬ openMark <:+: line)
    (hd : declaration <:+: line) : ¬ openMark <:+: indent line ++ varyingWord ++ declaration := by
  have hindent : indent line <+: line := List.takeWhile_prefix isBlank
  have hsplit : indent line ++ varyingWord ++ declaration =
      indent line ++ 'v' :: ("aryin".toList ++ 'g' :: declaration) := List.append_assoc _ _ _
  rw [hsplit]
  intro hi
  rcases infix_append_cons (by decide) hi with hi | hi
  · exact hb (hi.trans hindent.isInfix)
  · rcases infix_append_cons (by decide) hi with hi | hi
    · exact absurd hi (by decide)
    · exact hb (hi.trans hd)

theorem qualified?_varying {declaration : Text} (he : endsWord declaration = true) :
    qualified? (varyingWord ++ declaration) = none := by
  have hlead : leadingWord? varyingWord = some (varyingWord, []) := by decide
  exact qualified?_of_word (leadingWord?_append hlead he) rfl (by decide)

theorem bodyLine_varying {declaration : Text} (hn : '\n' ∉ line) (hb : ¬ openMark <:+: line)
    (hd : declaration <:+: line) (he : endsWord declaration = true) :
    BodyLine (indent line ++ varyingWord ++ declaration) := by
  have htrim := trim_varying line declaration
  refine bodyLine_of_trim (newline_not_mem_varying hn hd) (not_openMark_varying hb hd) ?_ ?_ ?_ ?_
  · rw [htrim]; rfl
  · rw [htrim]; rfl
  · rw [htrim]; exact qualified?_varying (endsWord_trimEnd he)
  · rw [htrim]; rfl

end Line

section Recast

variable {stage : Stage} {p p' : Progress} {outcome : Outcome}

theorem layout_of_no_open (h : ¬ openMark <:+: t) : layout t =
    if (after? versionDirective t).isSome then .version
    else if (after? lineMark t).isSome then .comment false
    else if t = [] then .blank else .code := by
  have ha : after? openMark t = none := after?_eq_none_iff.mpr fun hp => h hp.isInfix
  rw [layout, ha]
  rfl

theorem bodyPart?_eq_some (h : bodyPart? t = some part) :
    (part = t ∧ startsWithWord layoutWord t = false ∧ declares t = false) ∨
      (part <:+: t ∧ ∃ declaration, qualified? part = some (.output, declaration)) := by
  rw [bodyPart?] at h
  split at h
  · refine .inr ?_
    unfold pastLayout? at h
    cases hc : cut? [')'] t with
    | none => rw [hc] at h; cases h
    | some c =>
        obtain ⟨head, rest⟩ := c
        rw [hc] at h
        dsimp only [Option.map_some] at h
        split at h
        case isFalse => cases h
        case isTrue hs =>
            cases h
            refine ⟨(infix_trim rest).trans ?_, ?_⟩
            · rw [eq_append_of_cut? hc]
              exact (List.suffix_append _ rest).isInfix
            · rw [splitQualifier] at hs
              cases hq : qualified? (trim rest) with
              | none => rw [hq] at hs; cases hs
              | some q =>
                  obtain ⟨storage, declaration⟩ := q
                  rw [hq] at hs
                  cases hs
                  exact ⟨declaration, rfl⟩
  · next hl =>
      split at h
      case isTrue => cases h
      case isFalse hd =>
          cases h
          exact .inl ⟨rfl, Bool.eq_false_iff.mpr hl, Bool.eq_false_iff.mpr hd⟩

theorem trim_bodyPart? (h : bodyPart? t = some part) (ht : trim t = t) : trim part = part := by
  rw [bodyPart?] at h
  split at h
  · unfold pastLayout? at h
    cases hc : cut? [')'] t with
    | none => rw [hc] at h; cases h
    | some c =>
        rw [hc] at h
        dsimp only [Option.map_some] at h
        split at h
        · cases h
          exact trim_trim _
        · cases h
  · split at h
    · cases h
    · cases h
      exact ht

theorem infix_of_bodyPart? {declaration : Text} {storage : Storage}
    (hb : bodyPart? (trim t) = some part) (hq : qualified? part = some (storage, declaration)) :
    declaration <:+: t := by
  have hpart : part <:+: trim t := by
    rcases bodyPart?_eq_some hb with ⟨rfl, _⟩ | ⟨hi, _⟩
    · exact List.infix_refl _
    · exact hi
  exact ((suffix_of_qualified? hq).isInfix.trans hpart).trans (infix_trim t)

theorem recastCode_bodyLine (hn : '\n' ∉ line) (hb : ¬ openMark <:+: line)
    (hv : after? versionDirective (trim line) = none)
    (h : recastCode stage p line (trim line) = .ok (outcome, p')) :
    p'.inBlock = p.inBlock ∧ ∀ l, outcome = .keep l → BodyLine l := by
  rw [recastCode] at h
  cases hp : bodyPart? (trim line) with
  | none =>
      rw [hp] at h
      cases h
      exact ⟨rfl, by simp⟩
  | some part =>
      rw [hp] at h
      dsimp only at h
      cases hq : qualified? part with
      | none =>
          rw [hq] at h
          cases h
          refine ⟨rfl, ?_⟩
          rintro l ⟨⟩
          rcases bodyPart?_eq_some hp with ⟨rfl, hl, hd⟩ | ⟨_, _, ho⟩
          · exact bodyLine_of_trim hn hb hv hl hq hd
          · rw [hq] at ho
            cases ho
      | some q =>
          obtain ⟨storage, declaration⟩ := q
          have hd := infix_of_bodyPart? hp hq
          rw [hq] at h
          dsimp only at h
          split at h
          · split at h
            · cases h
            · split at h <;> cases h <;> exact ⟨rfl, by simp⟩
          · cases h
            refine ⟨rfl, ?_⟩
            rintro l ⟨⟩
            exact bodyLine_varying hn hb hd (endsWord_of_qualified? hq)

theorem recastRenamed_bodyLine (hn : '\n' ∉ line) (hb : ¬ openMark <:+: line)
    (hp : p.inBlock = false) (h : recastRenamed stage p line = .ok (outcome, p')) :
    p'.inBlock = false ∧ ∀ l, outcome = .keep l → BodyLine l := by
  have hopen : ¬ openMark <:+: trim line := fun hi => hb (hi.trans (infix_trim line))
  rw [recastRenamed, hp, if_neg (by decide), layout_of_no_open hopen] at h
  by_cases hv : (after? versionDirective (trim line)).isSome = true
  · rw [if_pos hv] at h
    cases h
    exact ⟨hp, by simp⟩
  · rw [if_neg hv] at h
    by_cases hc : (after? lineMark (trim line)).isSome = true
    · rw [if_pos hc] at h
      cases h
      refine ⟨rfl, ?_⟩
      rintro l ⟨⟩
      exact bodyLine_of_comment hn hb (isSome_after?.mp hc)
    · rw [if_neg hc] at h
      by_cases he : trim line = []
      · rw [if_pos he] at h
        cases h
        refine ⟨hp, ?_⟩
        rintro l ⟨⟩
        exact bodyLine_nil
      · rw [if_neg he] at h
        rw [← hp]
        exact recastCode_bodyLine hn hb (by simpa using hv) h

theorem recastLine_bodyLine {raw : Text} (hn : '\n' ∉ raw) (hb : ¬ openMark <:+: raw)
    (hp : p.inBlock = false) (h : recastLine {} stage p raw = .ok (outcome, p')) :
    p'.inBlock = false ∧ ∀ l, outcome = .keep l → BodyLine l := by
  rw [recastLine_default] at h
  refine recastRenamed_bodyLine (newline_not_mem_inspected hn) (fun hi => hb ?_) hp h
  exact ((patched_renamed p.output _).holds foreign_openMark.apart hi).trans (infix_trimEnd raw)

theorem bodyLine_of_mem_recastFrom {ls : List Text}
    (hls : ∀ l ∈ ls, '\n' ∉ l ∧ ¬ openMark <:+: l) (hp : p.inBlock = false) :
    ∀ l ∈ (recastFrom {} stage p ls).lines, BodyLine l := by
  intro l hl
  obtain ⟨raw, hraw, q, q', hq, hr⟩ := exists_of_mem_recastFrom (I := (·.inBlock = false)) hp
    (fun raw hraw _ _ _ hq hr => (recastLine_bodyLine (hls raw hraw).1 (hls raw hraw).2 hq hr).1) hl
  exact (recastLine_bodyLine (hls raw hraw).1 (hls raw hraw).2 hq hr).2 l rfl

theorem not_openMark_renameVertexIndex {s : Text} (h : ¬ openMark <:+: s) :
    ¬ openMark <:+: renameVertexIndex {} s := by
  rw [renameVertexIndex]
  split
  · have hapart : Apart openMark "_vertex_id".toList := by decide
    exact fun hi => h ((patched_replaceAll (by decide) _ s).holds hapart hi)
  · exact h

theorem bodyLine_of_mem_recast {s : Text} (h : ¬ openMark <:+: s) :
    ∀ l ∈ (recast {} stage (lines (renameVertexIndex {} s))).lines, BodyLine l :=
  bodyLine_of_mem_recastFrom (fun _ hl => ⟨newline_not_mem_of_mem_lines hl, fun hm =>
    not_openMark_renameVertexIndex h (hm.trans (infix_of_mem_lines hl))⟩) rfl

end Recast

section Text

variable {hs bs : List Text}

theorem inDialect_nil : InDialect [] := ⟨rfl, rfl, splitQualifier_eq_none qualified?_nil⟩

theorem liveLines_unlines_trimLines {ls : List Text}
    (h : ∀ l ∈ ls, '\n' ∉ l ∧ ¬ openMark <:+: l) :
    liveLines (unlines (trimLines ls)) = (trimLines ls).map liveHead ∨
      trimLines ls = [] ∧ liveLines (unlines (trimLines ls)) = [[]] := by
  have hmem : ∀ l ∈ trimLines ls, '\n' ∉ l ∧ ¬ openMark <:+: l :=
    fun l hl => h l (mem_of_mem_trimLines hl)
  rcases lines_unlines_cases fun l hl => (hmem l hl).1 with he | ⟨hnil, he⟩
  · refine .inl ?_
    rw [liveLines, he, liveFrom_of_no_open fun l hl => (hmem l hl).2]
  · refine .inr ⟨hnil, ?_⟩
    rw [liveLines, he]
    rfl

theorem lines_unopened (hh : ∀ l ∈ hs, HeaderLine l) (hb : ∀ l ∈ bs, BodyLine l) :
    ∀ l ∈ hs ++ bs, '\n' ∉ l ∧ ¬ openMark <:+: l := by
  intro l hl
  rcases List.mem_append.mp hl with hl | hl
  · exact ⟨(hh l hl).newline, (hh l hl).live.block⟩
  · exact ⟨(hb l hl).newline, (hb l hl).block⟩

theorem liveLines_legacy (hh : ∀ l ∈ hs, HeaderLine l) (hb : ∀ l ∈ bs, BodyLine l) :
    (∀ l ∈ liveLines (unlines (trimLines (hs ++ bs))), InDialect l) ∧
      (liveLines (unlines (trimLines (hs ++ bs)))).filter declares = hs := by
  have hlines := lines_unopened hh hb
  have hdialect : ∀ l ∈ hs ++ bs, InDialect (liveHead l) := by
    intro l hl
    rcases List.mem_append.mp hl with hl | hl
    · rw [(hh l hl).whole]
      exact (hh l hl).dialect
    · exact (hb l hl).dialect
  have hblank : ∀ l, allBlank l = true → declares (liveHead l) = false := by
    intro l hl
    rw [liveHead_of_blank hl]
    rfl
  have hfilter : (trimLines (hs ++ bs)).filter (declares ∘ liveHead) = hs := by
    have hheader : hs.filter (declares ∘ liveHead) = hs := by
      refine List.filter_eq_self.mpr fun l hl => ?_
      rw [Function.comp_apply, (hh l hl).whole]
      exact (hh l hl).declares
    have hbody : bs.filter (declares ∘ liveHead) = [] := by
      refine List.filter_eq_nil_iff.mpr fun l hl => ?_
      rw [Function.comp_apply, (hb l hl).quiet]
      exact Bool.false_ne_true
    rw [filter_trimLines (q := declares ∘ liveHead) hblank, List.filter_append, hheader, hbody,
      List.append_nil]
  have hwhole : hs.map liveHead = hs := by
    refine (List.map_congr_left fun l hl => (hh l hl).whole).trans (List.map_id hs)
  rcases liveLines_unlines_trimLines hlines with he | ⟨hnil, he⟩
  · rw [he]
    constructor
    · intro l hl
      obtain ⟨m, hm, rfl⟩ := List.mem_map.mp hl
      exact hdialect m (mem_of_mem_trimLines hm)
    · rw [List.filter_map, hfilter, hwhole]
  · rw [hnil] at hfilter
    rw [he, ← hfilter]
    refine ⟨fun l hl => ?_, rfl⟩
    rw [List.mem_singleton.mp hl]
    exact inDialect_nil

theorem declarations_filter {ls : List Text} (h : ∀ l ∈ ls, InDialect l) :
    declarations (ls.filter declares) = declarations ls := by
  induction ls with
  | nil => rfl
  | cons l ls ih =>
      have hrest := ih fun m hm => h m (List.mem_cons_of_mem l hm)
      cases hd : declares l with
      | true =>
          rw [List.filter_cons_of_pos hd, declarations_cons, declarations_cons, hrest]
      | false =>
          rw [declares, Bool.or_eq_false_iff] at hd
          have hnone : declaration? l = .ok none := by
            rw [declaration?, hd.1, hd.2, (h l List.mem_cons_self).layout]
            rfl
          rw [List.filter_cons_of_neg (by rw [declares, hd.1, hd.2]; decide), declarations_cons,
            hnone, hrest]
          cases declarations ls <;> rfl

theorem convert_eq_ok {settings : Settings} {stage : Stage} {s : Text}
    (h : (convert settings stage none s).text = .ok t) : ∃ i, scan s = .ok i ∧
      t = unlines (trimLines (header settings (usesVertexIndex settings s) i ++
        (recast settings stage (lines (renameVertexIndex settings s))).lines)) := by
  rw [convert_text] at h
  split at h
  case isFalse => cases h
  case isTrue =>
      cases hs : scan s with
      | error fault => rw [hs] at h; cases h
      | ok i =>
          rw [hs, Except.bind] at h
          refine ⟨i, rfl, ?_⟩
          split at h
          · cases h
          · exact (Except.ok.inj h).symm

/-- Converting a source without block comments leaves nothing of the modern dialect, declares
what the header does and nothing else, and the interface that is read off the result is the one
of the source in its legacy form. -/
theorem legacy_of_convertAndExpand {W : Type} [Records W] {stage : Stage} {s t : Text} {w : W}
    (hs : contains openMark s = false)
    (h : ((convertAndExpand {} stage none none s : Act W Text).outcome w).1 = .ok t) :
    (∀ l ∈ liveLines t, InDialect l) ∧ ∃ i, scan s = .ok i ∧
      (liveLines t).filter declares = header {} (usesVertexIndex {} s) i ∧
      scan t = .ok (legacyInterface (usesVertexIndex {} s) i) := by
  have htext : (convert {} stage none s).text = .ok t := by
    rw [outcome_convertAndExpand] at h
    split at h
    · cases h
    · next text hc =>
        split at h
        · cases h
        · cases h
          exact hc
  obtain ⟨i, hi, rfl⟩ := convert_eq_ok htext
  have hwritten := scan_written hi
  have hopen := not_openMark_renameVertexIndex (contains_eq_false_iff.mp hs)
  have hbody : ∀ l ∈ (recast {} stage (lines (renameVertexIndex {} s))).lines, BodyLine l :=
    bodyLine_of_mem_recastFrom (fun l hl => ⟨newline_not_mem_of_mem_lines hl,
      fun hm => hopen (hm.trans (infix_of_mem_lines hl))⟩) rfl
  obtain ⟨hdialect, hfilter⟩ :=
    liveLines_legacy (header_headerLine hwritten (usesVertexIndex {} s)) hbody
  refine ⟨hdialect, i, hi, hfilter, ?_⟩
  rw [scan, ← declarations_filter hdialect, hfilter, declarations_header hwritten]
  exact congrArg Except.ok (ofDeclarations_header hwritten _)

def indexedVertex : Text := unlines [
  "#version 330".toList,
  "layout(location = 0) in int a; // flat".toList,
  "uniform int n[3];".toList,
  "out vec2 uv;".toList,
  "void main() { uv = f(gl_VertexID); }".toList]

def indexedVertexLegacy : Text := unlines [
  "attribute float a;".toList,
  "attribute float _vertex_id;".toList,
  "uniform float n[3];".toList,
  "varying vec2 uv;".toList,
  "void main() { uv = f(_vertex_id); }".toList]

theorem legacy_indexedVertex : contains openMark indexedVertex = false ∧
    ((convertAndExpand {} .vertex none none indexedVertex : Act Unit Text).outcome ()).1 =
      .ok indexedVertexLegacy ∧
    (∀ l ∈ liveLines indexedVertexLegacy, InDialect l) ∧ ∃ i, scan indexedVertex = .ok i ∧
      (liveLines indexedVertexLegacy).filter declares =
        header {} (usesVertexIndex {} indexedVertex) i ∧
      scan indexedVertexLegacy =
        .ok (legacyInterface (usesVertexIndex {} indexedVertex) i) := by
  have hs : contains openMark indexedVertex = false := by decide +kernel
  have h : ((convertAndExpand {} .vertex none none indexedVertex : Act Unit Text).outcome ()).1 =
      .ok indexedVertexLegacy := by decide +kernel
  exact ⟨hs, h, legacy_of_convertAndExpand hs h⟩

end Text

end ShaderPipeline.Legacy
