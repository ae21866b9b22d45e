import ShaderPipeline.Proofs.Legacy.Matched

namespace ShaderPipeline.Legacy

open Text Glsl

variable {stage : Stage} {p p' : Progress} {inBlock ongoing : Bool} {ls : List Text}
  {m t u raw line : Text} {output : Option Text}

/-- No mark of a comment is in the text. -/
def Markless (t : Text) : Prop := ∀ m ∈ marks, ¬ m <:+: t

theorem Markless.part (ht : Markless t) (hu : u <:+: t) : Markless u :=
  fun m hm hi => ht m hm (hi.trans hu)

/-- A line, without the blanks around it, that is comment from end to end, with whether a block is
open before it and behind it. -/
inductive Remark : Bool → Text → Bool → Prop
  | line {m : Text} (hm : m.head? ≠ some '*') : Remark false (lineMark ++ m) false
  | block {m u : Text} (hu : cut? closeMark u = some (m, [])) : Remark false (openMark ++ u) false
  | opens {u : Text} (hu : cut? closeMark u = none) : Remark false (openMark ++ u) true
  | inside {t : Text} (ht : cut? closeMark t = none) : Remark true t true
  | closes {m t : Text} (ht : cut? closeMark t = some (m, [])) : Remark true t false

/-- Every line is code without a comment or comment from end to end. -/
inductive WholeLines : Bool → List Text → Prop
  | nil (inBlock : Bool) : WholeLines inBlock []
  | code {l : Text} {ls : List Text} (hl : Markless l) (hls : WholeLines false ls) :
      WholeLines false (l :: ls)
  | remark {inBlock ongoing : Bool} {l : Text} {ls : List Text}
      (hl : Remark inBlock (trim l) ongoing) (hls : WholeLines ongoing ls) :
      WholeLines inBlock (l :: ls)

section Live

theorem liveLine_lineMark (hm : m.head? ≠ some '*') : liveLine (lineMark ++ m) = ([], false) := by
  have hopen : after? openMark ('/' :: m) = none := by
    refine after?_eq_none_iff.mpr fun ⟨rest, he⟩ => hm ?_
    obtain rfl : '*' :: rest = m := (List.cons.inj he).2
    rfl
  have hdrop : dropBlocks (lineMark ++ m) = '/' :: '/' :: dropBlocks m := by
    rw [lineMark, List.cons_append, List.singleton_append, dropBlocks_of_no_block rfl,
      dropBlocks_of_no_block (by rw [hopen]; rfl)]
  rw [liveLine, stripLine, hdrop]
  rfl

theorem liveLine_block (hu : cut? closeMark u = some (m, [])) (hn : '\n' ∉ openMark ++ u) :
    liveLine (openMark ++ u) = ([], false) := by
  have hdrop : dropBlocks (openMark ++ u) = [' '] :=
    (Unblocked.block (a := []) rfl hu (.plain rfl)).eq hn
  rw [liveLine, stripLine, hdrop]
  rfl

theorem liveLine_opens (hu : cut? closeMark u = none) (hn : '\n' ∉ openMark ++ u) :
    liveLine (openMark ++ u) = ([], true) := by
  have hdrop : dropBlocks (openMark ++ u) = openMark ++ u :=
    (Unblocked.unclosed (a := []) rfl hu).eq hn
  have hline : cut? lineMark (openMark ++ u) =
      (cut? lineMark u).map fun p => (openMark ++ p.1, p.2) := by
    rw [openMark, List.cons_append, List.singleton_append, cut?, cut?]
    simp [after?, lineMark, Function.comp_def]
  rw [liveLine, stripLine, hdrop, before, hline]
  cases cut? lineMark u <;> rfl

theorem Markless.liveLine (ht : Markless t) : liveLine t = (trim t, false) := by
  rw [liveLine_of_no_open (ht openMark (by decide)), liveHead_of_no_mark (ht lineMark (by decide))]

theorem livePart?_trim (hn : '\n' ∉ t) (inBlock : Bool) :
    livePart? inBlock (trim t) = livePart? inBlock t := by
  obtain ⟨lead, hlead, he⟩ := exists_trimStart t
  have hslash := slash_not_mem_of_allBlank hlead
  have hstar : '*' ∉ lead := fun hc => by
    have := allBlank_iff.mp hlead _ hc
    revert this
    decide
  have hstart : livePart? inBlock (trimStart t) = livePart? inBlock t := by
    conv_rhs => rw [he]
    cases inBlock with
    | true => rw [livePart?_true_append hstar]
    | false =>
        rw [livePart?, livePart?, if_neg (by decide), if_neg (by decide), liveLine_eq, liveLine_eq,
          liveSpan_append hslash, trim_of_blank_append hlead]
  rw [trim, livePart?_trimEnd fun hc => hn (he ▸ List.mem_append_right lead hc), hstart]

theorem Remark.livePart? (h : Remark inBlock t ongoing) (hn : '\n' ∉ t) :
    (Glsl.livePart? inBlock t).2 = ongoing ∧ ∀ live ∈ (Glsl.livePart? inBlock t).1, live = [] := by
  cases h with
  | line hm =>
      rw [Glsl.livePart?, if_neg (by decide), liveLine_lineMark hm]
      simp
  | block hu =>
      rw [Glsl.livePart?, if_neg (by decide), liveLine_block hu hn]
      simp
  | opens hu =>
      rw [Glsl.livePart?, if_neg (by decide), liveLine_opens hu hn]
      simp
  | inside ht =>
      rw [Glsl.livePart?, if_pos rfl, ht]
      simp
  | closes ht =>
      rw [Glsl.livePart?, if_pos rfl, ht]
      exact ⟨rfl, by rintro _ ⟨⟩; rfl⟩

end Live

section Renamed

theorem renamed_wordless_append (hm : Wordless m) (t : Text) :
    renamed output (m ++ t) = m ++ renamed output t := by
  cases output with
  | none => rfl
  | some name => exact replaceWordFrom_wordless hm t

theorem trim_renamed (ho : ∀ name ∈ output, Inert name) (t : Text) :
    trim (renamed output t) = renamed output (trim t) := by
  cases output with
  | none => rfl
  | some name => exact trim_replaceWord (ho name rfl).token.1 (by decide) t

theorem cut?_renamed (ho : ∀ name ∈ output, Inert name) (hm : m ∈ marks) (t : Text) :
    cut? m (renamed output t) =
      (cut? m t).map fun (a, r) => (renamed output a, renamed output r) := by
  cases output with
  | none => exact Option.map_id'.symm
  | some name => exact (ho name rfl).cut?_replaceWord hm t

theorem Markless.renamed (ht : Markless t) (ho : ∀ name ∈ output, Inert name) :
    Markless (Legacy.renamed output t) := by
  intro m hm
  rw [← cut?_eq_none_iff, cut?_renamed ho hm, cut?_eq_none_iff.mpr (ht m hm)]
  rfl

theorem Remark.renamed (h : Remark inBlock t ongoing) (ho : ∀ name ∈ output, Inert name) :
    Remark inBlock (Legacy.renamed output t) ongoing := by
  have hcut (t : Text) := cut?_renamed ho (m := closeMark) (by decide) t
  have hclosed {t head : Text} (ht : cut? closeMark t = some (head, [])) :
      cut? closeMark (Legacy.renamed output t) = some (Legacy.renamed output head, []) := by
    have hnil : Legacy.renamed output [] = [] := by cases output <;> rfl
    rw [hcut, ht, Option.map_some]
    exact congrArg (fun z => some (_, z)) hnil
  cases h with
  | @line m hm =>
      rw [renamed_wordless_append (by decide)]
      refine .line fun hc => ?_
      cases output with
      | none => exact hm hc
      | some name =>
          rcases head?_replaceWord (by decide) hc with hc | hc
          · revert hc
            decide
          · exact hm hc
  | block hu =>
      rw [renamed_wordless_append (by decide)]
      exact .block (hclosed hu)
  | opens hu =>
      rw [renamed_wordless_append (by decide)]
      exact .opens (by rw [hcut, hu, Option.map_none])
  | inside ht => exact .inside (by rw [hcut, ht, Option.map_none])
  | closes ht => exact .closes (hclosed ht)

end Renamed

section Readings

theorem layout_openMark (u : Text) : layout (openMark ++ u) =
    match cut? closeMark u with
    | none => .comment true
    | some (_, []) => .comment false
    | some (_, _ :: _) => .code := by
  have hversion : after? versionDirective (openMark ++ u) = none := by
    refine after?_eq_none_iff.mpr fun ⟨rest, he⟩ => ?_
    cases congrArg List.head? he
  have hline : after? lineMark (openMark ++ u) = none := rfl
  have hopen : after? openMark (openMark ++ u) = some u := rfl
  rw [layout, hversion, hline, hopen, if_neg (by decide), if_neg (by decide), Option.map_some]
  cases cut? closeMark u with
  | none => rfl
  | some r =>
      obtain ⟨m, z⟩ := r
      cases z <;> rfl

theorem Remark.layout (h : Remark false t ongoing) : layout t = .comment ongoing := by
  cases h with
  | line => rfl
  | block hu => rw [layout_openMark, hu]
  | opens hu => rw [layout_openMark, hu]

theorem Remark.contains (h : Remark true t ongoing) : contains closeMark t = !ongoing := by
  cases h with
  | inside ht => rw [Text.contains, ht]; rfl
  | closes ht => rw [Text.contains, ht]; rfl

theorem Remark.recastRenamed (h : Remark p.inBlock (trim line) ongoing) :
    recastRenamed stage p line = .ok (.keep line, { p with inBlock := ongoing }) := by
  rw [Legacy.recastRenamed]
  cases hp : p.inBlock with
  | true =>
      rw [hp] at h
      rw [if_pos rfl, h.contains, Bool.not_not]
  | false =>
      rw [hp] at h
      rw [if_neg (by decide), h.layout]

theorem Remark.reading (h : Remark inBlock t ongoing) : reading stage inBlock t = .kept := by
  rw [Legacy.reading]
  cases inBlock with
  | true => rfl
  | false => rw [if_neg (by decide), h.layout]

theorem bodyPart?_of_reading {part : Text}
    (h : Legacy.reading stage false t = .varying part ∨
      Legacy.reading stage false t = .output part) :
    bodyPart? t = some part := by
  rw [Legacy.reading, if_neg (by decide)] at h
  cases hl : Legacy.layout t with
  | code =>
      rw [hl] at h
      dsimp only at h
      cases hb : bodyPart? t with
      | none => rw [hb] at h; simp at h
      | some part' =>
          rw [hb] at h
          dsimp only at h
          cases hq : qualified? part' with
          | none => rw [hq] at h; simp at h
          | some q =>
              rw [hq] at h
              dsimp only at h
              split at h <;> simpa using h
  | _ => rw [hl] at h; simp at h

theorem Markless.variableName? {declaration name : Text} (ht : Markless declaration)
    (h : Glsl.variableName? declaration = some name) : Markless name := by
  have hstrip : stripLine declaration = declaration := by
    rw [stripLine, dropBlocks_of_no_open (ht openMark (by decide)),
      before_of_not_infix (ht lineMark (by decide))]
  have hname := mem_tokens_of_variableName? h
  rw [hstrip] at hname
  exact ht.part (token_of_mem_tokens hname).2

theorem Markless.alike (ht : Markless t) (htrim : trim t = t) :
    Alike stage t (some t, false) false (Legacy.reading stage false t) := by
  have hpart {part : Text} (hb : bodyPart? t = some part) :
      Markless part ∧ Glsl.liveLine part = (part, false) := by
    have hin : part <:+: t := by
      rcases bodyPart?_eq_some hb with ⟨rfl, _⟩ | ⟨hi, _⟩
      · exact List.infix_refl _
      · exact hi
    have hmarks := ht.part hin
    exact ⟨hmarks, by rw [hmarks.liveLine, trim_bodyPart? hb htrim]⟩
  cases hr : Legacy.reading stage false t with
  | kept => rintro _ ⟨⟩; exact hr
  | dropped => exact ⟨rfl, by rintro _ ⟨⟩; exact hr⟩
  | varying part =>
      obtain ⟨_, hlive⟩ := hpart (bodyPart?_of_reading (.inl hr))
      refine ⟨by rw [hlive], ?_⟩
      rintro _ ⟨⟩
      rw [hlive, hr]
  | output part =>
      obtain ⟨hmarks, hlive⟩ := hpart (bodyPart?_of_reading (.inr hr))
      refine ⟨⟨rfl, by rw [hlive]⟩, ?_, fun name hname => ?_⟩
      · rintro _ ⟨⟩
        rw [hlive, hr]
      · obtain ⟨⟨storage, declaration⟩, hq, hname⟩ := Option.bind_eq_some_iff.mp hname
        have hdeclaration := hmarks.part (suffix_of_qualified? hq).isInfix
        exact contains_eq_false_iff.mpr (hdeclaration.variableName? hname closeMark (by decide))

theorem Markless.recastRenamed {outcome : Outcome} (hline : Markless line)
    (hp : p.inBlock = false) (ho : ∀ name ∈ p.output, Inert name)
    (h : Legacy.recastRenamed stage p line = .ok (outcome, p')) :
    p'.inBlock = false ∧ ∀ name ∈ p'.output, Inert name := by
  have hr := recasts stage p line
  rw [h] at hr
  generalize Legacy.reading stage p.inBlock (trim line) = r at hr
  cases hr with
  | inside hi => rw [hp] at hi; cases hi
  | comment _ hs =>
      refine ⟨?_, ho⟩
      rw [← Bool.not_eq_true]
      exact fun hopen => hline openMark (by decide) ((hs hopen).trans (infix_trim line))
  | blank => exact ⟨hp, ho⟩
  | plain => exact ⟨hp, ho⟩
  | dropped => exact ⟨hp, ho⟩
  | varying => exact ⟨hp, ho⟩
  | unnamed => exact ⟨hp, ho⟩
  | named _ _ hb hq hn =>
      refine ⟨hp, ?_⟩
      rintro _ ⟨⟩
      have hdeclaration := hline.part (infix_of_bodyPart? hb hq)
      have hspan := congrArg Prod.snd hdeclaration.liveLine
      rw [liveLine_eq] at hspan
      exact inert_of_variableName? hn hspan (contains_eq_false_iff.mpr
        (hdeclaration.variableName? hn closeMark (by decide)))

/-- In a source whose comments fill whole lines every line is taken for what its live part is
taken for. -/
theorem WholeLines.aligned (h : WholeLines inBlock ls) (hb : p.inBlock = inBlock)
    (hn : ∀ l ∈ ls, '\n' ∉ l) (ho : ∀ name ∈ p.output, Inert name) :
    Aligned stage p inBlock ls := by
  -- on the way the conversion has a block open where the scan has one
  induction h generalizing p with
  | nil => trivial
  | @code raw ls hl _ ih =>
      have hline : Markless (inspected p raw) := (hl.part (infix_trimEnd raw)).renamed ho
      have hlive : livePart? false (inspected p raw) = (some (trim (inspected p raw)), false) := by
        rw [livePart?, if_neg (by decide), hline.liveLine]
      rw [Aligned, recastLine_default, hlive, hb]
      refine ⟨(hline.part (infix_trim _)).alike (trim_trim _), ?_⟩
      cases hr : Legacy.recastRenamed stage p (inspected p raw) with
      | error => trivial
      | ok next =>
          obtain ⟨outcome, p'⟩ := next
          obtain ⟨hb', ho'⟩ := hline.recastRenamed hb ho hr
          exact ih hb' (fun l hl => hn l (List.mem_cons_of_mem raw hl)) ho'
  | @remark inBlock ongoing raw ls hl _ ih =>
      have hnew : '\n' ∉ inspected p raw := newline_not_mem_inspected (hn raw List.mem_cons_self)
      have hline : Remark inBlock (trim (inspected p raw)) ongoing := by
        rw [inspected, trim_renamed ho, trim_trimEnd]
        exact hl.renamed ho
      obtain ⟨hafter, hlive⟩ := hline.livePart? fun hc => hnew ((infix_trim _).subset hc)
      rw [livePart?_trim hnew] at hafter hlive
      have hnext : recastLine {} stage p raw =
          .ok (.keep (inspected p raw), { p with inBlock := ongoing }) := by
        rw [recastLine_default]
        exact Remark.recastRenamed (hb ▸ hline)
      rw [Aligned, hnext, hb, hline.reading, hafter]
      refine ⟨?_, ih rfl (fun l hl => hn l (List.mem_cons_of_mem raw hl)) ho⟩
      cases inBlock with
      | false => intro live h; rw [hlive live h]; rfl
      | true => intro live h; rw [hlive live h]; rfl

end Readings

end ShaderPipeline.Legacy
