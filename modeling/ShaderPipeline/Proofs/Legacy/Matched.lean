import ShaderPipeline.Proofs.Legacy.Dialect
import ShaderPipeline.Proofs.Legacy.Recasts

namespace ShaderPipeline.Legacy

open Text Glsl

variable {stage : Stage} {p p' q q' : Progress} {inBlock : Bool} {raw line v w : Text}

/-- The progress through the live lines beside that through the lines themselves. -/
structure Beside (p q : Progress) : Prop where
  output : q.output = p.output
  declared : q.declared = p.declared
  outside : q.inBlock = false
  inert : ∀ name ∈ p.output, Inert name

theorem Beside.of_same (h : Beside p q) (ho : p'.output = p.output)
    (hd : p'.declared = p.declared) : Beside p' q :=
  ⟨h.output.trans ho.symm, h.declared.trans hd.symm, h.outside, ho ▸ h.inert⟩

section Live

theorem livePart?_line (hn : '\n' ∉ raw) (h : Beside p q) (inBlock : Bool) :
    livePart? inBlock (inspected p raw) =
      ((livePart? inBlock raw).1.map (renamed p.output), (livePart? inBlock raw).2) := by
  have hend : '\n' ∉ trimEnd raw := fun hc => hn ((infix_trimEnd raw).subset hc)
  rw [inspected, livePart?_renamed h.inert hend, livePart?_trimEnd hn]

theorem livePart?_cases (hn : '\n' ∉ raw) (h : Beside p q) (inBlock : Bool) (stage : Stage) :
    ((livePart? inBlock raw).1 = none ∧
        (livePart? inBlock (inspected p raw)).1 = none) ∨
      ∃ w v, (livePart? inBlock raw).1 = some w ∧
        (livePart? inBlock (inspected p raw)).1 = some v ∧ LiveLine v ∧
        recastLine {} stage q w = recastRenamed stage q v := by
  have hline := livePart?_line hn h inBlock
  cases hw : (livePart? inBlock raw).1 with
  | none =>
      refine .inl ⟨rfl, ?_⟩
      rw [hline, hw]
      rfl
  | some w =>
      have hv : (livePart? inBlock (inspected p raw)).1 =
          some (renamed p.output w) := by
        rw [hline, hw]
        rfl
      have hwl : LiveLine w := liveLine_of_mem_livePart? hn w hw
      have hlive := liveLine_of_mem_livePart? (newline_not_mem_inspected hn) _ hv
      refine .inr ⟨w, renamed p.output w, rfl, hv, hlive, ?_⟩
      have hend : trimEnd w = w := by rw [← hwl.trimmed, trimEnd_trim]
      rw [recastLine_default, inspected, h.output, hend]

theorem recasts_live (hq : q.inBlock = false) (hv : LiveLine v)
    (hw : recastLine {} stage q w = recastRenamed stage q v) :
    Recasts stage q v (reading stage false v) (recastLine {} stage q w) := by
  have h := recasts stage q v
  rwa [hq, hv.trimmed, ← hw] at h

theorem recastLine_kept (hq : q.inBlock = false) (hv : LiveLine v)
    (hw : recastLine {} stage q w = recastRenamed stage q v)
    (hr : reading stage false v = .kept) : recastLine {} stage q w = .ok (.keep v, q) := by
  have h := recasts_live hq hv hw
  rw [hr] at h
  generalize recastLine {} stage q w = r at h
  cases h with
  | inside h => rw [hq] at h; cases h
  | comment _ hs =>
      rename_i staysOpen
      have hclosed : staysOpen = q.inBlock := by
        cases staysOpen with
        | false => exact hq.symm
        | true =>
            have hopen := hs rfl
            rw [hv.trimmed] at hopen
            exact absurd hopen hv.live.block
      rw [hclosed]
  | blank _ ht =>
      rw [hv.trimmed] at ht
      rw [ht]
  | plain => rfl

theorem liveLine_varying (line declaration : Text) :
    liveLine (indent line ++ varyingWord ++ declaration) =
      (varyingWord ++ trimEnd (liveSpan declaration).1, (liveSpan declaration).2) := by
  have hslash : '/' ∉ indent line ++ varyingWord := by
    rw [List.mem_append, not_or]
    exact ⟨slash_not_mem_of_allBlank List.all_takeWhile, by decide⟩
  rw [liveLine_eq, liveSpan_append hslash, trim_varying]

end Live

section Passes

def Outcome.lines : Outcome → List Text
  | .keep l => [l]
  | .drop => []
  | .unnamed _ => []

theorem recastFrom_error {fault : Fault} (h : recastLine {} stage p raw = .error fault)
    (rest : List Text) : recastFrom {} stage p (raw :: rest) = { fault := some fault } := by
  rw [recastFrom, h]

/-- Going through some lines leaves others and a progress, and no fault. -/
structure Passes (stage : Stage) (p : Progress) (ls ms : List Text) (p' : Progress) : Prop where
  lines : ∀ rest, (recastFrom {} stage p (ls ++ rest)).lines =
    ms ++ (recastFrom {} stage p' rest).lines
  fault : ∀ rest, (recastFrom {} stage p (ls ++ rest)).fault =
    (recastFrom {} stage p' rest).fault

theorem passes_nil (stage : Stage) (p : Progress) : Passes stage p [] [] p :=
  ⟨fun _ => rfl, fun _ => rfl⟩

theorem passes_one {outcome : Outcome} (h : recastLine {} stage p raw = .ok (outcome, p')) :
    Passes stage p [raw] outcome.lines p' := by
  constructor
  · intro rest
    rw [List.singleton_append, recastFrom, h]
    cases outcome <;> rfl
  · intro rest
    rw [List.singleton_append, recastFrom, h]
    cases outcome <;> rfl

def nonBlank (ls : List Text) : List Text := ls.filter fun l => !allBlank l

/-- What becomes of a line beside what becomes of its live part. -/
inductive Matched (stage : Stage) (p q : Progress) (inBlock : Bool) (raw : Text) : Prop
  | fault {fault fault' : Fault} {w : Text} (hp : recastLine {} stage p raw = .error fault)
      (hw : (livePart? inBlock raw).1 = some w) (hq : recastLine {} stage q w = .error fault')
  | step {outcome : Outcome} {p' q' : Progress} (ms : List Text)
      (hp : recastLine {} stage p raw = .ok (outcome, p'))
      (hq : Passes stage q (livePart? inBlock raw).1.toList ms q') (hpq : Beside p' q')
      (hm : ∀ l ∈ ms, LiveLine l)
      (hb : (liveFrom inBlock outcome.lines).2 = (livePart? inBlock raw).2)
      (hl : nonBlank (liveFrom inBlock outcome.lines).1 = nonBlank ms)

theorem matched_kept {l : Text} (hn : '\n' ∉ raw) (hpq : Beside p q)
    (hp : recastLine {} stage p raw = .ok (.keep l, p'))
    (hsame : p'.output = p.output ∧ p'.declared = p.declared)
    (hl : livePart? inBlock l = livePart? inBlock (inspected p raw))
    (hk : ∀ live ∈ (livePart? inBlock (inspected p raw)).1,
      reading stage false live = .kept) : Matched stage p q inBlock raw := by
  have hnext := hpq.of_same hsame.1 hsame.2
  have hstate : (liveFrom inBlock [l]).2 = (livePart? inBlock raw).2 := by
    rw [liveFrom_singleton, hl, livePart?_line hn hpq]
  rcases livePart?_cases hn hpq inBlock stage with ⟨hw, hv⟩ | ⟨w, v, hw, hv, hlive, hrec⟩
  · refine .step [] hp ?_ hnext (by simp) hstate ?_
    · rw [hw]
      exact passes_nil stage q
    · change nonBlank (liveFrom inBlock [l]).1 = _
      rw [liveFrom_singleton, hl, hv]
      rfl
  · refine .step [v] hp ?_ hnext ?_ hstate ?_
    · rw [hw]
      exact passes_one (recastLine_kept hpq.outside hlive hrec (hk v hv))
    · intro m hm
      rwa [List.mem_singleton.mp hm]
    · change nonBlank (liveFrom inBlock [l]).1 = _
      rw [liveFrom_singleton, hl, hv]
      rfl

theorem matched_dropped (hn : '\n' ∉ raw) (hpq : Beside p q)
    (hp : recastLine {} stage p raw = .ok (.drop, p))
    (h : Alike stage (trim (inspected p raw))
      (livePart? inBlock (inspected p raw)) inBlock .dropped) :
    Matched stage p q inBlock raw := by
  have hline := livePart?_line hn hpq inBlock
  rcases livePart?_cases hn hpq inBlock stage with ⟨hw, hv⟩ | ⟨w, v, hw, hv, hlive, hrec⟩
  · obtain ⟨rfl, hnone⟩ := not_infix_of_livePart? hw
    refine .step [] hp (by rw [hw]; exact passes_nil stage q) hpq (by simp) ?_ rfl
    rw [livePart?_of_unclosed hnone]
    rfl
  · cases inBlock with
    | false =>
        obtain ⟨hclosed, hread⟩ := h
        rw [hline] at hclosed
        have hq := recasts_live hpq.outside hlive hrec
        rw [hread v hv] at hq
        generalize hx : recastLine {} stage q w = x at hq
        cases hq with
        | dropped =>
            refine .step [] hp ?_ hpq (by simp) hclosed.symm rfl
            rw [hw]
            exact passes_one hx
    | true =>
        have hnone : (livePart? true (inspected p raw)).1 = none := h
        rw [hv] at hnone
        cases hnone

theorem livePart?_varying {part declaration : Text} {storage : Storage} {t : Text}
    (hn : '\n' ∉ t) (hb : bodyPart? (trim t) = some part)
    (hq : qualified? part = some (storage, declaration))
    (h : part = trim t ∨ (livePart? true t).1 = none) :
    livePart? true (indent t ++ varyingWord ++ declaration) = livePart? true t := by
  have hstar {z : Text} (hz : allBlank z = true) : '*' ∉ z := by
    intro hc
    have hno : ¬ isBlank '*' = true := by decide
    exact hno (allBlank_iff.mp hz _ hc)
  have hvarying : '*' ∉ indent t ++ varyingWord := by
    rw [List.mem_append, not_or]
    exact ⟨hstar List.all_takeWhile, by decide⟩
  rw [livePart?_true_append hvarying]
  rcases h with rfl | hnone
  · obtain ⟨words, hwords, _, _, _, hall⟩ := (qualified_of_eq hq).exists_words
    obtain ⟨lead, tail, hl, ht, he⟩ := exists_trim t
    have hword : '*' ∉ words := by
      intro hc
      have hno : ¬ (isWord '*' = true ∨ isBlank '*' = true) := by decide
      exact hno (hall _ hc)
    conv_rhs => rw [he]
    rw [livePart?_append_blank ht (he ▸ hn), livePart?_true_append (hstar hl), hwords,
      livePart?_true_append hword]
  · obtain ⟨_, hclose⟩ := not_infix_of_livePart? hnone
    have hd := infix_of_bodyPart? hb hq
    rw [livePart?_of_unclosed hclose, livePart?_of_unclosed fun hi => hclose (hi.trans hd)]

theorem matched_varying {part declaration : Text} {storage : Storage} (hn : '\n' ∉ raw)
    (hpq : Beside p q) (hb : bodyPart? (trim (inspected p raw)) = some part)
    (hd : qualified? part = some (storage, declaration))
    (hp : recastLine {} stage p raw =
      .ok (.keep (indent (inspected p raw) ++ varyingWord ++ declaration), p))
    (h : Alike stage (trim (inspected p raw)) (livePart? inBlock (inspected p raw)) inBlock
      (.varying part)) : Matched stage p q inBlock raw := by
  have hnew := newline_not_mem_inspected (p := p) hn
  cases inBlock with
  | true =>
      obtain ⟨hpart, hread⟩ := h
      exact matched_kept hn hpq hp ⟨rfl, rfl⟩ (livePart?_varying hnew hb hd hpart) hread
  | false =>
      obtain ⟨hstate, hread⟩ := h
      obtain ⟨hspan, hlive⟩ := liveLine_of_qualified? hd
      rcases livePart?_cases hn hpq false stage with ⟨hw, _⟩ | ⟨w, v, hw, hv, hvl, hrec⟩
      · cases hw
      · have hq := recasts_live hpq.outside hvl hrec
        rw [hread v hv] at hq
        generalize hx : recastLine {} stage q w = x at hq
        cases hq with
        | varying _ _ hd' =>
            rw [hlive] at hd'
            cases hd'
            rw [hvl.indent] at hx
            have he := liveLine_varying (inspected p raw) declaration
            have hpart : livePart? false (indent (inspected p raw) ++ varyingWord ++ declaration) =
                (some (varyingWord ++ trimEnd (liveSpan declaration).1), (liveSpan declaration).2) := by
              rw [livePart?, if_neg (by decide), he]
            refine .step [varyingWord ++ trimEnd (liveSpan declaration).1] hp ?_ hpq ?_ ?_ ?_
            · rw [hw]
              exact passes_one hx
            · intro m hm
              have hl := liveLine_of_newline
                (newline_not_mem_varying hnew (infix_of_bodyPart? hb hd))
              rw [he] at hl
              rw [List.mem_singleton.mp hm]
              exact hl
            · rw [livePart?_line hn hpq] at hstate
              change (liveFrom false [_]).2 = _
              rw [liveFrom_singleton, hpart, ← hspan, hstate]
            · change nonBlank (liveFrom false [_]).1 = _
              rw [liveFrom_singleton, hpart]
              rfl

theorem inert_of_variableName? {name t : Text} (h : variableName? t = some name)
    (ht : (liveSpan t).2 = false) (hc : contains closeMark name = false) : Inert name := by
  obtain ⟨_, hlive⟩ := liveSpan_closed ht
  obtain ⟨htoken, hin⟩ := token_of_mem_tokens (mem_tokens_of_variableName? h)
  refine ⟨⟨htoken.1, fun c hc => ?_⟩, ?_⟩
  · have hends := htoken.2 c hc
    simp only [endsName, endsDeclaration, Bool.or_eq_false_iff] at hends
    exact hends.1.1.1.1
  · have hname : Live name := hlive.of_infix hin
    intro m hm
    simp only [marks, List.mem_cons, List.not_mem_nil, or_false] at hm
    rcases hm with rfl | rfl | rfl
    · exact hname.line
    · exact hname.block
    · exact contains_eq_false_iff.mp hc

theorem matched_output {part : Text} (hn : '\n' ∉ raw) (hpq : Beside p q)
    (hr : Recasts stage p (inspected p raw) (.output part) (recastLine {} stage p raw))
    (h : Alike stage (trim (inspected p raw)) (livePart? inBlock (inspected p raw)) inBlock
      (.output part)) : Matched stage p q inBlock raw := by
  cases inBlock with
  | true => exact h.elim
  | false =>
      obtain ⟨⟨hstate, hclosed⟩, hread, hname⟩ := h
      rw [livePart?_line hn hpq] at hstate
      rcases livePart?_cases hn hpq false stage with ⟨hw, _⟩ | ⟨w, v, hw, hv, hvl, hrec⟩
      · cases hw
      · have hq := recasts_live hpq.outside hvl hrec
        rw [hread v hv] at hq
        -- the name is the same in the declaration and in its live part
        have hsame {declaration declaration' : Text} {storage storage' : Storage}
            (hd : qualified? part = some (storage, declaration))
            (hd' : qualified? (liveLine part).1 = some (storage', declaration')) :
            (liveSpan declaration).2 = false ∧
              variableName? declaration' = variableName? declaration := by
          obtain ⟨hspan, hlive⟩ := liveLine_of_qualified? hd
          rw [hlive] at hd'
          cases hd'
          rw [hclosed] at hspan
          exact ⟨hspan.symm, variableName?_liveSpan hspan.symm⟩
        generalize hy : recastLine {} stage p raw = y at hr
        generalize hx : recastLine {} stage q w = x at hq
        cases hr with
        | again _ hdecl =>
            cases hq with
            | again => exact .fault hy hw hx
            | unnamed _ hdecl' => rw [hpq.declared, hdecl] at hdecl'; cases hdecl'
            | named _ hdecl' => rw [hpq.declared, hdecl] at hdecl'; cases hdecl'
        | unnamed _ hdecl _ hd hnone =>
            cases hq with
            | again _ hdecl' => rw [hpq.declared, hdecl] at hdecl'; cases hdecl'
            | unnamed =>
                have hpass : Passes stage q (livePart? false raw).1.toList []
                    { q with declared := true } := by
                  rw [hw]
                  exact passes_one hx
                exact .step [] hy hpass ⟨hpq.output, rfl, hpq.outside, hpq.inert⟩ (by simp)
                  hstate.symm rfl
            | named _ _ _ hd' hsome =>
                rw [(hsame hd hd').2, hnone] at hsome
                cases hsome
        | @named _ _ _ name _ hdecl _ hd hsome =>
            cases hq with
            | again _ hdecl' => rw [hpq.declared, hdecl] at hdecl'; cases hdecl'
            | unnamed _ _ _ hd' hnone =>
                rw [(hsame hd hd').2, hsome] at hnone
                cases hnone
            | named _ _ _ hd' hsome' =>
                obtain ⟨hspan, heq⟩ := hsame hd hd'
                rw [heq, hsome] at hsome'
                cases hsome'
                have hpass : Passes stage q (livePart? false raw).1.toList []
                    { q with declared := true, output := some name } := by
                  rw [hw]
                  exact passes_one hx
                refine .step [] hy hpass ⟨rfl, rfl, hpq.outside, ?_⟩ (by simp) hstate.symm rfl
                rintro _ ⟨⟩
                refine inert_of_variableName? hsome hspan (hname _ ?_)
                rw [declaredName?, hd]
                exact hsome

theorem matched_of_alike (hn : '\n' ∉ raw) (hpq : Beside p q)
    (h : Alike stage (trim (inspected p raw)) (livePart? inBlock (inspected p raw)) inBlock
      (reading stage p.inBlock (trim (inspected p raw)))) : Matched stage p q inBlock raw := by
  have hr := recasts stage p (inspected p raw)
  rw [← recastLine_default] at hr
  generalize reading stage p.inBlock (trim (inspected p raw)) = r at h hr
  cases r with
  | output part => exact matched_output hn hpq hr h
  | dropped =>
      generalize hy : recastLine {} stage p raw = y at hr
      cases hr with
      | dropped => exact matched_dropped hn hpq hy h
  | varying part =>
      generalize hy : recastLine {} stage p raw = y at hr
      cases hr with
      | varying _ hb hd => exact matched_varying hn hpq hb hd hy h
  | kept =>
      have hk : ∀ live ∈ (livePart? inBlock (inspected p raw)).1,
          reading stage false live = .kept := by
        cases inBlock <;> exact h
      generalize hy : recastLine {} stage p raw = y at hr
      cases hr with
      | inside => exact matched_kept hn hpq hy ⟨rfl, rfl⟩ rfl hk
      | comment => exact matched_kept hn hpq hy ⟨rfl, rfl⟩ rfl hk
      | plain => exact matched_kept hn hpq hy ⟨rfl, rfl⟩ rfl hk
      | blank _ ht =>
          refine matched_kept hn hpq hy ⟨rfl, rfl⟩ ?_ hk
          have hnew := newline_not_mem_inspected (p := p) hn
          have hempty : trimEnd (inspected p raw) = [] :=
            trimEnd_eq_nil_iff.mpr (trim_eq_nil_iff.mp ht)
          rw [← livePart?_trimEnd hnew, hempty]

end Passes

end ShaderPipeline.Legacy
