import ShaderPipeline.Proofs.Glsl.Reading
import ShaderPipeline.Proofs.Glsl.Written

namespace ShaderPipeline.Glsl

open Text

variable {a m o r t u z line : Text}

section Blocks

/-- The second line is the first with one space for each block comment that closes in it. -/
inductive Unblocked : Text → Text → Prop
  | plain {t : Text} (h : cut? openMark t = none) : Unblocked t t
  | unclosed {t a u : Text} (h : cut? openMark t = some (a, u)) (hu : cut? closeMark u = none) :
      Unblocked t t
  | block {t a u m r o : Text} (h : cut? openMark t = some (a, u))
      (hu : cut? closeMark u = some (m, r)) (hr : Unblocked r o) : Unblocked t (a ++ ' ' :: o)

theorem closedWithin?_eq (hn : '\n' ∉ t) :
    closedWithin? t = (cut? closeMark t).map fun (m, _) => m.length + 2 := by
  induction t with
  | nil => rfl
  | cons c t ih =>
      have hc : c ≠ '\n' := fun h => hn (h ▸ List.mem_cons_self)
      rw [closedWithin?, if_neg hc, cut?]
      cases after? closeMark (c :: t) with
      | some r => rfl
      | none =>
          dsimp only
          rw [ih fun h => hn (List.mem_cons_of_mem c h)]
          cases cut? closeMark t <;> rfl

theorem dropBlocksFrom_eq (skip : Nat) (t : Text) :
    dropBlocksFrom skip t = dropBlocks (t.drop skip) := by
  induction t generalizing skip with
  | nil => cases skip <;> rfl
  | cons c t ih =>
      cases skip with
      | zero => rfl
      | succ skip => exact ih skip

theorem dropBlocks_of_no_block {c : Char}
    (h : (after? openMark (c :: t)).bind closedWithin? = none) :
    dropBlocks (c :: t) = c :: dropBlocks t := by
  rw [dropBlocks, dropBlocksFrom, h]
  rfl

theorem dropBlocks_of_block {c : Char} {n : Nat}
    (h : (after? openMark (c :: t)).bind closedWithin? = some n) :
    dropBlocks (c :: t) = ' ' :: dropBlocks (t.drop (n + 1)) := by
  rw [dropBlocks, dropBlocksFrom, h]
  exact congrArg (' ' :: ·) (dropBlocksFrom_eq (n + 1) t)

theorem unblocked_dropBlocks (hn : '\n' ∉ t) : Unblocked t (dropBlocks t) := by
  induction hl : t.length using Nat.strong_induction_on generalizing t with
  | _ n ih =>
      cases t with
      | nil => exact .plain rfl
      | cons c t =>
          have hnt : '\n' ∉ t := fun h => hn (List.mem_cons_of_mem c h)
          have iht : Unblocked t (dropBlocks t) := ih t.length (by simp [← hl]) hnt rfl
          cases ha : after? openMark (c :: t) with
          | none =>
              have hcut : cut? openMark (c :: t) =
                  (cut? openMark t).map fun (a, u) => (c :: a, u) := by rw [cut?, ha]
              rw [dropBlocks_of_no_block (by rw [ha]; rfl)]
              generalize dropBlocks t = o at iht
              cases iht with
              | plain h => exact .plain (by rw [hcut, h]; rfl)
              | unclosed h hu => exact .unclosed (by rw [hcut, h]; rfl) hu
              | block h hu hr => exact .block (a := c :: _) (by rw [hcut, h]; rfl) hu hr
          | some u =>
              obtain ⟨rfl, rfl⟩ : c = '/' ∧ t = '*' :: u := by
                simpa [openMark] using after?_eq_some_iff.mp ha
              have hcut : cut? openMark ('/' :: '*' :: u) = some ([], u) := by rw [cut?, ha]
              have hnu : '\n' ∉ u := fun h => hnt (List.mem_cons_of_mem _ h)
              have hclosed := closedWithin?_eq hnu
              cases hu : cut? closeMark u with
              | none =>
                  rw [dropBlocks_of_no_block (by rw [ha, Option.bind_some, hclosed, hu]; rfl)]
                  have hplain : dropBlocks ('*' :: u) = '*' :: u := by
                    generalize dropBlocks ('*' :: u) = o at iht
                    cases iht with
                    | plain => rfl
                    | unclosed => rfl
                    | @block _ a' u' m' r' _ h' hu' _ =>
                        -- a block that opens later would close in what has no closing mark
                        exfalso
                        refine cut?_eq_none_iff.mp hu ?_
                        have hin : closeMark <:+: u' :=
                          contains_iff.mp (by rw [contains, hu']; rfl)
                        refine hin.trans (List.IsSuffix.isInfix ?_)
                        have heq : '*' :: u = a' ++ openMark ++ u' := eq_append_of_cut? h'
                        cases a' with
                        | nil => simp [openMark] at heq
                        | cons x a' =>
                            exact ⟨a' ++ openMark, by simpa using (List.cons.inj heq).2.symm⟩
                  rw [hplain]
                  exact .unclosed hcut hu
              | some p =>
                  obtain ⟨m, r⟩ := p
                  have hlen : (after? openMark ('/' :: '*' :: u)).bind closedWithin? =
                      some (m.length + 2) := by
                    rw [ha, Option.bind_some, hclosed, hu]
                    rfl
                  have hur : u = m ++ closeMark ++ r := eq_append_of_cut? hu
                  have hdrop : ('*' :: u).drop (m.length + 2 + 1) = r := by
                    rw [hur, List.drop_succ_cons]
                    exact List.drop_left' (by simp [closeMark])
                  rw [dropBlocks_of_block hlen, hdrop]
                  have hr : Unblocked r (dropBlocks r) := by
                    refine ih r.length ?_ (fun h => hnu ?_) rfl
                    · rw [← hl, hur]
                      simp only [List.length_cons, List.length_append]
                      omega
                    · rw [hur]
                      exact List.mem_append_right _ h
                  exact .block hcut hu hr

theorem Unblocked.eq (h : Unblocked t o) (hn : '\n' ∉ t) : dropBlocks t = o := by
  have h' := unblocked_dropBlocks hn
  generalize dropBlocks t = o' at h'
  induction h generalizing o' with
  | plain h =>
      cases h' with
      | plain => rfl
      | unclosed => rfl
      | block h₁ => rw [h] at h₁; cases h₁
  | unclosed h hu =>
      cases h' with
      | plain => rfl
      | unclosed => rfl
      | block h₁ hu₁ =>
          rw [h] at h₁
          cases h₁
          rw [hu] at hu₁
          cases hu₁
  | block h hu hr ih =>
      cases h' with
      | plain h₁ => rw [h] at h₁; cases h₁
      | unclosed h₁ hu₁ =>
          rw [h] at h₁
          cases h₁
          rw [hu] at hu₁
          cases hu₁
      | block h₁ hu₁ hr₁ =>
          rw [h] at h₁
          cases h₁
          rw [hu] at hu₁
          cases hu₁
          rw [ih ?_ _ hr₁]
          intro hr
          apply hn
          rw [eq_append_of_cut? h, eq_append_of_cut? hu]
          simp [hr]

theorem Unblocked.append (h : Unblocked t o) (hz : ∀ c ∈ z, c ∉ openMark ∧ c ∉ closeMark) :
    Unblocked (t ++ z) (o ++ z) := by
  have hopen (t : Text) := cut?_append_of_disjoint (m := openMark) (by decide)
    (fun c hc => (hz c hc).1) t
  have hclose (t : Text) := cut?_append_of_disjoint (m := closeMark) (by decide)
    (fun c hc => (hz c hc).2) t
  induction h with
  | plain h => exact .plain (by rw [hopen, h]; rfl)
  | unclosed h hu => exact .unclosed (by rw [hopen, h]; rfl) (by rw [hclose, hu]; rfl)
  | block h hu _ ih =>
      rw [List.append_assoc, List.cons_append]
      exact .block (by rw [hopen, h]; rfl) (by rw [hclose, hu]; rfl) ih

theorem Unblocked.holds (h : Unblocked t o) (hm : ' ' ∉ m) (hi : m <:+: o) : m <:+: t := by
  induction h with
  | plain => exact hi
  | unclosed => exact hi
  | block h hu _ ih =>
      rw [eq_append_of_cut? h, eq_append_of_cut? hu]
      rcases infix_append_cons hm hi with hi | hi
      · rw [List.append_assoc]
        exact hi.trans (List.prefix_append _ _).isInfix
      · refine (ih hi).trans (List.IsSuffix.isInfix ?_)
        rw [← List.append_assoc, ← List.append_assoc]
        exact List.suffix_append _ _

theorem dropBlocks_append (ha : '/' ∉ a) (t : Text) : dropBlocks (a ++ t) = a ++ dropBlocks t := by
  induction a with
  | nil => rfl
  | cons c a ih =>
      have hc : '/' ≠ c := fun h => ha (h ▸ List.mem_cons_self)
      have hopen : after? openMark (c :: (a ++ t)) = none := by rw [openMark, after?, if_neg hc]
      rw [List.cons_append, dropBlocks_of_no_block (by rw [hopen]; rfl),
        ih fun h => ha (List.mem_cons_of_mem c h)]
      rfl

end Blocks

section Span

def liveSpan (line : Text) : Text × Bool :=
  match cut? openMark (stripLine line) with
  | some (head, _) => (head, true)
  | none => (stripLine line, false)

theorem liveLine_eq (line : Text) :
    liveLine line = (trim (liveSpan line).1, (liveSpan line).2) := by
  rw [liveLine, liveSpan]
  cases cut? openMark (stripLine line) <;> rfl

theorem liveSpan_append (ha : '/' ∉ a) (t : Text) :
    liveSpan (a ++ t) = (a ++ (liveSpan t).1, (liveSpan t).2) := by
  have hstrip : stripLine (a ++ t) = a ++ stripLine t := by
    rw [stripLine, dropBlocks_append ha, lineMark, before_append ha]
    rfl
  rw [liveSpan, liveSpan, hstrip, openMark, cut?_append ha]
  cases cut? ['/', '*'] (stripLine t) <;> rfl

theorem slash_not_mem_of_allBlank (h : allBlank z = true) : '/' ∉ z := by
  intro hc
  have := allBlank_iff.mp h _ hc
  revert this
  decide

theorem not_mem_marks_of_allBlank (h : allBlank z = true) :
    ∀ c ∈ z, c ∉ lineMark ∧ c ∉ openMark ∧ c ∉ closeMark := by
  have hs : isBlank '/' = false := by decide
  have ht : isBlank '*' = false := by decide
  intro c hc
  have hb := allBlank_iff.mp h c hc
  have hslash : c ≠ '/' := by rintro rfl; rw [hs] at hb; cases hb
  have hstar : c ≠ '*' := by rintro rfl; rw [ht] at hb; cases hb
  simp [lineMark, openMark, closeMark, hslash, hstar]

theorem liveSpan_append_blank (hz : allBlank z = true) (hn : '\n' ∉ t ++ z) :
    ∃ z', allBlank z' = true ∧ liveSpan (t ++ z) = ((liveSpan t).1 ++ z', (liveSpan t).2) := by
  have hmarks := not_mem_marks_of_allBlank hz
  have hdrop : dropBlocks (t ++ z) = dropBlocks t ++ z :=
    ((unblocked_dropBlocks fun h => hn (List.mem_append_left z h)).append
      fun c hc => (hmarks c hc).2).eq hn
  obtain ⟨y, hy, hstrip⟩ : ∃ y, (y = [] ∨ y = z) ∧ stripLine (t ++ z) = stripLine t ++ y := by
    rw [stripLine, stripLine, hdrop, before, before,
      cut?_append_of_disjoint (by decide) fun c hc => (hmarks c hc).1]
    cases cut? lineMark (dropBlocks t) with
    | none => exact ⟨z, .inr rfl, rfl⟩
    | some p => exact ⟨[], .inl rfl, (List.append_nil _).symm⟩
  have hyblank : allBlank y = true := by
    rcases hy with rfl | rfl
    · rfl
    · exact hz
  have hymarks := not_mem_marks_of_allBlank hyblank
  rw [liveSpan, liveSpan, hstrip,
    cut?_append_of_disjoint (by decide) fun c hc => (hymarks c hc).2.1]
  cases cut? openMark (stripLine t) with
  | none => exact ⟨y, hyblank, rfl⟩
  | some p => exact ⟨[], rfl, by rw [List.append_nil]; rfl⟩

theorem liveLine_append_blank (hz : allBlank z = true) (hn : '\n' ∉ t ++ z) :
    liveLine (t ++ z) = liveLine t := by
  obtain ⟨z', hz', he⟩ := liveSpan_append_blank hz hn
  rw [liveLine_eq, liveLine_eq, he, trim_append_of_blank hz']

theorem trim_liveLine (line : Text) : trim (liveLine line).1 = (liveLine line).1 := by
  rw [liveLine_eq, trim_trim]

theorem prefix_liveSpan (t : Text) : (liveSpan t).1 <+: dropBlocks t := by
  refine List.IsPrefix.trans ?_ (prefix_before lineMark (dropBlocks t))
  rw [liveSpan]
  cases h : cut? openMark (stripLine t) with
  | none => exact List.prefix_refl _
  | some p =>
      change p.1 <+: stripLine t
      rw [eq_append_of_cut? h, List.append_assoc]
      exact List.prefix_append _ _

theorem infix_liveLine (hm : ' ' ∉ m) (hn : '\n' ∉ t) (hi : m <:+: (liveLine t).1) : m <:+: t := by
  rw [liveLine_eq] at hi
  exact (unblocked_dropBlocks hn).holds hm
    ((hi.trans (infix_trim _)).trans (prefix_liveSpan t).isInfix)

theorem endsWord_liveSpan (h : endsWord t = true) : endsWord (liveSpan t).1 = true := by
  have hdrop : endsWord (dropBlocks t) = true := by
    cases t with
    | nil => rfl
    | cons c t =>
        cases hb : (after? openMark (c :: t)).bind closedWithin? with
        | none => rw [dropBlocks_of_no_block hb]; exact h
        | some n => rw [dropBlocks_of_block hb]; exact endsWord_cons (by decide) _
  obtain ⟨more, hmore⟩ := prefix_liveSpan t
  rw [← hmore] at hdrop
  exact endsWord_of_append hdrop

theorem liveLine_of_qualified? {storage : Storage} {rest : Text}
    (h : qualified? t = some (storage, rest)) : (liveLine t).2 = (liveSpan rest).2 ∧
      qualified? (liveLine t).1 = some (storage, trimEnd (liveSpan rest).1) := by
  obtain ⟨words, rfl, hr, hq, htrim, hall⟩ := (qualified_of_eq h).exists_words
  have hslash : '/' ∉ words := by
    intro hc
    have hno : ¬ (isWord '/' = true ∨ isBlank '/' = true) := by decide
    exact hno (hall _ hc)
  have hends : endsWord (trimEnd (liveSpan rest).1) = true :=
    endsWord_trimEnd (endsWord_liveSpan hr)
  rw [liveLine_eq, liveSpan_append hslash, trim_append_of_trimmed htrim hq.ne_nil]
  exact ⟨rfl, (hq.append hends).eq⟩

theorem liveSpan_closed (h : (liveSpan t).2 = false) :
    (liveSpan t).1 = stripLine t ∧ Live (stripLine t) := by
  unfold liveSpan at h ⊢
  cases hc : cut? openMark (stripLine t) with
  | none => exact ⟨rfl, not_infix_before (by decide) _, cut?_eq_none_iff.mp hc⟩
  | some p => rw [hc] at h; cases h

theorem variableName?_liveSpan (h : (liveSpan t).2 = false) :
    variableName? (trimEnd (liveSpan t).1) = variableName? t := by
  obtain ⟨hstrip, hlive⟩ := liveSpan_closed h
  have hl : Live (trimEnd (stripLine t)) := hlive.of_infix (infix_trimEnd _)
  have hsame : stripLine (trimEnd (stripLine t)) = trimEnd (stripLine t) := by
    rw [stripLine, dropBlocks_of_no_open hl.block, before_of_not_infix hl.line]
  have htokens : tokens endsName (trimEnd (stripLine t)) = tokens endsName (stripLine t) := by
    obtain ⟨tail, hb, he⟩ := exists_trimEnd (stripLine t)
    conv_rhs => rw [he]
    refine (tokens_append_of_separates (fun c hc => ?_) _).symm
    rw [endsName, endsDeclaration, allBlank_iff.mp hb c hc]
    rfl
  rw [hstrip, variableName?, hsame, htokens]
  rfl

end Span

section Parts

/-- The live part of the next line, which a line that is comment from end to end has not, and
whether a block is open after it. -/
def livePart? (inBlock : Bool) (line : Text) : Option Text × Bool :=
  if inBlock then
    match cut? closeMark line with
    | none => (none, true)
    | some (_, rest) => (some (liveLine rest).1, (liveLine rest).2)
  else (some (liveLine line).1, (liveLine line).2)

theorem liveFrom_nil (inBlock : Bool) : liveFrom inBlock [] = ([], inBlock) := by
  cases inBlock <;> rfl

theorem liveFrom_cons (inBlock : Bool) (line : Text) (rest : List Text) :
    liveFrom inBlock (line :: rest) =
      ((livePart? inBlock line).1.toList ++ (liveFrom (livePart? inBlock line).2 rest).1,
        (liveFrom (livePart? inBlock line).2 rest).2) := by
  cases inBlock with
  | false => rfl
  | true =>
      rw [liveFrom, livePart?, if_pos rfl]
      cases cut? closeMark line <;> rfl

theorem liveFrom_append (inBlock : Bool) (ls ms : List Text) :
    (liveFrom inBlock (ls ++ ms)).1 =
      (liveFrom inBlock ls).1 ++ (liveFrom (liveFrom inBlock ls).2 ms).1 := by
  induction ls generalizing inBlock with
  | nil =>
      rw [liveFrom_nil]
      rfl
  | cons l ls ih =>
      rw [List.cons_append, liveFrom_cons, liveFrom_cons, ih, List.append_assoc]

theorem liveFrom_singleton (inBlock : Bool) (line : Text) : liveFrom inBlock [line] =
    ((livePart? inBlock line).1.toList, (livePart? inBlock line).2) := by
  rw [liveFrom_cons, liveFrom_nil, List.append_nil]

theorem livePart?_append_blank (hz : allBlank z = true) (hn : '\n' ∉ t ++ z) (inBlock : Bool) :
    livePart? inBlock (t ++ z) = livePart? inBlock t := by
  cases inBlock with
  | false =>
      rw [livePart?, livePart?, if_neg (by decide), if_neg (by decide), liveLine_append_blank hz hn]
  | true =>
      have hmarks := not_mem_marks_of_allBlank hz
      rw [livePart?, livePart?, if_pos rfl, if_pos rfl,
        cut?_append_of_disjoint (by decide) fun c hc => (hmarks c hc).2.2]
      cases h : cut? closeMark t with
      | none => rfl
      | some p =>
          obtain ⟨head, r⟩ := p
          have hr : '\n' ∉ r ++ z := by
            intro hc
            apply hn
            rw [eq_append_of_cut? h, List.append_assoc]
            exact List.mem_append_right _ hc
          change (some (liveLine (r ++ z)).1, (liveLine (r ++ z)).2) = _
          rw [liveLine_append_blank hz hr]

theorem not_infix_of_livePart? {inBlock : Bool} (h : (livePart? inBlock t).1 = none) :
    inBlock = true ∧ ¬ closeMark <:+: t := by
  cases inBlock with
  | false => cases h
  | true =>
      refine ⟨rfl, cut?_eq_none_iff.mp ?_⟩
      rw [livePart?, if_pos rfl] at h
      cases hc : cut? closeMark t with
      | none => rfl
      | some p => rw [hc] at h; cases h

theorem livePart?_of_unclosed (h : ¬ closeMark <:+: t) : livePart? true t = (none, true) := by
  rw [livePart?, if_pos rfl, cut?_eq_none_iff.mpr h]

theorem livePart?_true_append (ha : '*' ∉ a) (t : Text) :
    livePart? true (a ++ t) = livePart? true t := by
  rw [livePart?, livePart?, if_pos rfl, if_pos rfl, closeMark, cut?_append ha]
  cases cut? ['*', '/'] t <;> rfl

theorem livePart?_trimEnd (hn : '\n' ∉ t) (inBlock : Bool) :
    livePart? inBlock (trimEnd t) = livePart? inBlock t := by
  obtain ⟨tail, ht, he⟩ := exists_trimEnd t
  conv_rhs => rw [he]
  rw [livePart?_append_blank ht (he ▸ hn)]

/-- A line that is its own live part. -/
structure LiveLine (l : Text) : Prop where
  live : Live l
  trimmed : trim l = l
  newline : '\n' ∉ l

theorem LiveLine.part {l : Text} (h : LiveLine l) : livePart? false l = (some l, false) := by
  rw [livePart?, liveLine_of_no_open h.live.block, liveHead_of_no_mark h.live.line, h.trimmed]
  rfl

theorem liveFrom_of_liveLine {ls : List Text} (h : ∀ l ∈ ls, LiveLine l) :
    (liveFrom false ls).1 = ls := by
  induction ls with
  | nil => rfl
  | cons l ls ih =>
      rw [liveFrom_cons, (h l List.mem_cons_self).part,
        ih fun m hm => h m (List.mem_cons_of_mem l hm)]
      rfl

theorem liveLine_of_newline (hn : '\n' ∉ t) : LiveLine (liveLine t).1 := by
  refine ⟨live_liveLine t, trim_liveLine t, fun hc => hn ?_⟩
  have hi : ['\n'] <:+: t :=
    infix_liveLine (by decide) hn ((List.singleton_infix_iff _ _).mpr hc)
  exact (List.singleton_infix_iff _ _).mp hi

theorem liveLine_of_mem_livePart? {inBlock : Bool} (hn : '\n' ∉ line) :
    ∀ l ∈ (livePart? inBlock line).1, LiveLine l := by
  intro l hl
  have hmem : l ∈ (liveFrom inBlock [line]).1 := by
    rw [liveFrom_singleton]
    exact Option.mem_toList.mpr hl
  obtain ⟨m, hm, rest, hr, rfl⟩ := exists_of_mem_liveFrom hmem
  rw [List.mem_singleton.mp hm] at hr
  exact liveLine_of_newline fun hc => hn (hr.subset hc)

theorem LiveLine.indent {l : Text} (h : LiveLine l) : indent l = [] := by
  have hstart : trimStart l = l := by rw [← h.trimmed, trimStart_trim]
  have hsplit : Text.indent l ++ trimStart l = l := List.takeWhile_append_dropWhile
  rw [hstart] at hsplit
  exact List.append_left_eq_self.mp hsplit

theorem liveLine_of_mem_liveLines {source : Text} (h : t ∈ liveLines source) : LiveLine t := by
  obtain ⟨l, hl, rest, hr, rfl⟩ := exists_of_mem_liveFrom h
  exact liveLine_of_newline fun hc => newline_not_mem_of_mem_lines hl (hr.subset hc)

theorem infix_of_mem_liveLines {source : Text} (h : t ∈ liveLines source) (hm : ' ' ∉ m)
    (hi : m <:+: t) : m <:+: source := by
  obtain ⟨l, hl, rest, hr, rfl⟩ := exists_of_mem_liveFrom h
  have hn : '\n' ∉ rest := fun hc => newline_not_mem_of_mem_lines hl (hr.subset hc)
  exact ((infix_liveLine hm hn hi).trans hr.isInfix).trans (infix_of_mem_lines hl)

theorem liveLines_ne_nil (source : Text) : liveLines source ≠ [] := by
  obtain ⟨l, ls, h⟩ := exists_pieces (· == '\n') source
  rw [liveLines, lines, h, liveFrom_cons]
  exact List.cons_ne_nil _ _

theorem lines_unlines_liveLines (source : Text) :
    lines (unlines (liveLines source)) = liveLines source :=
  lines_unlines (liveLines_ne_nil source) fun _ hl => (liveLine_of_mem_liveLines hl).newline

theorem liveLines_unlines_liveLines (source : Text) :
    liveLines (unlines (liveLines source)) = liveLines source := by
  conv_lhs => rw [liveLines, lines_unlines_liveLines]
  exact liveFrom_of_liveLine fun _ hl => liveLine_of_mem_liveLines hl

theorem scan_unlines_liveLines (s : Text) : scan (unlines (liveLines s)) = scan s := by
  rw [scan, scan, liveLines_unlines_liveLines]

theorem outputNames_unlines_liveLines (s : Text) :
    outputNames (unlines (liveLines s)) = outputNames s := by
  rw [outputNames, outputNames, liveLines_unlines_liveLines]

end Parts

end ShaderPipeline.Glsl
