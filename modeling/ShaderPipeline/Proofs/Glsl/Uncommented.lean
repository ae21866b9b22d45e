import ShaderPipeline.Proofs.Glsl.Blocks

namespace ShaderPipeline.Glsl

open Text

variable {opens : Text → Bool} {broken : Bool} {a l m r s t u z : Text} {c : Char}

section Pass

/-- Where a character stands: outside comments, in a comment to the end of the line, or in a block, of
which a line has ended already or not. -/
inductive Region where
  | code
  | line
  | block (broken : Bool)
  deriving DecidableEq, Repr

/-- The text without its comments. Outside them the mark that comes first opens one; a block within a
line leaves a space, one over several lines their ends. Whether two slashes do open a comment is up to
`opens`, which is asked about what follows them. -/
def uncomment (opens : Text → Bool) : Region → Text → Text
  | _, [] => []
  | .code, '/' :: '*' :: t => uncomment opens (.block false) t
  | .code, '/' :: '/' :: t =>
    if opens t then uncomment opens .line t else '/' :: uncomment opens .code ('/' :: t)
  | .code, c :: t => c :: uncomment opens .code t
  | .line, c :: t => if c = '\n' then c :: uncomment opens .code t else uncomment opens .line t
  | .block broken, '*' :: '/' :: t =>
    if broken then uncomment opens .code t else ' ' :: uncomment opens .code t
  | .block broken, c :: t =>
    if c = '\n' then c :: uncomment opens (.block true) t else uncomment opens (.block broken) t
termination_by structural _ t => t

def always (_ : Text) : Bool := true

/-- They do not if the second of them starts a block that closes on the line. -/
def unlessBlock : Text → Bool
  | '*' :: t => !contains closeMark (t.takeWhile (· != '\n'))
  | _ => true

/-- What follows the slashes of each comment to the end of the line. -/
def lineComments : Region → Text → List Text
  | _, [] => []
  | .code, '/' :: '*' :: t => lineComments (.block false) t
  | .code, '/' :: '/' :: t => t :: lineComments .line t
  | .code, _ :: t => lineComments .code t
  | .line, c :: t => if c = '\n' then lineComments .code t else lineComments .line t
  | .block _, '*' :: '/' :: t => lineComments .code t
  | .block broken, c :: t =>
    if c = '\n' then lineComments (.block true) t else lineComments (.block broken) t
termination_by structural _ t => t

def EndsLine (z : Text) : Prop := ∀ c ∈ z.head?, c = '\n'

theorem endsLine_nil : EndsLine [] := by simp [EndsLine]

theorem endsLine_newline (t : Text) : EndsLine ('\n' :: t) := by simp [EndsLine]

theorem after?_append (hz : EndsLine z) (hm : '\n' ∉ m) (h : after? m t = none) :
    after? m (t ++ z) = none := by
  rw [after?_eq_none_iff] at h ⊢
  intro hp
  rcases List.prefix_or_prefix_of_prefix hp (List.prefix_append t z) with hp' | ⟨x, rfl⟩
  · exact h hp'
  · obtain ⟨y, rfl⟩ := (List.prefix_append_right_inj t).mp hp
    cases x with
    | nil => exact h (by rw [List.append_nil])
    | cons d x =>
        obtain rfl : d = '\n' := hz d rfl
        exact hm (by simp)

theorem uncomment_code_cons (hl : after? lineMark (c :: t) = none)
    (ho : after? openMark (c :: t) = none) :
    uncomment opens .code (c :: t) = c :: uncomment opens .code t := by
  refine uncomment.eq_4 opens c t ?_ ?_
  · rintro u rfl rfl
    cases ho
  · rintro u rfl rfl
    cases hl

theorem uncomment_line (hn : '\n' ∉ a) (hz : EndsLine z) :
    uncomment opens .line (a ++ z) = uncomment opens .code z := by
  induction a with
  | nil =>
      cases z with
      | nil => rfl
      | cons d z =>
          obtain rfl : d = '\n' := hz d rfl
          rw [uncomment_code_cons rfl rfl]
          rfl
  | cons c a ih =>
      rw [List.mem_cons, not_or] at hn
      rw [List.cons_append, uncomment, if_neg (Ne.symm hn.1), ih hn.2]

theorem uncomment_block (hn : '\n' ∉ a) (hz : EndsLine z) :
    uncomment opens (.block broken) (a ++ z) =
      match cut? closeMark a with
      | none => uncomment opens (.block true) z
      | some (_, r) => (if broken then [] else [' ']) ++ uncomment opens .code (r ++ z) := by
  induction a with
  | nil =>
      cases z with
      | nil => rfl
      | cons d z =>
          obtain rfl : d = '\n' := hz d rfl
          rfl
  | cons c a ih =>
      rw [List.mem_cons, not_or] at hn
      rw [cut?]
      cases ha : after? closeMark (c :: a) with
      | some r =>
          obtain ⟨rfl, rfl⟩ : c = '*' ∧ a = '/' :: r := by
            simpa [closeMark] using after?_eq_some_iff.mp ha
          cases broken <;> rfl
      | none =>
          have hno (u : Text) : c = '*' → a ++ z = '/' :: u → False := by
            rintro rfl he
            cases a with
            | nil =>
                rw [List.nil_append] at he
                rw [he] at hz
                exact absurd (hz '/' rfl) (by decide)
            | cons d a =>
                obtain rfl : d = '/' := (List.cons.inj he).1
                cases ha
          rw [List.cons_append, uncomment.eq_7 _ _ _ _ hno, if_neg (Ne.symm hn.1), ih hn.2]
          cases cut? closeMark a <;> rfl

end Pass

section Spans

def spanOf (o : Text) : Text × Bool :=
  match cut? openMark (before lineMark o) with
  | some (head, _) => (head, true)
  | none => (before lineMark o, false)

theorem liveSpan_eq (t : Text) : liveSpan t = spanOf (dropBlocks t) := rfl

theorem spanOf_cons (hl : after? lineMark (c :: t) = none) (ho : after? openMark (c :: t) = none) :
    spanOf (c :: t) = (c :: (spanOf t).1, (spanOf t).2) := by
  have hbefore : before lineMark (c :: t) = c :: before lineMark t := by
    rw [before, before, cut?, hl]
    cases cut? lineMark t <;> rfl
  have hopen : after? openMark (c :: before lineMark t) = none := by
    rw [after?_eq_none_iff] at ho ⊢
    exact fun hp => ho (hp.trans ((List.prefix_cons_inj c).mpr (prefix_before lineMark t)))
  rw [spanOf, spanOf, hbefore, cut?, hopen]
  cases cut? openMark (before lineMark t) <;> rfl

theorem head?_dropBlocks (h : ∀ c ∈ t.head?, c ≠ '/') : (dropBlocks t).head? = t.head? := by
  cases t with
  | nil => rfl
  | cons c t =>
      have hc : ¬ '/' = c := Ne.symm (h c rfl)
      rw [dropBlocks_of_no_block (by rw [openMark, after?, if_neg hc]; rfl)]
      rfl

theorem liveSpan_cons (hl : after? lineMark (c :: t) = none) (ho : after? openMark (c :: t) = none) :
    liveSpan (c :: t) = (c :: (liveSpan t).1, (liveSpan t).2) := by
  rw [liveSpan_eq, liveSpan_eq, dropBlocks_of_no_block (by rw [ho]; rfl)]
  by_cases hc : c = '/'
  case neg =>
    have hno (ms : Text) : after? ('/' :: ms) (c :: dropBlocks t) = none := by
      rw [after?, if_neg (Ne.symm hc)]
    exact spanOf_cons (hno _) (hno _)
  case pos =>
    subst hc
    have hhead : ∀ d ∈ t.head?, d ≠ '/' ∧ d ≠ '*' := by
      intro d hd
      cases t with
      | nil => cases hd
      | cons e t =>
          obtain rfl : e = d := by simpa using hd
          constructor
          · rintro rfl
            cases hl
          · rintro rfl
            cases ho
    have hsame := head?_dropBlocks fun d hd => (hhead d hd).1
    have hno (d : Char) (hd : d ∉ (dropBlocks t).head?) :
        after? ['/', d] ('/' :: dropBlocks t) = none := by
      cases hdrop : dropBlocks t with
      | nil => rfl
      | cons e o =>
          have he : ¬ d = e := by
            rintro rfl
            exact hd (by rw [hdrop]; rfl)
          rw [after?, if_pos rfl, after?, if_neg he]
    exact spanOf_cons (hno '/' fun hd => (hhead _ (hsame ▸ hd)).1 rfl)
      (hno '*' fun hd => (hhead _ (hsame ▸ hd)).2 rfl)

theorem liveSpan_block (hn : '\n' ∉ u) (h : cut? closeMark u = some (m, r)) :
    liveSpan ('/' :: '*' :: u) = (' ' :: (liveSpan r).1, (liveSpan r).2) := by
  have hlen : (after? openMark ('/' :: '*' :: u)).bind closedWithin? = some (m.length + 2) := by
    rw [show after? openMark ('/' :: '*' :: u) = some u from rfl, Option.bind_some,
      closedWithin?_eq hn, h]
    rfl
  have hdrop : ('*' :: u).drop (m.length + 2 + 1) = r := by
    rw [eq_append_of_cut? h, List.drop_succ_cons]
    exact List.drop_left' (by simp [closeMark])
  rw [liveSpan_eq, liveSpan_eq, dropBlocks_of_block hlen, hdrop]
  exact spanOf_cons rfl rfl

theorem liveSpan_unclosed (hn : '\n' ∉ u) (h : cut? closeMark u = none) :
    liveSpan ('/' :: '*' :: u) = ([], true) := by
  have hcut : cut? openMark ('/' :: '*' :: u) = some ([], u) := rfl
  have hdrop : dropBlocks ('/' :: '*' :: u) = '/' :: '*' :: u :=
    (Unblocked.unclosed hcut h).eq (by simpa using hn)
  have hbefore : before lineMark ('/' :: '*' :: u) = '/' :: '*' :: before lineMark u := by
    have hl : after? lineMark ('/' :: '*' :: u) = none := rfl
    have hl' : after? lineMark ('*' :: u) = none := rfl
    rw [before, before, cut?, hl, cut?, hl']
    cases cut? lineMark u <;> rfl
  rw [liveSpan_eq, hdrop, spanOf, hbefore]
  rfl

theorem unlessBlock_append (hn : '\n' ∉ t) (hz : EndsLine z) :
    unlessBlock (t ++ z) = unlessBlock t := by
  have htake {t z : Text} (hn : '\n' ∉ t) (hz : EndsLine z) :
      (t ++ z).takeWhile (· != '\n') = t.takeWhile (· != '\n') := by
    have hall : ∀ c ∈ t, (c != '\n') = true := fun c hc => by
      rw [bne_iff_ne]
      rintro rfl
      exact hn hc
    rw [List.takeWhile_append_of_pos hall, List.takeWhile_eq_self_iff.mpr hall]
    cases z with
    | nil => exact List.append_nil t
    | cons d z =>
        obtain rfl : d = '\n' := hz d rfl
        exact List.append_nil t
  cases t with
  | nil =>
      cases z with
      | nil => rfl
      | cons d z =>
          obtain rfl : d = '\n' := hz d rfl
          rfl
  | cons c t =>
      rw [List.mem_cons, not_or] at hn
      by_cases hc : c = '*'
      · subst hc
        rw [List.cons_append, unlessBlock, htake hn.2 hz]
        rfl
      · rw [List.cons_append, unlessBlock, unlessBlock]
        · exact fun u he => hc (List.cons.inj he).1
        · exact fun u he => hc (List.cons.inj he).1

theorem unlessBlock_eq_true_iff (hn : '\n' ∉ t) :
    unlessBlock t = true ↔ (after? openMark ('/' :: t)).bind closedWithin? = none := by
  cases t with
  | nil => exact iff_of_true rfl rfl
  | cons c t =>
      by_cases hc : c = '*'
      · subst hc
        have hnt : '\n' ∉ t := fun h => hn (List.mem_cons_of_mem _ h)
        have hall : t.takeWhile (· != '\n') = t := by
          refine List.takeWhile_eq_self_iff.mpr fun c hc => ?_
          rw [bne_iff_ne]
          rintro rfl
          exact hnt hc
        rw [show after? openMark ('/' :: '*' :: t) = some t from rfl, Option.bind_some,
          closedWithin?_eq hnt, unlessBlock, hall, Bool.not_eq_true', contains,
          Option.map_eq_none_iff, Option.isSome_eq_false_iff, Option.isNone_iff_eq_none]
      · have hopen : after? openMark ('/' :: c :: t) = none := by
          rw [openMark, after?, if_pos rfl, after?, if_neg (Ne.symm hc)]
        rw [hopen, unlessBlock]
        · exact iff_of_true rfl rfl
        · exact fun u he => hc (List.cons.inj he).1

theorem liveSpan_comment (hn : '\n' ∉ t) (h : unlessBlock t = true) :
    liveSpan ('/' :: '/' :: t) = ([], false) := by
  have hdrop : dropBlocks ('/' :: '/' :: t) = '/' :: '/' :: dropBlocks t := by
    rw [dropBlocks_of_no_block rfl, dropBlocks_of_no_block ((unlessBlock_eq_true_iff hn).mp h)]
  rw [liveSpan_eq, hdrop]
  rfl

theorem liveSpan_slash (hn : '\n' ∉ t) (h : unlessBlock t = false) :
    liveSpan ('/' :: '/' :: t) = ('/' :: (liveSpan ('/' :: t)).1, (liveSpan ('/' :: t)).2) := by
  have hblock := (unlessBlock_eq_true_iff hn).not.mp (by rw [h]; decide)
  obtain ⟨n, hn⟩ := Option.ne_none_iff_exists'.mp hblock
  rw [liveSpan_eq, liveSpan_eq, dropBlocks_of_no_block rfl, dropBlocks_of_block hn]
  exact spanOf_cons rfl rfl

theorem uncomment_code (hn : '\n' ∉ l) (hz : EndsLine z) :
    uncomment unlessBlock .code (l ++ z) = (liveSpan l).1 ++
      uncomment unlessBlock (if (liveSpan l).2 then .block true else .code) z := by
  induction hk : l.length using Nat.strong_induction_on generalizing l with
  | _ k ih =>
      cases l with
      | nil => rfl
      | cons c t =>
          have hnt : '\n' ∉ t := fun h => hn (List.mem_cons_of_mem c h)
          have iht := ih t.length (by simp [← hk]) hnt rfl
          by_cases hl : lineMark <+: c :: t
          · obtain ⟨u, hu⟩ := hl
            obtain ⟨rfl, rfl⟩ : '/' = c ∧ '/' :: u = t := by simpa [lineMark] using hu
            have hnu : '\n' ∉ u := fun h => hnt (List.mem_cons_of_mem _ h)
            rw [List.cons_append, List.cons_append, uncomment, unlessBlock_append hnu hz]
            cases hopens : unlessBlock u with
            | true =>
                rw [if_pos rfl, uncomment_line hnu hz, liveSpan_comment hnu hopens]
                rfl
            | false =>
                rw [if_neg (by decide), liveSpan_slash hnu hopens]
                exact congrArg ('/' :: ·) iht
          by_cases ho : openMark <+: c :: t
          · obtain ⟨u, hu⟩ := ho
            obtain ⟨rfl, rfl⟩ : '/' = c ∧ '*' :: u = t := by simpa [openMark] using hu
            have hnu : '\n' ∉ u := fun h => hnt (List.mem_cons_of_mem _ h)
            rw [List.cons_append, List.cons_append, uncomment, uncomment_block hnu hz]
            cases hcut : cut? closeMark u with
            | none =>
                rw [liveSpan_unclosed hnu hcut]
                rfl
            | some p =>
                obtain ⟨m, r⟩ := p
                have hur : u = m ++ closeMark ++ r := eq_append_of_cut? hcut
                have ihr := ih r.length (by simp [← hk, hur]; omega)
                  (fun h => hnu (hur ▸ List.mem_append_right _ h)) rfl
                rw [liveSpan_block hnu hcut]
                exact congrArg (' ' :: ·) ihr
          · have hline := after?_eq_none_iff.mpr hl
            have hopen := after?_eq_none_iff.mpr ho
            rw [liveSpan_cons hline hopen, List.cons_append,
              uncomment_code_cons (t := t ++ z) (after?_append (t := c :: t) hz (by decide) hline)
                (after?_append (t := c :: t) hz (by decide) hopen), iht]
            rfl

end Spans

section Lines

def regionOf (inBlock : Bool) : Region := if inBlock then .block true else .code

theorem uncomment_newline (t : Text) (inBlock : Bool) :
    uncomment opens (regionOf inBlock) ('\n' :: t) = '\n' :: uncomment opens (regionOf inBlock) t := by
  cases inBlock <;> rfl

theorem newline_not_mem_liveSpan (hn : '\n' ∉ t) : '\n' ∉ (liveSpan t).1 := by
  intro hc
  have hi : ['\n'] <:+: dropBlocks t :=
    (List.singleton_infix_iff _ _).mpr ((prefix_liveSpan t).subset hc)
  exact hn ((List.singleton_infix_iff _ _).mp ((unblocked_dropBlocks hn).holds (by decide) hi))

theorem exists_uncomment_line (hn : '\n' ∉ l) (inBlock : Bool) : ∃ x, '\n' ∉ x ∧
    [trim x].filter (· != []) = (livePart? inBlock l).1.toList.filter (· != []) ∧
    ∀ z, EndsLine z → uncomment unlessBlock (regionOf inBlock) (l ++ z) =
      x ++ uncomment unlessBlock (regionOf (livePart? inBlock l).2) z := by
  have hspan {r : Text} (hr : '\n' ∉ r) : ∃ x, '\n' ∉ x ∧
      [trim x].filter (· != []) = [(liveLine r).1].filter (· != []) ∧
      ∀ z, EndsLine z → uncomment unlessBlock .code (r ++ z) =
        x ++ uncomment unlessBlock (regionOf (liveLine r).2) z :=
    ⟨(liveSpan r).1, newline_not_mem_liveSpan hr, by rw [liveLine_eq],
      fun z hz => by rw [liveLine_eq]; exact uncomment_code hr hz⟩
  cases inBlock with
  | false => exact hspan hn
  | true =>
      rw [livePart?, if_pos rfl]
      cases hc : cut? closeMark l with
      | none => exact ⟨[], by simp, rfl, fun z hz => by
          rw [regionOf, if_pos rfl, uncomment_block hn hz, hc]
          rfl⟩
      | some p =>
          obtain ⟨head, r⟩ := p
          obtain ⟨x, hx, hlive, hpass⟩ := hspan (r := r) fun h => hn (by simp [eq_append_of_cut? hc, h])
          refine ⟨x, hx, hlive, fun z hz => ?_⟩
          rw [regionOf, if_pos rfl, uncomment_block hn hz, hc]
          exact hpass z hz

theorem filter_liveFrom {ls : List Text} (hn : ∀ l ∈ ls, '\n' ∉ l) (inBlock : Bool) :
    (liveFrom inBlock ls).1.filter (· != []) =
      ((lines (uncomment unlessBlock (regionOf inBlock) (unlines ls))).map trim).filter (· != []) := by
  induction ls generalizing inBlock with
  | nil => cases inBlock <;> rfl
  | cons l ls ih =>
      obtain ⟨hl, hls⟩ := List.forall_mem_cons.mp hn
      obtain ⟨x, hx, hlive, hpass⟩ := exists_uncomment_line hl inBlock
      have hone : lines x = [x] := pieces_of_whole (whole_of_newline_not_mem hx)
      rw [liveFrom_cons, List.filter_append, ← hlive, ih hls]
      cases ls with
      | nil =>
          have hend := hpass [] endsLine_nil
          rw [List.append_nil] at hend
          rw [unlines, unlines, hend, uncomment, List.append_nil, hone]
          exact List.append_nil _
      | cons k ks =>
          have hsplit (y : Text) : lines (x ++ '\n' :: y) = x :: lines y := by
            unfold lines
            exact pieces_append (whole_of_newline_not_mem hx) rfl y
          have hjoin : unlines (l :: k :: ks) = l ++ '\n' :: unlines (k :: ks) := rfl
          rw [hjoin, hpass _ (endsLine_newline _), uncomment_newline, hsplit, List.map_cons,
            ← List.filter_append]
          rfl

end Lines

section Comparison

/-- The second text has ended the line where the first goes on with a slash. -/
def Overruns (x y : Text) : Prop :=
  ∃ pre more rest, x = pre ++ '/' :: more ∧ y = pre ++ rest ∧ EndsLine rest

/-- What the two passes leave is the same, or they have parted; whether they do is up to the comments
to the end of a line. -/
inductive Compared (comments : List Text) : Text → Text → Prop
  | same {x : Text} (h : ∀ u ∈ comments, unlessBlock u = true) : Compared comments x x
  | parted {x y u : Text} (hu : u ∈ comments) (hb : unlessBlock u = false) (h : Overruns x y) :
      Compared comments x y

theorem Compared.cons {comments : List Text} {x y : Text} (h : Compared comments x y) (c : Char) :
    Compared comments (c :: x) (c :: y) := by
  cases h with
  | same h => exact .same h
  | parted hu hb h =>
      obtain ⟨pre, more, rest, rfl, rfl, hrest⟩ := h
      exact .parted hu hb ⟨c :: pre, more, rest, rfl, rfl, hrest⟩

theorem Compared.comment {comments : List Text} {x y : Text} (h : Compared comments x y)
    (hu : unlessBlock u = true) : Compared (u :: comments) x y := by
  cases h with
  | same h => exact .same (List.forall_mem_cons.mpr ⟨hu, h⟩)
  | parted hv hb h => exact .parted (List.mem_cons_of_mem u hv) hb h

theorem endsLine_uncomment_line (t : Text) : EndsLine (uncomment opens .line t) := by
  induction t with
  | nil => exact endsLine_nil
  | cons c t ih =>
      rw [uncomment]
      split
      · next hc => exact hc ▸ endsLine_newline _
      · exact ih

/-- The passes go together up to the first two slashes that they do not both take for a comment. -/
theorem compared_uncomment (region : Region) (t : Text) : Compared (lineComments region t)
    (uncomment unlessBlock region t) (uncomment always region t) := by
  induction region, t using uncomment.induct unlessBlock with
  | case1 => simpa [uncomment, lineComments] using .same (by simp)
  | case2 t ih => exact ih
  | case3 t hopens ih =>
      rw [uncomment, if_pos hopens, uncomment.eq_3 always, if_pos (show always t = true from rfl)]
      exact ih.comment hopens
  | case4 t hopens _ =>
      rw [uncomment, if_neg hopens, uncomment.eq_3 always, if_pos (show always t = true from rfl)]
      exact .parted (u := t) List.mem_cons_self (by simpa using hopens)
        ⟨[], _, _, rfl, rfl, endsLine_uncomment_line t⟩
  | case5 c t hblock hline ih =>
      rw [uncomment.eq_4 _ _ _ hblock hline, uncomment.eq_4 _ _ _ hblock hline,
        lineComments.eq_4 _ _ hblock hline]
      exact ih.cons c
  | case6 t ih => exact ih.cons '\n'
  | case7 c t hc ih =>
      rw [uncomment, if_neg hc, uncomment, if_neg hc, lineComments, if_neg hc]
      exact ih
  | case8 t ih => exact ih
  | case9 broken t hb ih =>
      rw [uncomment, if_neg hb, uncomment, if_neg hb]
      exact ih.cons ' '
  | case10 broken t _ ih => exact ih.cons '\n'
  | case11 broken c t hclose hc ih =>
      rw [uncomment.eq_7 _ _ _ _ hclose, if_neg hc, uncomment.eq_7 _ _ _ _ hclose, if_neg hc,
        lineComments.eq_7 _ _ _ hclose, if_neg hc]
      exact ih

theorem count_slash_trim (t : Text) : (trim t).count '/' = t.count '/' := by
  obtain ⟨lead, tail, hl, ht, he⟩ := exists_trim t
  have hnone {b : Text} (hb : allBlank b = true) : b.count '/' = 0 :=
    List.count_eq_zero.mpr (slash_not_mem_of_allBlank hb)
  conv_rhs => rw [he, List.count_append, List.count_append, hnone hl, hnone ht]
  omega

theorem mem_uncomment (opens : Text → Bool) (region : Region) (t : Text) :
    ∀ c ∈ uncomment opens region t, c = ' ' ∨ c ∈ t := by
  fun_induction uncomment opens region t <;> grind

theorem Overruns.trim_ne {x y : Text} (h : Overruns x y) (hy : '\n' ∉ y) : trim x ≠ trim y := by
  obtain ⟨pre, more, rest, rfl, rfl, hrest⟩ := h
  intro he
  have hcount := congrArg (List.count '/') he
  cases rest with
  | nil =>
      simp only [count_slash_trim, List.count_append, List.count_cons_self, List.count_nil] at hcount
      omega
  | cons d rest =>
      obtain rfl : d = '\n' := hrest d rfl
      exact hy (by simp)

theorem eq_of_filter_singleton {x y : Text} (h : [x].filter (· != []) = [y].filter (· != [])) :
    x = y := by
  by_cases hx : x = [] <;> by_cases hy : y = [] <;> simp_all

end Comparison

section Source

/-- The live lines of a source are what the pass leaves that takes two slashes for a comment unless the
second starts a block that closes on the line. This is what the pass of the language leaves, if none
of the comments to the end of a line starts like that; and of one line it is so only then. -/
theorem liveLines_uncomment (s : Text) :
    let live := (liveLines s).filter (· != [])
    let left (opens : Text → Bool) :=
      ((lines (uncomment opens .code s)).map trim).filter (· != [])
    live = left unlessBlock ∧
    ((∀ t ∈ lineComments .code s, unlessBlock t = true) → live = left always) ∧
    ('\n' ∉ s → (live = left always ↔ ∀ t ∈ lineComments .code s, unlessBlock t = true)) := by
  intro live left
  have hlive : live = left unlessBlock := by
    have h := filter_liveFrom (fun l => newline_not_mem_of_mem_lines (p := l) (t := s)) false
    rwa [unlines_lines] at h
  have hcompared := compared_uncomment .code s
  have hclear (h : ∀ t ∈ lineComments .code s, unlessBlock t = true) : live = left always := by
    generalize hx : uncomment unlessBlock .code s = x at hcompared
    cases hcompared with
    | same => rw [hlive]; simp only [left, hx]
    | parted hu hb =>
        rw [h _ hu] at hb
        cases hb
  refine ⟨hlive, hclear, fun hn => ⟨fun h => ?_, hclear⟩⟩
  have hone (opens : Text → Bool) : '\n' ∉ uncomment opens .code s := fun hc =>
    (mem_uncomment opens .code s _ hc).elim (by decide) hn
  have hleft (opens : Text → Bool) :
      left opens = [trim (uncomment opens .code s)].filter (· != []) := by
    simp only [left, lines, pieces_of_whole (whole_of_newline_not_mem (hone opens)), List.map_cons,
      List.map_nil]
  rw [hlive, hleft, hleft] at h
  generalize uncomment unlessBlock .code s = x at hcompared h
  cases hcompared with
  | same hcomments => exact hcomments
  | parted _ _ hparted => exact absurd (eq_of_filter_singleton h) (hparted.trim_ne (hone always))

/-- Marks in comments of the other kind, and slashes that stay apart. -/
def intricate : Text := unlines [
  "uniform float a; // no block /* here".toList,
  "/* uniform float b;".toList,
  " * // uniform float c; */ uniform float d; /* e */ // f".toList,
  "float q = a / /* over */ / d; ///* h */".toList]

theorem liveLines_uncomment_intricate :
    (∀ t ∈ lineComments .code intricate, unlessBlock t = true) ∧
    (liveLines intricate).filter (· != []) =
      ((lines (uncomment always .code intricate)).map trim).filter (· != []) ∧
    '\n' ∉ "x; ///* y */".toList ∧
    (∀ t ∈ lineComments .code "x; ///* y */".toList, unlessBlock t = true) := by
  have hcomments : ∀ t ∈ lineComments .code intricate, unlessBlock t = true := by decide +kernel
  have hline : '\n' ∉ "x; ///* y */".toList := by decide
  exact ⟨hcomments, (liveLines_uncomment intricate).2.1 hcomments, hline,
    ((liveLines_uncomment "x; ///* y */".toList).2.2 hline).mp (by decide +kernel)⟩

def starred : Text := "//* old */ uniform float x;".toList

theorem liveLines_starred :
    (liveLines starred).filter (· != []) = ["/  uniform float x;".toList] ∧
    ((lines (uncomment always .code starred)).map trim).filter (· != []) = [] := by
  decide +kernel

end Source

end ShaderPipeline.Glsl
