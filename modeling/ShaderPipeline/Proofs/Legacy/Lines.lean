import ShaderPipeline.Legacy.Expand
import ShaderPipeline.Proofs.Legacy.Header
import ShaderPipeline.Proofs.Text.Rename
import Mathlib.Data.List.DropRight

namespace ShaderPipeline.Legacy

open Text Glsl

def sinkName : Text := "gl_FragColor".toList

theorem parse_outputTemplate :
    Template.parse "gl_FragColor".toList = .ok (sinkName.map .char) := by rfl

theorem fill_chars (word t : Text) : Template.fill word (t.map .char) = t := by
  induction t with
  | nil => rfl
  | cons c t ih => exact congrArg (c :: ·) ih

def renamed (output : Option Text) (line : Text) : Text :=
  match output with
  | none => line
  | some name => replaceWord name sinkName line

theorem renameOutput_default (p : Progress) (line : Text) :
    renameOutput {} p line = .ok (renamed p.output line) := by
  unfold renameOutput renamed
  cases p.output with
  | none => rfl
  | some name =>
      have hp : Template.parse ({} : Settings).outputTemplate = .ok (sinkName.map .char) :=
        parse_outputTemplate
      dsimp only
      rw [hp]
      dsimp only
      rw [fill_chars]

theorem patched_renamed (output : Option Text) (line : Text) :
    Patched sinkName line (renamed output line) := by
  cases output with
  | none =>
      rw [renamed]
      induction line with
      | nil => exact .nil []
      | cons c line ih => exact .keep c ih
  | some name => exact patched_replaceWord name sinkName line

theorem foreign_sinkName {m : Text} (z : Char) (hz : m.getLast? = some z) (hs : z ∉ sinkName)
    (hr : 'r' ∉ m) : Foreign m sinkName := by
  refine ⟨?_, ⟨"gl_FragColo".toList, 'r', rfl, hr⟩, fun c hc => ?_⟩
  · rintro rfl
    cases hz
  · rw [hz] at hc
    cases hc
    exact hs

theorem foreign_openMark : Foreign openMark sinkName :=
  foreign_sinkName '*' rfl (by decide) (by decide)

theorem newline_not_mem_renamed {output : Option Text} {line : Text} (h : '\n' ∉ line) :
    '\n' ∉ renamed output line :=
  fun hn => ((patched_renamed output line).mem hn).elim (by decide) h

theorem trimEnd_renamed {output : Option Text} {line : Text} (h : trimEnd line = line) :
    trimEnd (renamed output line) = renamed output line := by
  cases output with
  | none => exact h
  | some name => exact trimEnd_replaceWord (by decide) h

/-- Recast a line in which the output already has its new name. -/
def recastRenamed (stage : Stage) (p : Progress) (line : Text) :
    Except Fault (Outcome × Progress) :=
  if p.inBlock then .ok (.keep line, { p with inBlock := !contains closeMark (trim line) })
  else match layout (trim line) with
    | .version => .ok (.drop, p)
    | .comment staysOpen => .ok (.keep line, { p with inBlock := staysOpen })
    | .blank => .ok (.keep [], p)
    | .code => recastCode stage p line (trim line)

def inspected (p : Progress) (raw : Text) : Text := renamed p.output (trimEnd raw)

theorem recastLine_default (stage : Stage) (p : Progress) (raw : Text) :
    recastLine {} stage p raw = recastRenamed stage p (inspected p raw) := by
  rw [recastLine, renameOutput_default, recastRenamed, inspected]
  cases p.inBlock with
  | true => rfl
  | false =>
      change (match layout (trim (renamed p.output (trimEnd raw))) with
        | .version => _
        | .comment staysOpen => _
        | .blank => _
        | .code => _) = _
      cases layout (trim (renamed p.output (trimEnd raw))) <;> rfl

theorem newline_not_mem_inspected {p : Progress} {raw : Text} (h : '\n' ∉ raw) :
    '\n' ∉ inspected p raw :=
  newline_not_mem_renamed fun hc => h ((infix_trimEnd raw).subset hc)

theorem newline_not_mem_varying {line declaration : Text} (hn : '\n' ∉ line)
    (hd : declaration <:+: line) : '\n' ∉ indent line ++ varyingWord ++ declaration := by
  have hindent : indent line <+: line := List.takeWhile_prefix isBlank
  rw [List.append_assoc, List.mem_append, List.mem_append]
  rintro (hc | hc | hc)
  · exact hn (hindent.subset hc)
  · exact absurd hc (by decide)
  · exact hn (hd.subset hc)

theorem trim_varying (line declaration : Text) :
    trim (indent line ++ varyingWord ++ declaration) = varyingWord ++ trimEnd declaration := by
  have hblank : allBlank (indent line) = true := List.all_takeWhile
  rw [List.append_assoc, trim_of_blank_append hblank,
    trim_append_of_trimmed (by decide) (by decide)]

theorem exists_of_mem_recastFrom {settings : Settings} {stage : Stage} {p : Progress}
    {l : Text} {ls : List Text} {I : Progress → Prop} (hp : I p)
    (hstep : ∀ raw ∈ ls, ∀ p outcome p', I p →
      recastLine settings stage p raw = .ok (outcome, p') → I p')
    (h : l ∈ (recastFrom settings stage p ls).lines) :
    ∃ raw ∈ ls, ∃ p p', I p ∧ recastLine settings stage p raw = .ok (.keep l, p') := by
  induction ls generalizing p with
  | nil => cases h
  | cons raw ls ih =>
      rw [recastFrom] at h
      cases hr : recastLine settings stage p raw with
      | error fault => rw [hr] at h; cases h
      | ok r =>
          obtain ⟨outcome, p'⟩ := r
          have hp' := hstep raw List.mem_cons_self p outcome p' hp hr
          rw [hr] at h
          have htail (h : l ∈ (recastFrom settings stage p' ls).lines) :
              ∃ m ∈ raw :: ls, ∃ p p', I p ∧
                recastLine settings stage p m = .ok (.keep l, p') := by
            obtain ⟨m, hm, hrest⟩ :=
              ih hp' (fun m hm => hstep m (List.mem_cons_of_mem raw hm)) h
            exact ⟨m, List.mem_cons_of_mem raw hm, hrest⟩
          cases outcome with
          | keep m =>
              rcases List.mem_cons.mp h with rfl | h
              · exact ⟨raw, List.mem_cons_self, p, p', hp, hr⟩
              · exact htail h
          | drop => exact htail h
          | unnamed declaration => exact htail h

theorem recastFrom_reaches {settings : Settings} {stage : Stage} {p : Progress} {raw : Text}
    {ls : List Text} {I : Progress → Prop} (hp : I p)
    (hstep : ∀ raw ∈ ls, ∀ p outcome p', I p →
      recastLine settings stage p raw = .ok (outcome, p') → I p')
    (h : (recastFrom settings stage p ls).fault = none) (hraw : raw ∈ ls) :
    ∃ q outcome q', I q ∧ recastLine settings stage q raw = .ok (outcome, q') ∧
      ∀ l, outcome = .keep l → l ∈ (recastFrom settings stage p ls).lines := by
  induction ls generalizing p with
  | nil => cases hraw
  | cons m ls ih =>
      rw [recastFrom] at h
      cases hr : recastLine settings stage p m with
      | error fault => rw [hr] at h; cases h
      | ok r =>
          obtain ⟨outcome, p'⟩ := r
          rw [hr] at h
          have hlines : (recastFrom settings stage p (m :: ls)).lines =
              ((recastFrom settings stage p' ls).put outcome).lines := by rw [recastFrom, hr]
          have hrest : (recastFrom settings stage p' ls).fault = none := by cases outcome <;> exact h
          have htail {l : Text} (hl : l ∈ (recastFrom settings stage p' ls).lines) :
              l ∈ ((recastFrom settings stage p' ls).put outcome).lines := by
            cases outcome with
            | keep k => exact List.mem_cons_of_mem k hl
            | drop => exact hl
            | unnamed declaration => exact hl
          rw [hlines]
          rcases List.mem_cons.mp hraw with rfl | hraw
          · refine ⟨p, outcome, p', hp, hr, ?_⟩
            rintro l rfl
            exact List.mem_cons_self
          · obtain ⟨q, o, q', hq, hstep', hkept⟩ :=
              ih (hstep m List.mem_cons_self p outcome p' hp hr)
                (fun k hk => hstep k (List.mem_cons_of_mem m hk)) hrest hraw
            exact ⟨q, o, q', hq, hstep', fun l hl => htail (hkept l hl)⟩

section Trim

variable {ls : List Text}

theorem mem_of_mem_trimLines {l : Text} (h : l ∈ trimLines ls) : l ∈ ls := by
  rw [trimLines, List.mem_reverse] at h
  have hd := (List.dropWhile_sublist allBlank).subset h
  exact (List.dropWhile_sublist allBlank).subset (List.mem_reverse.mp hd)

theorem exists_trimLines (ls : List Text) : ∃ lead tail, (∀ l ∈ lead, allBlank l = true) ∧
    (∀ l ∈ tail, allBlank l = true) ∧ ls = lead ++ (trimLines ls ++ tail) := by
  let rest := (ls.dropWhile allBlank).reverse
  have hrest : rest.takeWhile allBlank ++ rest.dropWhile allBlank = rest :=
    List.takeWhile_append_dropWhile
  refine ⟨ls.takeWhile allBlank, (rest.takeWhile allBlank).reverse, ?_, ?_, ?_⟩
  · exact fun l hl => List.mem_takeWhile_imp hl
  · exact fun l hl => List.mem_takeWhile_imp (List.mem_reverse.mp hl)
  · rw [trimLines, ← List.reverse_append, hrest, List.reverse_reverse,
      List.takeWhile_append_dropWhile]

theorem not_allBlank_of_head_dropWhile {l : Text} (h : (ls.dropWhile allBlank).head? = some l) :
    allBlank l = false := by
  have hl := List.head?_dropWhile_not allBlank ls
  rw [h] at hl
  exact hl

theorem trimLines_trimLines (ls : List Text) : trimLines (trimLines ls) = trimLines ls := by
  obtain ⟨tail, htail⟩ : trimLines ls <+: ls.dropWhile allBlank := by
    rw [← List.reverse_suffix, trimLines, List.reverse_reverse]
    exact List.dropWhile_suffix _
  have hstart : (trimLines ls).dropWhile allBlank = trimLines ls := by
    refine List.dropWhile_eq_self_iff.mpr fun hl => ?_
    have hhead : (ls.dropWhile allBlank).head? = some (trimLines ls)[0] := by
      rw [← htail, List.head?_append, List.head?_eq_getElem?, List.getElem?_eq_getElem hl]
      rfl
    exact Bool.eq_false_iff.mp (not_allBlank_of_head_dropWhile hhead)
  have hend : (trimLines ls).reverse.dropWhile allBlank = (trimLines ls).reverse := by
    rw [trimLines, List.reverse_reverse, List.dropWhile_idempotent]
  conv_lhs => rw [trimLines]
  rw [hstart, hend, List.reverse_reverse]

theorem exists_trimLines_append {hs : List Text} (hh : ∀ l ∈ hs, allBlank l = false)
    (bs : List Text) : ∃ rest, trimLines (hs ++ bs) = hs ++ rest ∧ ∀ l ∈ rest, l ∈ bs := by
  cases hs with
  | nil => exact ⟨trimLines bs, rfl, fun l hl => mem_of_mem_trimLines hl⟩
  | cons h hs =>
      have hstart : (h :: hs ++ bs).dropWhile allBlank = h :: hs ++ bs :=
        List.dropWhile_cons_of_neg (Bool.eq_false_iff.mp (hh h List.mem_cons_self))
      have hend : (h :: hs).reverse.dropWhile allBlank = (h :: hs).reverse :=
        List.dropWhile_eq_self_iff.mpr fun hl =>
          Bool.eq_false_iff.mp (hh _ (List.mem_reverse.mp (List.getElem_mem hl)))
      refine ⟨(bs.reverse.dropWhile allBlank).reverse, ?_, fun l hl => ?_⟩
      · rw [trimLines, hstart, List.reverse_append, List.dropWhile_append, hend]
        split
        · next hb => simp [List.isEmpty_iff.mp hb]
        · rw [List.reverse_append, List.reverse_reverse]
      · exact List.mem_reverse.mp ((List.dropWhile_sublist _).subset (List.mem_reverse.mp hl))

theorem filter_dropWhile {q : Text → Bool} (h : ∀ l, allBlank l = true → q l = false)
    (ls : List Text) : (ls.dropWhile allBlank).filter q = ls.filter q := by
  induction ls with
  | nil => rfl
  | cons l ls ih =>
      cases hb : allBlank l with
      | true => rw [List.dropWhile_cons_of_pos hb, ih, List.filter_cons_of_neg (by simp [h l hb])]
      | false => rw [List.dropWhile_cons_of_neg (by simp [hb])]

theorem filter_trimLines {q : Text → Bool} (h : ∀ l, allBlank l = true → q l = false)
    (ls : List Text) : (trimLines ls).filter q = ls.filter q := by
  rw [trimLines, List.filter_reverse, filter_dropWhile h, List.filter_reverse, List.reverse_reverse,
    filter_dropWhile h]

end Trim

theorem lines_unlines_cases {ls : List Text} (h : ∀ l ∈ ls, '\n' ∉ l) :
    lines (unlines ls) = ls ∨ ls = [] ∧ lines (unlines ls) = [[]] := by
  cases ls with
  | nil => exact .inr ⟨rfl, rfl⟩
  | cons l ls => exact .inl (lines_unlines (List.cons_ne_nil l ls) h)

theorem infix_unlines_iff {m : Text} (hm : m ≠ []) (hn : '\n' ∉ m) :
    m <:+: unlines ls ↔ ∃ l ∈ ls, m <:+: l := by
  induction ls with
  | nil =>
      rw [unlines, List.infix_nil]
      simp [hm]
  | cons l ls ih =>
      cases ls with
      | nil => simp [unlines]
      | cons k ks =>
          change m <:+: l ++ '\n' :: unlines (k :: ks) ↔ _
          constructor
          · intro h
            rcases infix_append_cons hn h with h | h
            · exact ⟨l, List.mem_cons_self, h⟩
            · obtain ⟨j, hj, hi⟩ := ih.mp h
              exact ⟨j, List.mem_cons_of_mem l hj, hi⟩
          · rintro ⟨j, hj, h⟩
            rcases List.mem_cons.mp hj with rfl | hj
            · exact h.trans (List.prefix_append j _).isInfix
            · have hi := ih.mpr ⟨j, hj, h⟩
              exact (hi.trans (List.suffix_cons _ _).isInfix).trans (List.suffix_append l _).isInfix

theorem readNumeral_eq_ok {t : Text} {n : Nat} (h : readNumeral t = .ok n) :
    t.length ≤ numeralLimit := by
  rw [readNumeral] at h
  split at h
  case isTrue hl => exact hl
  case isFalse => cases h

theorem writable_of_written {good : Text → Prop} {i : Interface} (h : i.Written good) :
    writable i = true :=
  List.all_eq_true.mpr fun u hu => decide_eq_true (readNumeral_eq_ok (h.uniforms u hu).length)

theorem convert_text (settings : Settings) (stage : Stage) (s : Text) :
    (convert settings stage none s).text =
      if stage.convertible then (scan s).bind fun i =>
        match (recast settings stage (lines (renameVertexIndex settings s))).fault with
        | some fault => .error fault
        | none => .ok (unlines (trimLines (header settings (usesVertexIndex settings s) i ++
            (recast settings stage (lines (renameVertexIndex settings s))).lines)))
      else .error (.notConvertible stage) := by
  unfold convert
  split
  · cases hs : scan s with
    | error fault => rfl
    | ok i =>
        dsimp only
        rw [convertWith, if_pos (writable_of_written (scan_written hs))]
        rfl
  · rfl

theorem fault_of_text {settings : Settings} {stage : Stage} {s t : Text}
    (h : (convert settings stage none s).text = .ok t) :
    (recast settings stage (lines (renameVertexIndex settings s))).fault = none := by
  rw [convert_text] at h
  split at h
  case isFalse => cases h
  case isTrue =>
      cases hs : scan s with
      | error fault => rw [hs] at h; cases h
      | ok i =>
          rw [hs, Except.bind] at h
          cases hf : (recast settings stage (lines (renameVertexIndex settings s))).fault with
          | none => rfl
          | some fault => rw [hf] at h; cases h

theorem convertible_of_text {settings : Settings} {stage : Stage} {s t : Text}
    (h : (convert settings stage none s).text = .ok t) : stage.convertible = true := by
  by_contra hstage
  rw [convert_text, if_neg hstage] at h
  cases h

section Expand

instance : Records Unit where
  record _ _ _ := ()

variable {W : Type} [Records W] {settings : Settings} {stage : Stage} {code t : Text} {w : W}

theorem outcome_forM_note (f : Text → Text) (xs : List Text) (w : W) :
    ∃ w', (xs.forM fun x => (note .warning (f x) : Act W Unit)).outcome w = (.ok (), w') := by
  induction xs generalizing w with
  | nil => exact ⟨w, rfl⟩
  | cons x xs ih =>
      obtain ⟨w', hw⟩ := ih (Records.record .warning (f x) w)
      exact ⟨w', hw⟩

theorem outcome_convertAndExpand_of_text {i : Option Glsl.Interface}
    {resolver : Option (Text → Act W Text)} (h : (convert settings stage i code).text = .ok t)
    (hm : contains settings.macroToken t = false) (w : W) :
    ((Legacy.convertAndExpand settings stage i resolver code : Act W Text).outcome w).1 =
      .ok t := by
  rw [Legacy.convertAndExpand]
  obtain ⟨w', hw⟩ := outcome_forM_note unnamedReport (convert settings stage i code).unnamed w
  rw [Act.outcome_bind_ok _ hw, h]
  change ((expandLeft settings resolver t : Act W Text).outcome w').1 = _
  unfold expandLeft
  rw [Act.outcome_ite, hm]
  rfl

theorem outcome_convertAndExpand (settings : Settings) (stage : Stage) (code : Text) (w : W) :
    ((Legacy.convertAndExpand settings stage none none code : Act W Text).outcome w).1 =
      match (convert settings stage none code).text with
      | .error fault => .error fault
      | .ok text => if contains settings.macroToken text then .error .macrosLeft else .ok text := by
  rw [Legacy.convertAndExpand]
  obtain ⟨w', hw⟩ := outcome_forM_note unnamedReport (convert settings stage none code).unnamed w
  rw [Act.outcome_bind_ok _ hw]
  cases (convert settings stage none code).text with
  | error fault => rfl
  | ok text =>
      change ((expandLeft settings none text : Act W Text).outcome w').1 = _
      rw [expandLeft]
      rw [Act.outcome_ite]
      dsimp only
      by_cases h : contains settings.macroToken text = true
      · rw [if_pos h, if_pos h]
        rfl
      · rw [if_neg h, if_neg h]
        rfl

theorem text_of_outcome
    (h : ((Legacy.convertAndExpand settings stage none none code : Act W Text).outcome w).1 = .ok t) :
    (convert settings stage none code).text = .ok t ∧ contains settings.macroToken t = false := by
  rw [outcome_convertAndExpand] at h
  split at h
  · cases h
  · next text hc =>
      split at h
      · cases h
      · next hm =>
          cases h
          exact ⟨hc, Bool.eq_false_iff.mpr hm⟩

end Expand

end ShaderPipeline.Legacy
