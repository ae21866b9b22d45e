import ShaderPipeline.Proofs.Glsl.Passages
import ShaderPipeline.Proofs.Glsl.Written

namespace ShaderPipeline.Glsl

open Text

variable {separates : Char → Bool} {g more rest t w : Text} {names ws : List Text}
  {storage : Storage}

section Openings

theorem Opens.blank_append (hg : allBlank g = true) (hws : ws ≠ []) (h : Opens rest ws t) :
    Opens rest ws (g ++ t) := by
  cases h with
  | rest => exact absurd rfl hws
  | @word k _ u _ hk hw ht h =>
      rw [← List.append_assoc]
      refine .word ?_ hw ht h
      rw [allBlank, List.all_append, Bool.and_eq_true]
      exact ⟨hg, hk⟩

theorem Opens.append (h : Opens rest ws t) (hm : endsWord more = true) :
    Opens (rest ++ more) ws (t ++ more) := by
  induction h with
  | rest he => exact .rest (endsWord_append he hm)
  | word hg hw ht _ ih =>
      rw [List.append_assoc, List.append_assoc]
      exact .word hg hw (endsWord_append ht hm) ih

theorem Opens.endsWord (h : Opens rest ws t) : endsWord rest = true := by
  induction h with
  | rest he => exact he
  | word _ _ _ _ ih => exact ih

theorem Opens.suffix (h : Opens rest ws t) : rest <:+ t := by
  induction h with
  | rest => exact List.suffix_refl rest
  | word _ _ _ _ ih =>
      rw [← List.append_assoc]
      exact ih.trans (List.suffix_append _ _)

theorem Opens.not_allBlank (hws : ws ≠ []) (h : Opens rest ws t) : allBlank t = false := by
  cases h with
  | rest => exact absurd rfl hws
  | word _ hw _ _ => exact not_allBlank_word hw

theorem Opens.tokens (h : Opens rest ws t) (hp : Parts separates)
    (hr : ∀ c ∈ rest.head?, separates c = true) :
    tokens separates t = ws ++ tokens separates rest := by
  induction h with
  | rest => rfl
  | @word g w t ws hg hw ht h ih =>
      have hhead : ∀ c ∈ t.head?, separates c = true := by
        cases h with
        | rest => exact hr
        | word hk hv _ _ => exact separates_head? hp hk hv ht
      rw [tokens_of_separates_append fun c hc => hp.blank c (allBlank_iff.mp hg c hc),
        tokens_token_append (hp.token hw) hhead, ih, List.cons_append]

theorem Qualified.opens (h : Qualified t storage rest) :
    ∃ qs, (∀ q ∈ qs, q ∈ interpolationWords) ∧ Opens rest (qs ++ [storage.word]) t := by
  induction h with
  | @storage t word rest storage hw hs =>
      obtain ⟨ht, hr, _⟩ := leadingWord?_eq_some hw
      obtain rfl := Storage.eq_word_of_ofWord? hs
      subst ht
      exact ⟨[], by simp, .word (g := []) rfl (leadingWord?_storage storage).1 hr (.rest hr)⟩
  | @interpolation t word more rest storage hw hs hi _ ih =>
      obtain ⟨qs, hqs, h⟩ := ih
      obtain ⟨ht, hm, _⟩ := leadingWord?_eq_some hw
      obtain ⟨lead, hl, hmore⟩ := exists_trimStart more
      have hmore' : Opens rest (qs ++ [storage.word]) more := by
        rw [hmore]
        exact h.blank_append hl (by simp)
      subst ht
      refine ⟨word :: qs, ?_, .word (g := []) rfl (leadingWord?_word hw) hm hmore'⟩
      intro q hq
      rcases List.mem_cons.mp hq with rfl | hq
      · exact List.mem_of_elem_eq_true hi
      · exact hqs q hq

end Openings

section Lists

inductive Nested : Text → Prop
  | nil : Nested []
  | cons {c : Char} {t : Text} (hc : c ≠ '[' ∧ c ≠ ']') (h : Nested t) : Nested (c :: t)
  | bracket {t rest : Text} (ht : Nested t) (h : Nested rest) :
      Nested ('[' :: (t ++ ']' :: rest))

/-- The array lengths behind a name: as many as there are, or none. -/
inductive Brackets : Text → Prop
  | blank {g : Text} (hg : allBlank g = true) : Brackets g
  | index {g t rest : Text} (hg : allBlank g = true) (ht : Nested t) (h : Brackets rest) :
      Brackets (g ++ '[' :: (t ++ ']' :: rest))

/-- The text is the names, with commas between them and a semicolon at the end. -/
inductive Declarators : List Text → Text → Prop
  | last {g w b z : Text} (hg : allBlank g = true) (hw : Identifier w) (hb : Brackets b)
      (hz : allBlank z = true) : Declarators [w] (g ++ (w ++ (b ++ ';' :: z)))
  | comma {g w b t : Text} {ws : List Text} (hg : allBlank g = true) (hw : Identifier w)
      (hb : Brackets b) (h : Declarators ws t) : Declarators (w :: ws) (g ++ (w ++ (b ++ ',' :: t)))

theorem Brackets.separates_head? (h : Brackets t) {c : Char} (hc : endsName c = true) :
    ∀ d ∈ (t ++ c :: rest).head?, endsName d = true := by
  cases h with
  | blank hg => exact parts_endsName.head?_append hg (separates_cons hc)
  | index hg =>
      rw [List.append_assoc]
      exact parts_endsName.head?_append hg (separates_cons (by decide))

theorem Declarators.exists_head (h : Declarators names t) :
    ∃ g w rest, names.head? = some w ∧ Identifier w ∧ allBlank g = true ∧ t = g ++ (w ++ rest) ∧
      ∀ c ∈ rest.head?, endsName c = true := by
  cases h with
  | last hg hw hb hz => exact ⟨_, _, _, rfl, hw, hg, rfl, hb.separates_head? (by decide)⟩
  | comma hg hw hb _ => exact ⟨_, _, _, rfl, hw, hg, rfl, hb.separates_head? (by decide)⟩

theorem Declarators.exists_tokens (h : Declarators names rest) (ho : Opens rest ws t) :
    ∃ w more, names.head? = some w ∧ Identifier w ∧ tokens endsName t = ws ++ w :: more := by
  obtain ⟨g, w, u, hname, hw, hg, rfl, hu⟩ := h.exists_head
  refine ⟨w, tokens endsName u, hname, hw, ?_⟩
  rw [ho.tokens parts_endsName (separates_head? parts_endsName hg hw.word ho.endsWord),
    tokens_of_separates_append fun c hc => parts_endsName.blank c (allBlank_iff.mp hg c hc),
    tokens_token_append (parts_endsName.token hw.word) hu]

theorem variableName?_declarators {precision : Option Text} {type : Text}
    (hprecision : ∀ p ∈ precision, p ∈ precisionWords) (htype : Identifier type)
    (ho : Opens rest (precision.toList ++ [type]) t) (h : Declarators names rest) (hlive : Live t) :
    variableName? (trimEnd t) = names.head? := by
  obtain ⟨w, more, hname, hw, htokens⟩ := h.exists_tokens ho
  have hlive' : Live (trimEnd t) := hlive.of_infix (infix_trimEnd t)
  have hstrip : stripLine (trimEnd t) = trimEnd t := stripLine_of_live hlive'
  -- The precision is passed over, and neither the type nor the name is taken for one.
  have hfilter : (tokens endsName t).filter (!precisionWords.elem ·) =
      type :: w :: more.filter (!precisionWords.elem ·) := by
    have hpre : precision.toList.filter (!precisionWords.elem ·) = [] := by
      rw [List.filter_eq_nil_iff]
      intro p hp
      simpa using hprecision p (Option.mem_toList.mp hp)
    have hword {v : Text} (hv : Identifier v) : precisionWords.elem v = false := by
      simpa using hv.notPrecision
    simp only [htokens, List.filter_append, hpre, List.filter_cons, List.filter_nil, hword htype,
      hword hw, Bool.not_false, if_true, List.nil_append, List.cons_append]
  rw [variableName?, hstrip, tokens_trimEnd parts_endsName, hfilter, hname]

end Lists

end ShaderPipeline.Glsl
