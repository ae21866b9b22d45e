import ShaderPipeline.Proofs.Glsl.Passages

namespace ShaderPipeline.Glsl

open Text

variable {t word gap rest : Text} {storage : Storage}

/-- A storage qualifier and what follows it, behind interpolation qualifiers with blanks after
each. -/
inductive Qualification where
  | storage (storage : Storage) (rest : Text) (hr : endsWord rest = true)
  | interpolation (word gap : Text) (hw : word ∈ interpolationWords) (hne : gap ≠ [])
      (hg : allBlank gap = true) (more : Qualification)

namespace Qualification

def text : Qualification → Text
  | .storage storage rest _ => storage.word ++ rest
  | .interpolation word gap _ _ _ more => word ++ (gap ++ more.text)

def split : Qualification → Storage × Text
  | .storage storage rest _ => (storage, rest)
  | .interpolation _ _ _ _ _ more => more.split

def first : Qualification → Text × Text
  | .storage storage rest _ => (storage.word, rest)
  | .interpolation word gap _ _ _ more => (word, gap ++ more.text)

theorem leadingWord?_text (q : Qualification) : leadingWord? q.text = some q.first := by
  cases q with
  | storage storage rest hr => exact leadingWord?_append (leadingWord?_storage storage).1 hr
  | interpolation word gap hw hne hg more =>
      obtain ⟨c, g, rfl⟩ := List.exists_cons_of_ne_nil hne
      have hc : isBlank c = true := allBlank_iff.mp hg c List.mem_cons_self
      exact leadingWord?_append (leadingWord?_interpolation word hw).1
        (endsWord_cons (not_isWord_of_isBlank hc) _)

theorem trimStart_append_text (hg : allBlank gap = true) (q : Qualification) :
    trimStart (gap ++ q.text) = q.text := by
  rw [trimStart_append_of_blank hg, trimStart_leadingWord? q.leadingWord?_text]

theorem qualified (q : Qualification) : Qualified q.text q.split.1 q.split.2 := by
  induction q with
  | storage storage rest hr =>
      exact .storage (leadingWord?_text (.storage storage rest hr)) (leadingWord?_storage storage).2
  | interpolation word gap hw hne hg more ih =>
      refine .interpolation (leadingWord?_text (.interpolation word gap hw hne hg more))
        (leadingWord?_interpolation word hw).2 (List.elem_eq_true_of_mem hw) ?_
      rw [more.trimStart_append_text hg]
      exact ih

theorem exists_of_qualified (h : Qualified t storage rest) :
    ∃ q : Qualification, q.text = t ∧ q.split = (storage, rest) := by
  induction h with
  | @storage t word rest storage hw hs =>
      obtain ⟨rfl, hr, _⟩ := leadingWord?_eq_some hw
      obtain rfl := Storage.eq_word_of_ofWord? hs
      exact ⟨.storage storage rest hr, rfl, rfl⟩
  | @interpolation t word more rest storage hw hs hi _ ih =>
      obtain ⟨q, hq, hsplit⟩ := ih
      obtain ⟨gap, hg, hmore⟩ := exists_trimStart more
      obtain ⟨rfl, hends, _⟩ := leadingWord?_eq_some hw
      -- The word before `more` ends there, and behind the blanks another one begins.
      have hne : gap ≠ [] := by
        rintro rfl
        rw [hmore, List.nil_append, ← hq, not_endsWord_of_leadingWord? q.leadingWord?_text] at hends
        cases hends
      refine ⟨.interpolation word gap (List.mem_of_elem_eq_true hi) hne hg q, ?_, hsplit⟩
      rw [text, hq, ← hmore]

theorem first_eq_of_text_eq {q q' : Qualification} (h : q.text = q'.text) : q.first = q'.first :=
  Option.some.inj (q.leadingWord?_text.symm.trans (h ▸ q'.leadingWord?_text))

theorem text_injective : Function.Injective text := by
  intro q
  induction q with
  | storage storage rest hr =>
      intro q' h
      have hs := (leadingWord?_storage storage).2
      cases q' with
      | storage storage' rest' hr' =>
          have hfirst : (storage.word, rest) = (storage'.word, rest') := first_eq_of_text_eq h
          obtain ⟨hword, rfl⟩ := Prod.mk.inj hfirst
          rw [hword, (leadingWord?_storage storage').2] at hs
          obtain rfl := Option.some.inj hs
          rfl
      | interpolation word gap hw hne hg more =>
          have hword : storage.word = word := congrArg Prod.fst (first_eq_of_text_eq h)
          rw [hword, (leadingWord?_interpolation word hw).2] at hs
          cases hs
  | interpolation word gap hw hne hg more ih =>
      intro q' h
      have hs := (leadingWord?_interpolation word hw).2
      cases q' with
      | storage storage rest hr =>
          have hword : word = storage.word := congrArg Prod.fst (first_eq_of_text_eq h)
          rw [hword, (leadingWord?_storage storage).2] at hs
          cases hs
      | interpolation word' gap' hw' hne' hg' more' =>
          have hfirst : (word, gap ++ more.text) = (word', gap' ++ more'.text) :=
            first_eq_of_text_eq h
          obtain ⟨rfl, hrest⟩ := Prod.mk.inj hfirst
          have hmore : more.text = more'.text := by
            rw [← more.trimStart_append_text hg, hrest, more'.trimStart_append_text hg']
          obtain rfl := ih hmore
          obtain rfl := List.append_cancel_right hrest
          rfl

end Qualification

/-- A storage qualifier is split off just the texts that spell it, each of which is spelled in one
way; any other text stays whole. -/
theorem splitQualifier_spelled (t : Text) :
    (∀ storage rest, splitQualifier t = (some storage, rest) ↔
      ∃ q : Qualification, q.text = t ∧ q.split = (storage, rest)) ∧
    (∀ q q' : Qualification, q.text = t → q'.text = t → q = q') ∧
    ((∀ q : Qualification, q.text ≠ t) → splitQualifier t = (none, t)) := by
  refine ⟨fun storage rest => ⟨fun h => ?_, ?_⟩, ?_, fun h => ?_⟩
  · rw [splitQualifier] at h
    cases hq : qualified? t with
    | none =>
        rw [hq] at h
        cases h
    | some p =>
        rw [hq] at h
        cases h
        exact Qualification.exists_of_qualified (qualified_of_eq hq)
  · rintro ⟨q, rfl, hsplit⟩
    rw [splitQualifier, q.qualified.eq, hsplit]
  · rintro q q' rfl h
    exact Qualification.text_injective h.symm
  · cases hq : qualified? t with
    | none => rw [splitQualifier, hq]
    | some p =>
        obtain ⟨q, hq, _⟩ := Qualification.exists_of_qualified (qualified_of_eq hq)
        exact absurd hq (h q)

theorem splitQualifier_spelled_flat :
    splitQualifier "flat \tout int id;".toList = (some .output, " int id;".toList) ∧
    splitQualifier "layout(location = 0) in vec3 p;".toList =
      (none, "layout(location = 0) in vec3 p;".toList) := by
  obtain ⟨hsplit, _, _⟩ := splitQualifier_spelled "flat \tout int id;".toList
  obtain ⟨_, _, hwhole⟩ := splitQualifier_spelled "layout(location = 0) in vec3 p;".toList
  refine ⟨(hsplit _ _).mpr ⟨.interpolation "flat".toList " \t".toList (by decide) (by decide)
    (by decide) (.storage .output " int id;".toList (by decide)), rfl, rfl⟩, hwhole fun q h => ?_⟩
  have hfirst : q.first.1 = layoutWord := by
    have hword := q.leadingWord?_text
    rw [h] at hword
    exact congrArg Prod.fst (Option.some.inj hword.symm)
  cases q with
  | storage storage rest hr =>
      have hother : storage.word ≠ layoutWord := by cases storage <;> decide
      exact hother hfirst
  | interpolation word gap hw hne hg more =>
      have hlayout : layoutWord ∉ interpolationWords := by decide
      exact hlayout (hfirst ▸ hw)

end ShaderPipeline.Glsl
