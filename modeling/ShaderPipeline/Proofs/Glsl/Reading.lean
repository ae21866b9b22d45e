import ShaderPipeline.Proofs.Glsl.LineComments

namespace ShaderPipeline.Glsl

open Text

variable {t rest more line : Text} {storage : Storage}

theorem Storage.eq_word_of_ofWord? {word : Text} (h : ofWord? word = some storage) :
    word = storage.word := by
  rw [ofWord?] at h
  split at h
  case isTrue hin =>
      cases h
      exact hin
  case isFalse =>
      split at h
      case isTrue hout =>
          cases h
          exact hout
      case isFalse => cases h

theorem qualified?_cases (t : Text) : qualified? t =
    match leadingWord? t with
    | none => none
    | some (word, rest) =>
      match Storage.ofWord? word with
      | some storage => some (storage, rest)
      | none => if interpolationWords.elem word then qualified? (trimStart rest) else none := by
  rw [qualified?]
  split
  case h_1 h => rw [h]
  case h_2 word rest h =>
      cases hs : Storage.ofWord? word <;> simp only [h, hs]

theorem qualified?_nil : qualified? [] = none := by rw [qualified?_cases]; rfl

/-- How a storage qualifier and what follows it are read. -/
inductive Qualified : Text → Storage → Text → Prop
  | storage {t word rest : Text} {storage : Storage} (hw : leadingWord? t = some (word, rest))
      (hs : Storage.ofWord? word = some storage) : Qualified t storage rest
  | interpolation {t word more rest : Text} {storage : Storage}
      (hw : leadingWord? t = some (word, more)) (hs : Storage.ofWord? word = none)
      (hi : interpolationWords.elem word = true) (hr : Qualified (trimStart more) storage rest) :
      Qualified t storage rest

theorem Qualified.eq (h : Qualified t storage rest) : qualified? t = some (storage, rest) := by
  induction h with
  | storage hw hs =>
      rw [qualified?_cases, hw]
      dsimp only
      rw [hs]
  | interpolation hw hs hi _ ih =>
      rw [qualified?_cases, hw]
      dsimp only
      rw [hs]
      dsimp only
      rw [if_pos hi, ih]

theorem qualified_of_eq (h : qualified? t = some (storage, rest)) : Qualified t storage rest := by
  induction hn : t.length using Nat.strong_induction_on generalizing t with
  | _ n ih =>
      rw [qualified?_cases] at h
      cases hw : leadingWord? t with
      | none => rw [hw] at h; cases h
      | some p =>
          obtain ⟨word, r⟩ := p
          rw [hw] at h
          dsimp only at h
          cases hs : Storage.ofWord? word with
          | some st =>
              rw [hs] at h
              cases h
              exact .storage hw hs
          | none =>
              rw [hs] at h
              dsimp only at h
              split at h
              case isFalse => cases h
              case isTrue hi =>
                  have hlt : (trimStart r).length < n := by
                    have hsub : (trimStart r).length ≤ r.length := (List.dropWhile_sublist _).length_le
                    have hword := length_leadingWord?_lt hw
                    omega
                  exact .interpolation hw hs hi (ih _ hlt h rfl)

theorem Qualified.ne_nil (h : Qualified t storage rest) : t ≠ [] := by
  rintro rfl
  cases h with
  | storage hw => cases hw
  | interpolation hw => cases hw

theorem Qualified.append (h : Qualified t storage rest) (hm : endsWord more = true) :
    Qualified (t ++ more) storage (rest ++ more) := by
  induction h with
  | storage hw hs => exact .storage (leadingWord?_append hw hm) hs
  | interpolation hw hs hi hr ih =>
      refine .interpolation (leadingWord?_append hw hm) hs hi ?_
      rw [trimStart_append]
      · exact ih
      · rw [← Bool.not_eq_true, ← trimStart_eq_nil_iff]
        exact hr.ne_nil

theorem qualified?_append (h : qualified? t = some (storage, rest)) (hm : endsWord more = true) :
    qualified? (t ++ more) = some (storage, rest ++ more) :=
  ((qualified_of_eq h).append hm).eq

theorem Qualified.exists_words (h : Qualified t storage rest) : ∃ words, t = words ++ rest ∧
    endsWord rest = true ∧ Qualified words storage [] ∧ trim words = words ∧
    ∀ c ∈ words, isWord c = true ∨ isBlank c = true := by
  induction h with
  | @storage t word rest st hw hs =>
      obtain ⟨ht, hr, hall⟩ := leadingWord?_eq_some hw
      obtain rfl := Storage.eq_word_of_ofWord? hs
      refine ⟨_, ht, hr, .storage ?_ hs, ?_, fun c hc => .inl (List.all_eq_true.mp hall c hc)⟩
      · cases st <;> decide
      · cases st <;> decide
  | @interpolation t word more rest st hw hs hi _ ih =>
      obtain ⟨words, hwords, hr, hq, htrim, hall⟩ := ih
      obtain ⟨lead, hl, hmore⟩ := exists_trimStart more
      obtain ⟨ht, hm, hword⟩ := leadingWord?_eq_some hw
      have hne : allBlank words = false := by
        rw [← Bool.not_eq_true, ← trim_eq_nil_iff, htrim]
        exact hq.ne_nil
      have hstart : trimStart words = words := by rw [← htrim, trimStart_trim]
      have hmore' : more = lead ++ words ++ rest := by rw [List.append_assoc, ← hwords, ← hmore]
      have hends : endsWord (lead ++ words) = true := endsWord_of_append (hmore' ▸ hm)
      refine ⟨word ++ (lead ++ words), ?_, hr, ?_, ?_, ?_⟩
      · rw [ht, hmore', List.append_assoc word]
      · refine .interpolation (leadingWord?_append (leadingWord?_word hw) hends) hs hi ?_
        rw [List.nil_append, trimStart_append_of_blank hl, hstart]
        exact hq
      · have hlead : trimStart (word ++ (lead ++ words)) = word ++ (lead ++ words) :=
          trimStart_leadingWord? (leadingWord?_append (leadingWord?_word hw) hends)
        rw [trim, hlead, ← List.append_assoc, trimEnd_append hne, ← htrim, trimEnd_trim]
      · intro c hc
        rcases List.mem_append.mp hc with hc | hc
        · exact .inl (List.all_eq_true.mp hword c hc)
        · rcases List.mem_append.mp hc with hc | hc
          · exact .inr (allBlank_iff.mp hl c hc)
          · exact hall c hc

theorem endsWord_of_qualified? (h : qualified? t = some (storage, rest)) : endsWord rest = true := by
  obtain ⟨_, _, hr, _⟩ := (qualified_of_eq h).exists_words
  exact hr

theorem suffix_of_qualified? (h : qualified? t = some (storage, rest)) : rest <:+ t := by
  obtain ⟨words, ht, _⟩ := (qualified_of_eq h).exists_words
  exact ⟨words, ht.symm⟩

theorem qualified?_of_word {word : Text} (hw : leadingWord? t = some (word, rest))
    (hs : Storage.ofWord? word = none) (hi : word ∉ interpolationWords) : qualified? t = none := by
  rw [qualified?_cases, hw]
  dsimp only
  rw [hs]
  exact if_neg (by simpa using hi)

theorem startsWithWord_of_qualified? {keyword : Text}
    (h : qualified? t = some (storage, rest)) (hk : leadingWord? keyword = some (keyword, []))
    (hs : Storage.ofWord? keyword = none) (hi : keyword ∉ interpolationWords) :
    startsWithWord keyword t = false := by
  rw [← Bool.not_eq_true, startsWithWord_iff]
  rintro ⟨more, rfl, hmore⟩
  rw [qualified?_of_word (leadingWord?_append hk hmore) hs hi] at h
  cases h

theorem splitQualifier_eq_none (h : qualified? t = none) : (splitQualifier t).1 = none := by
  rw [splitQualifier, h]

theorem mem_tokens_of_variableName? {declaration name : Text}
    (h : variableName? declaration = some name) : name ∈ tokens endsName (stripLine declaration) := by
  rw [variableName?] at h
  split at h
  case h_2 => cases h
  case h_1 first _ more hf =>
      cases h
      have hname : name ∈ (tokens endsName (stripLine declaration)).filter
          (!precisionWords.elem ·) := by
        rw [hf]
        simp
      exact (List.mem_filter.mp hname).1

theorem outputNames_eq (s : Text) :
    outputNames s = ((liveLines s).filterMap outputName?).eraseDups := by
  rw [outputNames]
  induction (liveLines s).filterMap outputName? using List.reverseRecOn with
  | nil => rfl
  | append_singleton names name ih =>
      rw [List.foldl_append, ih, List.eraseDups_append]
      by_cases hn : name ∈ names
      · simp [List.removeAll, hn]
      · simp [List.removeAll, hn, List.eraseDups_cons]

section LiveHead

theorem qualified?_liveHead (h : qualified? (trim line) = none) :
    qualified? (liveHead line) = none := by
  obtain ⟨more, hm, he⟩ := exists_trim_eq_liveHead line
  cases hq : qualified? (liveHead line) with
  | none => rfl
  | some p =>
      obtain ⟨storage, rest⟩ := p
      rw [he, qualified?_append hq hm] at h
      cases h

theorem startsWithWord_liveHead {keyword : Text} (h : startsWithWord keyword (trim line) = false) :
    startsWithWord keyword (liveHead line) = false := by
  obtain ⟨more, hm, he⟩ := exists_trim_eq_liveHead line
  rw [← Bool.not_eq_true] at h ⊢
  exact fun hs => h (he ▸ startsWithWord_append hs hm)

theorem after?_liveHead {mark : Text} (h : after? mark (trim line) = none) :
    after? mark (liveHead line) = none := by
  obtain ⟨more, _, he⟩ := exists_trim_eq_liveHead line
  rw [after?_eq_none_iff] at h ⊢
  exact fun hp => h (he ▸ hp.trans (List.prefix_append _ _))

end LiveHead

end ShaderPipeline.Glsl
