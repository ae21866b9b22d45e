import ShaderPipeline.Proofs.Legacy.Dialect
import ShaderPipeline.Proofs.Legacy.Recasts

namespace ShaderPipeline.Legacy

open Text Glsl

variable {stage : Stage} {p p' : Progress} {ls : List Text} {l m raw : Text}

/-- A line that is left is the line that was there, is empty, or is a declaration of a varying. -/
theorem keep_cases (h : recastLine {} stage p raw = .ok (.keep l, p')) :
    l = inspected p raw ∨ l = [] ∨ ∃ declaration, declaration <:+: inspected p raw ∧
      endsWord declaration = true ∧ l = indent (inspected p raw) ++ varyingWord ++ declaration := by
  have hr := recasts stage p (inspected p raw)
  rw [← recastLine_default, h] at hr
  generalize reading stage p.inBlock (trim (inspected p raw)) = r at hr
  cases hr with
  | inside => exact .inl rfl
  | comment => exact .inl rfl
  | blank => exact .inr (.inl rfl)
  | plain => exact .inl rfl
  | varying _ hb hq =>
      exact .inr (.inr ⟨_, infix_of_bodyPart? hb hq, endsWord_of_qualified? hq, rfl⟩)

theorem exists_keep (h : l ∈ (recastFrom {} stage p ls).lines) :
    ∃ raw ∈ ls, ∃ p p', recastLine {} stage p raw = .ok (.keep l, p') := by
  obtain ⟨raw, hraw, q, q', _, hr⟩ :=
    exists_of_mem_recastFrom (I := fun _ => True) trivial (fun _ _ _ _ _ _ _ => trivial) h
  exact ⟨raw, hraw, q, q', hr⟩

theorem newline_not_mem_of_mem_recastFrom (hn : ∀ l ∈ ls, '\n' ∉ l)
    (h : l ∈ (recastFrom {} stage p ls).lines) : '\n' ∉ l := by
  obtain ⟨raw, hraw, q, q', hr⟩ := exists_keep h
  have hline := newline_not_mem_inspected (p := q) (hn raw hraw)
  rcases keep_cases hr with rfl | rfl | ⟨declaration, hd, _, rfl⟩
  · exact hline
  · simp
  · exact newline_not_mem_varying hline hd

section Unwritten

def macroToken : Text := "glslify".toList

def writtenWords : List Text :=
  [attributeWord, uniformWord, varyingWord, "float".toList, "_vertex_id".toList]

/-- A mark inside a word, none of which a conversion writes. -/
structure Unwritten (m : Text) : Prop where
  nonempty : m ≠ []
  inWord : ∀ c ∈ m, isWord c = true
  digitless : ∀ c ∈ m, c.isDigit = false
  apart : Apart m sinkName
  words : ∀ word ∈ writtenWords, ¬ m <:+: word

instance (m : Text) : Decidable (Unwritten m) :=
  decidable_of_iff (m ≠ [] ∧ m.all isWord ∧ m.all (!Char.isDigit ·) ∧ Apart m sinkName ∧
      ∀ word ∈ writtenWords, ¬ m <:+: word)
    ⟨fun ⟨hne, hin, hd, ha, hw⟩ => ⟨hne, List.all_eq_true.mp hin, by simpa using hd, ha, hw⟩,
      fun h => ⟨h.nonempty, List.all_eq_true.mpr h.inWord, by simpa using h.digitless, h.apart,
        h.words⟩⟩

theorem unwritten_macroToken : Unwritten macroToken := by decide

variable (hm : Unwritten m)

include hm

theorem Unwritten.not_mem {c : Char} (hc : isWord c = false) : c ∉ m := by
  intro h
  rw [hm.inWord c h] at hc
  cases hc

theorem Unwritten.infix_of_mem_recastFrom (h : l ∈ (recastFrom {} stage p ls).lines)
    (hi : m <:+: l) : ∃ raw ∈ ls, m <:+: raw := by
  obtain ⟨raw, hraw, q, q', hr⟩ := exists_keep h
  refine ⟨raw, hraw, ?_⟩
  have hline (hi : m <:+: inspected q raw) : m <:+: raw :=
    ((patched_renamed q.output _).holds hm.apart hi).trans (infix_trimEnd raw)
  rcases keep_cases hr with rfl | rfl | ⟨declaration, hd, hends, rfl⟩
  · exact hline hi
  · exact absurd (List.infix_nil.mp hi) hm.nonempty
  · have hindent : allBlank (indent (inspected q raw)) = true := List.all_takeWhile
    rw [List.append_assoc] at hi
    rcases infix_append_of_endsWord hm.inWord hends
      (infix_of_blank_append hm.nonempty hm.inWord hindent hi) with hi | hi
    · exact absurd hi (hm.words _ (by decide))
    · exact hline (hi.trans hd)

theorem Unwritten.not_infix_widen {type : Text} (h : ¬ m <:+: type) : ¬ m <:+: widen type := by
  rcases widen_cases type with he | he <;> rw [he]
  · exact h
  · exact hm.words _ (by decide)

theorem Unwritten.not_infix_declaration {word type rest : Text} (hw : word ∈ writtenWords)
    (ht : ¬ m <:+: type) (hr : ¬ m <:+: rest) :
    ¬ m <:+: word ++ ' ' :: (type ++ ' ' :: (rest ++ ';' :: [])) := by
  have hspace := hm.not_mem (c := ' ') (by decide)
  intro hc
  rcases infix_append_cons hspace hc with hc | hc
  · exact hm.words word hw hc
  · rcases infix_append_cons hspace hc with hc | hc
    · exact ht hc
    · rcases infix_append_cons (hm.not_mem (by decide)) hc with hc | hc
      · exact hr hc
      · exact hm.nonempty (List.infix_nil.mp hc)

theorem Unwritten.not_infix_declarator {name : Text} (h : ¬ m <:+: name) (n : Nat) :
    ¬ m <:+: name ++ arraySuffix n := by
  refine fun hc => h (infix_append_of_disjoint hm.nonempty (fun c hc hmem => ?_) hc)
  rcases mem_arraySuffix hc with rfl | hd | rfl
  · exact hm.not_mem (by decide) hmem
  · rw [hm.digitless c hmem] at hd
    cases hd
  · exact hm.not_mem (by decide) hmem

theorem Unwritten.not_infix_of_mem_header {i : Interface} {usesIndex : Bool}
    (hi : ∀ word ∈ i.words, ¬ m <:+: word) (h : l ∈ header {} usesIndex i) : ¬ m <:+: l := by
  rw [header, List.mem_append, List.mem_append] at h
  rcases h with (h | h) | h
  · obtain ⟨a, ha, rfl⟩ := List.mem_map.mp h
    obtain ⟨htype, hname⟩ := mem_words_of_attribute ha
    rw [attributeLine_eq]
    exact hm.not_infix_declaration (by decide) (hm.not_infix_widen (hi _ htype)) (hi _ hname)
  · split at h
    · rw [List.mem_singleton.mp h, attributeLine_eq]
      exact hm.not_infix_declaration (by decide) (hm.words _ (by decide)) (hm.words _ (by decide))
    · cases h
  · obtain ⟨u, hu, rfl⟩ := List.mem_map.mp h
    obtain ⟨htype, hname⟩ := mem_words_of_uniform hu
    rw [uniformLine_eq]
    exact hm.not_infix_declaration (by decide) (hm.not_infix_widen (hi _ htype))
      (hm.not_infix_declarator (hi _ hname) u.length)

end Unwritten

end ShaderPipeline.Legacy
