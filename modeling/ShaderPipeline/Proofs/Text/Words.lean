import ShaderPipeline.Proofs.Text.Cut
import ShaderPipeline.Proofs.Text.Trim

namespace ShaderPipeline.Text

variable {t word rest more keyword : Text}

theorem endsWord_cons {c : Char} (h : isWord c = false) (t : Text) : endsWord (c :: t) = true := by
  rw [endsWord, h]
  rfl

theorem takeWhile_isWord_append (h : endsWord more = true) :
    (t ++ more).takeWhile isWord = t.takeWhile isWord ∧
      (t ++ more).dropWhile isWord = t.dropWhile isWord ++ more := by
  induction t with
  | nil =>
      cases more with
      | nil => exact ⟨rfl, rfl⟩
      | cons c more =>
          have hc : ¬ isWord c = true := by simpa [endsWord] using h
          rw [List.nil_append, List.takeWhile_cons_of_neg hc, List.dropWhile_cons_of_neg hc]
          exact ⟨rfl, rfl⟩
  | cons c t ih =>
      by_cases hc : isWord c = true
      · rw [List.cons_append, List.takeWhile_cons_of_pos hc, List.takeWhile_cons_of_pos hc,
          List.dropWhile_cons_of_pos hc, List.dropWhile_cons_of_pos hc, ih.1, ih.2]
        exact ⟨rfl, rfl⟩
      · rw [List.cons_append, List.takeWhile_cons_of_neg hc, List.takeWhile_cons_of_neg hc,
          List.dropWhile_cons_of_neg hc, List.dropWhile_cons_of_neg hc]
        exact ⟨rfl, rfl⟩

theorem leadingWord?_append (h : leadingWord? t = some (word, rest)) (hm : endsWord more = true) :
    leadingWord? (t ++ more) = some (word, rest ++ more) := by
  cases t with
  | nil => cases h
  | cons c t =>
      obtain ⟨htake, hdrop⟩ := takeWhile_isWord_append (t := t) hm
      rw [leadingWord?] at h
      rw [List.cons_append, leadingWord?, htake, hdrop]
      split at h
      case isTrue hc =>
          rw [if_pos hc]
          cases h
          rfl
      case isFalse => cases h

theorem isWord_of_startsWord {c : Char} (h : startsWord c = true) : isWord c = true := by
  have hrange : ∀ rs n, 0x41 ≤ n ∧ n ≤ 0x5a ∨ 0x61 ≤ n ∧ n ≤ 0x7a →
      inRanges ((0x30, 0x39) :: (0x41, 0x5a) :: (0x61, 0x7a) :: rs) n = true := by
    intro rs n hn
    rw [inRanges, inRanges, inRanges, if_neg (by omega)]
    by_cases h5 : n ≤ 0x5a
    · rw [if_neg (by omega)]
      simp [h5]
    · rw [if_neg (by omega), if_neg (by omega)]
      have h7 : n ≤ 0x7a := by omega
      simp [h7]
  rw [isWord]
  rw [startsWord, Bool.or_eq_true] at h
  rcases h with h | h
  · have hn : 0x41 ≤ c.toNat ∧ c.toNat ≤ 0x5a ∨ 0x61 ≤ c.toNat ∧ c.toNat ≤ 0x7a := by
      change (decide ('A'.val ≤ c.val ∧ c.val ≤ 'Z'.val) ||
        decide ('a'.val ≤ c.val) && decide (c.val ≤ 'z'.val)) = true at h
      rw [Bool.or_eq_true, Bool.and_eq_true, decide_eq_true_eq, decide_eq_true_eq,
        decide_eq_true_eq] at h
      exact h
    rw [Bool.or_eq_true]
    exact .inr (hrange _ c.toNat hn)
  · rw [h]
    rfl

theorem endsWord_dropWhile (t : Text) : endsWord (t.dropWhile isWord) = true := by
  cases hd : t.dropWhile isWord with
  | nil => rfl
  | cons d r =>
      have hn := List.head?_dropWhile_not isWord t
      rw [hd] at hn
      exact endsWord_cons hn r

theorem leadingWord?_eq_some (h : leadingWord? t = some (word, rest)) :
    t = word ++ rest ∧ endsWord rest = true ∧ word.all isWord = true := by
  cases t with
  | nil => cases h
  | cons c t =>
      rw [leadingWord?] at h
      split at h
      case isTrue hc =>
          cases h
          refine ⟨?_, ?_, ?_⟩
          · rw [List.cons_append, List.takeWhile_append_dropWhile]
          · exact endsWord_dropWhile t
          · rw [List.all_cons, isWord_of_startsWord hc, Bool.true_and]
            exact List.all_takeWhile
      case isFalse => cases h

theorem not_endsWord_of_leadingWord? (h : leadingWord? t = some (word, rest)) :
    endsWord t = false := by
  cases t with
  | nil => cases h
  | cons c t =>
      rw [leadingWord?] at h
      split at h
      case isTrue hc =>
          rw [endsWord, isWord_of_startsWord hc]
          rfl
      case isFalse => cases h

theorem leadingWord?_word (h : leadingWord? t = some (word, rest)) :
    leadingWord? word = some (word, []) := by
  obtain ⟨_, _, hall⟩ := leadingWord?_eq_some h
  cases t with
  | nil => cases h
  | cons c t =>
      rw [leadingWord?] at h
      split at h
      case isTrue hc =>
          cases h
          have htail : ∀ d ∈ t.takeWhile isWord, isWord d = true :=
            fun d hd => List.mem_takeWhile_imp hd
          rw [leadingWord?, if_pos hc, List.takeWhile_eq_self_iff.mpr htail,
            List.dropWhile_eq_nil_iff.mpr htail]
      case isFalse => cases h

theorem trimStart_leadingWord? (h : leadingWord? t = some (word, rest)) : trimStart t = t := by
  cases t with
  | nil => cases h
  | cons c t =>
      rw [leadingWord?] at h
      split at h
      case isTrue hc =>
          apply trimStart_cons
          cases hb : isBlank c with
          | false => rfl
          | true =>
              have hw := isWord_of_startsWord hc
              rw [not_isWord_of_isBlank hb] at hw
              cases hw
      case isFalse => cases h

theorem startsWithWord_iff : startsWithWord keyword t = true ↔
    ∃ rest, t = keyword ++ rest ∧ endsWord rest = true := by
  rw [startsWithWord]
  constructor
  · intro h
    split at h
    case h_1 rest hr => exact ⟨rest, after?_eq_some_iff.mp hr, h⟩
    case h_2 => cases h
  · rintro ⟨rest, ht, hr⟩
    rw [after?_eq_some_iff.mpr ht]
    exact hr

theorem startsWithWord_iff_leadingWord? (hk : leadingWord? keyword = some (keyword, [])) :
    startsWithWord keyword t = true ↔ ∃ rest, leadingWord? t = some (keyword, rest) := by
  rw [startsWithWord_iff]
  constructor
  · rintro ⟨rest, rfl, hr⟩
    exact ⟨rest, leadingWord?_append hk hr⟩
  · rintro ⟨rest, h⟩
    obtain ⟨ht, hr, _⟩ := leadingWord?_eq_some h
    exact ⟨rest, ht, hr⟩

theorem endsWord_append (h : endsWord t = true) (hm : endsWord more = true) :
    endsWord (t ++ more) = true := by
  cases t with
  | nil => exact hm
  | cons c t => exact h

theorem endsWord_of_append (h : endsWord (t ++ more) = true) : endsWord t = true := by
  cases t with
  | nil => rfl
  | cons c t => exact h

theorem endsWord_trimEnd (h : endsWord t = true) : endsWord (trimEnd t) = true := by
  obtain ⟨tail, _, ht⟩ := exists_trimEnd t
  exact endsWord_of_append (ht ▸ h)

theorem startsWithWord_append (h : startsWithWord keyword t = true) (hm : endsWord more = true) :
    startsWithWord keyword (t ++ more) = true := by
  obtain ⟨rest, rfl, hr⟩ := startsWithWord_iff.mp h
  exact startsWithWord_iff.mpr ⟨rest ++ more, List.append_assoc .., endsWord_append hr hm⟩

section Marks

variable {m a b : Text}

theorem infix_of_blank_append (hne : m ≠ []) (hm : ∀ c ∈ m, isWord c = true)
    (ha : allBlank a = true) (hi : m <:+: a ++ b) : m <:+: b := by
  induction a with
  | nil => exact hi
  | cons c a ih =>
      rcases List.infix_cons_iff.mp hi with hp | hi
      · cases m with
        | nil => exact absurd rfl hne
        | cons d m =>
            obtain ⟨rfl, _⟩ := List.cons_prefix_cons.mp hp
            have hd := hm d List.mem_cons_self
            rw [not_isWord_of_isBlank (allBlank_iff.mp ha d List.mem_cons_self)] at hd
            cases hd
      · exact ih (allBlank_iff.mpr fun d hd => allBlank_iff.mp ha d (List.mem_cons_of_mem c hd)) hi

theorem infix_append_of_endsWord (hm : ∀ c ∈ m, isWord c = true) (hb : endsWord b = true)
    (hi : m <:+: a ++ b) : m <:+: a ∨ m <:+: b := by
  cases b with
  | nil => exact .inl (by rwa [List.append_nil] at hi)
  | cons c b =>
      have hc : c ∉ m := by
        intro h
        rw [endsWord, hm c h] at hb
        cases hb
      exact (infix_append_cons hc hi).imp_right fun h => h.trans (List.suffix_cons c b).isInfix

end Marks

end ShaderPipeline.Text
