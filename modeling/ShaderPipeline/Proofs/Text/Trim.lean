import ShaderPipeline.Text.Blank
import ShaderPipeline.Text.Word
import Mathlib.Data.List.Infix
import Mathlib.Data.List.TakeWhile

namespace ShaderPipeline.Text

variable {a b t : Text} {c : Char}

theorem allBlank_iff : allBlank t = true ↔ ∀ c ∈ t, isBlank c = true := List.all_eq_true

theorem trimStart_eq_nil_iff : trimStart t = [] ↔ allBlank t = true := by
  rw [trimStart, List.dropWhile_eq_nil_iff, allBlank_iff]

theorem trimStart_append_of_blank (h : allBlank a = true) :
    trimStart (a ++ b) = trimStart b := by
  have ha := trimStart_eq_nil_iff.mpr h
  unfold trimStart at *
  rw [List.dropWhile_append, ha, if_pos (by simp)]

theorem trimStart_append (h : allBlank a = false) : trimStart (a ++ b) = trimStart a ++ b := by
  have ha : trimStart a ≠ [] := by
    rw [ne_eq, trimStart_eq_nil_iff, h]
    exact Bool.false_ne_true
  unfold trimStart at *
  rw [List.dropWhile_append, if_neg (by simpa using ha)]

theorem trimStart_cons (h : isBlank c = false) : trimStart (c :: t) = c :: t := by
  rw [trimStart, List.dropWhile_cons_of_neg (by simp [h])]

theorem trimEnd_eq (t : Text) : trimEnd t = (trimStart t.reverse).reverse := rfl

theorem allBlank_reverse (t : Text) : allBlank t.reverse = allBlank t := List.all_reverse

theorem trimEnd_append_of_blank (h : allBlank b = true) : trimEnd (a ++ b) = trimEnd a := by
  rw [trimEnd_eq, List.reverse_append, trimStart_append_of_blank (by rw [allBlank_reverse, h])]
  rfl

theorem trimEnd_append (h : allBlank b = false) : trimEnd (a ++ b) = a ++ trimEnd b := by
  rw [trimEnd_eq, List.reverse_append, trimStart_append (by rw [allBlank_reverse, h]),
    List.reverse_append, List.reverse_reverse]
  rfl

theorem trimEnd_append_of_trimmed (h : trimEnd a = a) (b : Text) :
    trimEnd (a ++ b) = a ++ trimEnd b := by
  cases hb : allBlank b with
  | true =>
      have hnil : trimEnd b = [] := by
        rw [trimEnd_eq, trimStart_eq_nil_iff.mpr (by rw [allBlank_reverse, hb])]
        rfl
      rw [trimEnd_append_of_blank hb, h, hnil, List.append_nil]
  | false => exact trimEnd_append hb

theorem trimEnd_eq_nil_iff : trimEnd t = [] ↔ allBlank t = true := by
  rw [trimEnd_eq, List.reverse_eq_nil_iff, trimStart_eq_nil_iff, allBlank_reverse]

theorem exists_trimStart (t : Text) : ∃ lead, allBlank lead = true ∧ t = lead ++ trimStart t :=
  ⟨indent t, List.all_takeWhile, (List.takeWhile_append_dropWhile).symm⟩

theorem exists_trimEnd (t : Text) : ∃ tail, allBlank tail = true ∧ t = trimEnd t ++ tail := by
  obtain ⟨lead, hl, he⟩ := exists_trimStart t.reverse
  refine ⟨lead.reverse, by rw [allBlank_reverse, hl], ?_⟩
  rw [trimEnd_eq, ← List.reverse_append, ← he, List.reverse_reverse]

theorem trimStart_eq_self_of_head (h : ∀ c, t.head? = some c → isBlank c = false) :
    trimStart t = t := by
  cases t with
  | nil => rfl
  | cons c t => exact trimStart_cons (h c rfl)

theorem not_isBlank_head_trimStart (h : (trimStart t).head? = some c) : isBlank c = false := by
  have hc := List.head?_dropWhile_not isBlank t
  rw [show (t.dropWhile isBlank).head? = some c from h] at hc
  exact hc

@[simp] theorem trimStart_trimStart (t : Text) : trimStart (trimStart t) = trimStart t :=
  trimStart_eq_self_of_head fun _ h => not_isBlank_head_trimStart h

@[simp] theorem trimEnd_trimEnd (t : Text) : trimEnd (trimEnd t) = trimEnd t := by
  rw [trimEnd_eq (trimEnd t), trimEnd_eq t, List.reverse_reverse, trimStart_trimStart]

theorem trimStart_trimEnd (t : Text) : trimStart (trimEnd t) = trimEnd (trimStart t) := by
  obtain ⟨lead, hl, ht⟩ := exists_trimStart t
  cases hs : allBlank (trimStart t) with
  | true =>
      have hnil := trimStart_eq_nil_iff.mp (trimStart_trimStart t ▸ trimStart_eq_nil_iff.mpr hs)
      rw [trimEnd_eq_nil_iff.mpr hs, trimEnd_eq_nil_iff.mpr hnil]
      rfl
  | false =>
      rw [ht, trimEnd_append hs, trimStart_append_of_blank hl, trimStart_append_of_blank hl,
        trimStart_trimStart]
      obtain ⟨tail, hb, he⟩ := exists_trimEnd (trimStart t)
      refine trimStart_eq_self_of_head fun c hc => not_isBlank_head_trimStart (t := t) ?_
      rw [he]
      cases h : trimEnd (trimStart t) with
      | nil => rw [h] at hc; cases hc
      | cons d r => rw [h] at hc; exact hc

theorem trim_eq (t : Text) : trim t = trimStart (trimEnd t) := (trimStart_trimEnd t).symm

@[simp] theorem trimEnd_trim (t : Text) : trimEnd (trim t) = trim t := trimEnd_trimEnd _

@[simp] theorem trimStart_trim (t : Text) : trimStart (trim t) = trim t := by
  rw [trim_eq, trimStart_trimStart]

@[simp] theorem trim_trim (t : Text) : trim (trim t) = trim t := by
  rw [trim, trimStart_trim, trimEnd_trim]

@[simp] theorem trim_trimEnd (t : Text) : trim (trimEnd t) = trim t := by
  rw [trim_eq, trimEnd_trimEnd, ← trim_eq]

theorem trim_eq_nil_iff : trim t = [] ↔ allBlank t = true := by
  rw [trim, trimEnd_eq_nil_iff]
  constructor
  · intro h
    exact trimStart_eq_nil_iff.mp (trimStart_trimStart t ▸ trimStart_eq_nil_iff.mpr h)
  · intro h
    rw [trimStart_eq_nil_iff.mpr h]
    rfl

theorem trim_append_of_blank (h : allBlank b = true) : trim (a ++ b) = trim a := by
  rw [trim_eq, trimEnd_append_of_blank h, ← trim_eq]

theorem trim_of_blank_append (h : allBlank a = true) : trim (a ++ b) = trim b := by
  rw [trim, trimStart_append_of_blank h]
  rfl

theorem trim_append (ha : allBlank a = false) (hb : allBlank b = false) :
    trim (a ++ b) = trimStart a ++ trimEnd b := by
  rw [trim, trimStart_append ha, trimEnd_append hb]

theorem trim_append_of_trimmed (h : trim a = a) (hne : a ≠ []) (b : Text) :
    trim (a ++ b) = a ++ trimEnd b := by
  have hblank : allBlank a = false := by
    rw [← Bool.not_eq_true, ← trim_eq_nil_iff, h]
    exact hne
  have hstart : trimStart a = a := by rw [← h, trimStart_trim]
  have hend : trimEnd a = a := by rw [← h, trimEnd_trim]
  rw [trim, trimStart_append hblank, hstart, trimEnd_append_of_trimmed hend]

theorem trimEnd_eq_self_of_last (h : ∀ c ∈ t.getLast?, isBlank c = false) : trimEnd t = t := by
  have hend : trimStart t.reverse = t.reverse :=
    trimStart_eq_self_of_head fun c hc => h c (List.head?_reverse ▸ hc)
  rw [trimEnd_eq, hend, List.reverse_reverse]

theorem not_isBlank_getLast_trimEnd (h : (trimEnd t).getLast? = some c) : isBlank c = false := by
  rw [trimEnd_eq, List.getLast?_reverse] at h
  exact not_isBlank_head_trimStart h

theorem trimEnd_of_suffix (h : trimEnd t = t) (ha : a <:+ t) : trimEnd a = a := by
  obtain ⟨b, rfl⟩ := ha
  refine trimEnd_eq_self_of_last fun c hc => not_isBlank_getLast_trimEnd (t := b ++ a) ?_
  have hne : a ≠ [] := by
    rintro rfl
    cases hc
  rw [h, List.getLast?_append_of_ne_nil b hne]
  exact hc

theorem trim_eq_self_of_ends (hs : ∀ c, t.head? = some c → isBlank c = false)
    (he : ∀ c, t.getLast? = some c → isBlank c = false) : trim t = t := by
  rw [trim, trimStart_eq_self_of_head hs, trimEnd_eq_self_of_last he]

theorem not_isBlank_head_trim (h : (trim t).head? = some c) : isBlank c = false := by
  rw [trim_eq] at h
  exact not_isBlank_head_trimStart h

theorem not_isBlank_getLast_trim (h : (trim t).getLast? = some c) : isBlank c = false :=
  not_isBlank_getLast_trimEnd h

theorem trim_eq_self_iff : trim t = t ↔
    (∀ c ∈ t.head?, isBlank c = false) ∧ ∀ c ∈ t.getLast?, isBlank c = false := by
  constructor
  · intro h
    rw [← h]
    exact ⟨fun _ hc => not_isBlank_head_trim hc, fun _ hc => not_isBlank_getLast_trim hc⟩
  · rintro ⟨hs, he⟩
    exact trim_eq_self_of_ends hs he

theorem trim_of_no_blank (h : ∀ c ∈ t, isBlank c = false) : trim t = t :=
  trim_eq_self_of_ends (fun c hc => h c (List.mem_of_head? hc))
    fun c hc => h c (List.mem_of_getLast? hc)

theorem exists_trim (t : Text) : ∃ lead tail, allBlank lead = true ∧ allBlank tail = true ∧
    t = lead ++ trim t ++ tail := by
  obtain ⟨lead, hl, ht⟩ := exists_trimStart t
  obtain ⟨tail, hb, he⟩ := exists_trimEnd (trimStart t)
  exact ⟨lead, tail, hl, hb, by rw [List.append_assoc, trim, ← he, ← ht]⟩

theorem infix_trimEnd (t : Text) : trimEnd t <:+: t := by
  obtain ⟨tail, _, h⟩ := exists_trimEnd t
  exact ⟨[], tail, h.symm⟩

theorem infix_trim (t : Text) : trim t <:+: t := by
  obtain ⟨lead, tail, _, _, h⟩ := exists_trim t
  exact ⟨lead, tail, h.symm⟩

def codePoints (rs : List (Nat × Nat)) : List Nat :=
  rs.flatMap fun r => List.range' r.1 (r.2 + 1 - r.1)

theorem mem_codePoints_of_inRanges {rs : List (Nat × Nat)} {n : Nat} (h : inRanges rs n = true) :
    n ∈ codePoints rs := by
  induction rs with
  | nil => cases h
  | cons r rs ih =>
      rw [inRanges] at h
      rw [codePoints, List.flatMap_cons, List.mem_append, List.mem_range'_1]
      by_cases hlo : n < r.1
      · rw [if_pos hlo] at h
        cases h
      · rw [if_neg hlo, Bool.or_eq_true, decide_eq_true_iff] at h
        exact h.imp (fun hhi => by omega) ih

theorem of_isBlank {p : Nat → Bool} (hp : (codePoints blankRanges).all p = true)
    (h : isBlank c = true) : p c.toNat = true :=
  List.all_eq_true.mp hp c.toNat (mem_codePoints_of_inRanges h)

theorem not_isWord_of_isBlank (h : isBlank c = true) : isWord c = false := by
  have hall : (codePoints blankRanges).all
      (fun n => n != 95 && !inRanges alphanumericRanges n) = true := by decide +kernel
  have hn := of_isBlank hall h
  rw [Bool.and_eq_true, bne_iff_ne, Bool.not_eq_true'] at hn
  have hc : c ≠ '_' := by
    rintro rfl
    exact hn.1 rfl
  rw [isWord, hn.2, Bool.or_false, beq_eq_false_iff_ne]
  exact hc

end ShaderPipeline.Text
