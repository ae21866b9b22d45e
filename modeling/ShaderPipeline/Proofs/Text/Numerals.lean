import Mathlib.Algebra.Group.Nat.Defs
import ShaderPipeline.Fault
import ShaderPipeline.Proofs.Text.Trim

namespace ShaderPipeline.Text

variable {t : Text} {c : Char} {n : Nat}

theorem toNat_of_isDigit (h : c.isDigit = true) : 48 ≤ c.toNat ∧ c.toNat ≤ 57 := by
  simp only [Char.isDigit, Bool.and_eq_true, decide_eq_true_eq] at h
  exact h

theorem inRanges_cons {lo hi : Nat} {rs : List (Nat × Nat)} (hlo : lo ≤ n) (hhi : n ≤ hi) :
    inRanges ((lo, hi) :: rs) n = true := by
  rw [inRanges, if_neg (Nat.not_lt.mpr hlo), decide_eq_true hhi, Bool.true_or]

theorem isWord_of_isDigit (h : c.isDigit = true) : isWord c = true := by
  obtain ⟨hlo, hhi⟩ := toNat_of_isDigit h
  have hrange : inRanges alphanumericRanges c.toNat = true := inRanges_cons hlo hhi
  rw [isWord, hrange, Bool.or_true]

theorem digit?_of_isDigit (h : c.isDigit = true) : digit? c = some (c.toNat - 48) := by
  have hn := toNat_of_isDigit h
  have hstart : rangeStart? digitRanges c.toNat = some 48 := by
    rw [digitRanges]
    rw [rangeStart?, if_neg (by omega), if_pos (by omega)]
  rw [digit?, hstart, Option.map_some]
  congr 1
  omega

theorem foldl_digits (h : ∀ c ∈ t, c.isDigit = true) (n : Nat) :
    t.foldl (fun n c => 10 * n + (digit? c).getD 0) n = Nat.ofDigitChars 10 t n := by
  induction t generalizing n with
  | nil => rw [Nat.ofDigitChars_nil]; rfl
  | cons c t ih =>
      rw [List.foldl_cons, digit?_of_isDigit (h c List.mem_cons_self), Nat.ofDigitChars_cons]
      exact ih (fun d hd => h d (List.mem_cons_of_mem c hd)) _

theorem isDigit_of_mem_ofNat (h : c ∈ ofNat n) : c.isDigit = true :=
  Nat.isDigit_of_mem_toDigits (by decide) (by decide) h

theorem isPlainNumeral_ofNat (n : Nat) : isPlainNumeral (ofNat n) = true := by
  have hne : (ofNat n != []) = true := by simp [ofNat]
  rw [isPlainNumeral, hne, Bool.true_and, List.all_eq_true]
  exact fun c hc => isDigit_of_mem_ofNat hc

theorem isWord_of_isPlainNumeral (h : isPlainNumeral t = true) : ∀ c ∈ t, isWord c = true := by
  intro c hc
  rw [isPlainNumeral, Bool.and_eq_true] at h
  exact isWord_of_isDigit (List.all_eq_true.mp h.2 c hc)

theorem ne_nil_of_isPlainNumeral (h : isPlainNumeral t = true) : t ≠ [] := by
  rintro rfl
  cases h

theorem numeral_ofNat (n : Nat) : numeral (ofNat n) = n := by
  rw [numeral, foldl_digits fun c hc => isDigit_of_mem_ofNat hc]
  exact Nat.ofDigitChars_ten_toDigits

theorem numeral_lt (h : ∀ c ∈ t, c.isDigit = true) : numeral t < 10 ^ t.length := by
  rw [numeral, foldl_digits h]
  induction t with
  | nil => simp
  | cons c t ih =>
      have hc := h c List.mem_cons_self
      have ht := ih fun d hd => h d (List.mem_cons_of_mem c hd)
      have hn : c.toNat - 48 ≤ 9 := by
        have hhi := (toNat_of_isDigit hc).2
        omega
      rw [Nat.ofDigitChars_cons, Nat.ofDigitChars_eq_ofDigitChars_zero, List.length_cons, Nat.pow_succ]
      have hm : 10 ^ t.length * (10 * 0 + (c.toNat - '0'.toNat)) ≤ 10 ^ t.length * 9 :=
        Nat.mul_le_mul_left _ (by simpa using hn)
      omega

theorem readNumeral_ofNat {digits : Text} (hp : isPlainNumeral digits = true)
    (hr : readNumeral digits = .ok n) : readNumeral (ofNat n) = .ok n := by
  have hne := ne_nil_of_isPlainNumeral hp
  rw [isPlainNumeral, Bool.and_eq_true] at hp
  rw [readNumeral] at hr
  split at hr
  case isFalse => cases hr
  case isTrue hle =>
      cases hr
      have hlt := numeral_lt (List.all_eq_true.mp hp.2)
      have hlen : (ofNat (numeral digits)).length ≤ digits.length :=
        (Nat.length_toDigits_le_iff (by decide) (List.length_pos_iff.mpr hne)).mpr hlt
      rw [readNumeral, if_pos (Nat.le_trans hlen hle), numeral_ofNat]

end ShaderPipeline.Text
