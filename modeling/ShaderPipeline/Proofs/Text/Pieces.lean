import ShaderPipeline.Text.Basic
import Mathlib.Data.List.Infix

namespace ShaderPipeline.Text

variable {separates : Char → Bool} {t p : Text}

theorem pieces_cons_of_separates {c : Char} (hc : separates c = true) (t : Text) :
    pieces separates (c :: t) = [] :: pieces separates t := by
  rw [pieces, if_pos hc]

theorem pieces_cons_of_not_separates {c : Char} (hc : separates c = false) {t p : Text}
    {ps : List Text} (h : pieces separates t = p :: ps) :
    pieces separates (c :: t) = (c :: p) :: ps := by
  rw [pieces, if_neg (by simp [hc]), h]
  rfl

theorem exists_pieces (separates : Char → Bool) (t : Text) :
    ∃ p ps, pieces separates t = p :: ps :=
  List.exists_cons_of_ne_nil (pieces_ne_nil separates t)

theorem prefix_of_pieces {ps : List Text} (h : pieces separates t = p :: ps) : p <+: t := by
  induction t generalizing p ps with
  | nil =>
      obtain ⟨rfl, _⟩ := List.cons.inj h
      exact List.prefix_refl []
  | cons c t ih =>
      cases hc : separates c with
      | true =>
          rw [pieces_cons_of_separates hc] at h
          obtain ⟨rfl, _⟩ := List.cons.inj h
          exact List.nil_prefix
      | false =>
          obtain ⟨q, qs, hq⟩ := exists_pieces separates t
          rw [pieces_cons_of_not_separates hc hq] at h
          obtain ⟨rfl, _⟩ := List.cons.inj h
          exact List.prefix_cons_inj c |>.mpr (ih hq)

theorem infix_of_mem_pieces (hp : p ∈ pieces separates t) : p <:+: t := by
  induction t generalizing p with
  | nil =>
      obtain rfl := List.mem_singleton.mp hp
      exact List.infix_refl []
  | cons c t ih =>
      cases hc : separates c with
      | true =>
          rw [pieces_cons_of_separates hc] at hp
          rcases List.mem_cons.mp hp with rfl | hp
          · exact List.nil_infix
          · exact (ih hp).trans (List.suffix_cons c t).isInfix
      | false =>
          obtain ⟨q, qs, hq⟩ := exists_pieces separates t
          rw [pieces_cons_of_not_separates hc hq] at hp
          rcases List.mem_cons.mp hp with rfl | hp
          · exact ((List.prefix_cons_inj c).mpr (prefix_of_pieces hq)).isInfix
          · exact (ih (hq ▸ List.mem_cons_of_mem q hp)).trans (List.suffix_cons c t).isInfix

theorem exists_mem_pieces {c : Char} (hc : c ∈ t) (hs : separates c = false) :
    ∃ p ∈ pieces separates t, c ∈ p := by
  induction t with
  | nil => cases hc
  | cons b t ih =>
      obtain ⟨q, qs, hq⟩ := exists_pieces separates t
      cases hb : separates b with
      | true =>
          have ht : c ∈ t := by
            refine (List.mem_cons.mp hc).resolve_left ?_
            rintro rfl
            rw [hb] at hs
            cases hs
          obtain ⟨p, hp, hcp⟩ := ih ht
          rw [pieces_cons_of_separates hb]
          exact ⟨p, List.mem_cons_of_mem _ hp, hcp⟩
      | false =>
          rw [pieces_cons_of_not_separates hb hq]
          rcases List.mem_cons.mp hc with rfl | ht
          · exact ⟨c :: q, List.mem_cons_self, List.mem_cons_self⟩
          · obtain ⟨p, hp, hcp⟩ := ih ht
            rw [hq] at hp
            rcases List.mem_cons.mp hp with rfl | hp
            · exact ⟨b :: p, List.mem_cons_self, List.mem_cons_of_mem b hcp⟩
            · exact ⟨p, List.mem_cons_of_mem _ hp, hcp⟩

def Whole (separates : Char → Bool) (t : Text) : Prop := ∀ c ∈ t, separates c = false

instance (separates : Char → Bool) (t : Text) : Decidable (Whole separates t) :=
  List.decidableBAll (fun c => separates c = false) t

theorem pieces_of_whole (h : Whole separates t) : pieces separates t = [t] := by
  induction t with
  | nil => rfl
  | cons c t ih =>
      have ht := ih fun d hd => h d (List.mem_cons_of_mem c hd)
      exact pieces_cons_of_not_separates (h c List.mem_cons_self) ht

theorem pieces_append_separator {c : Char} (hc : separates c = true) (s t : Text) :
    pieces separates (s ++ c :: t) = pieces separates s ++ pieces separates t := by
  induction s with
  | nil => exact pieces_cons_of_separates hc t
  | cons d s ih =>
      cases hd : separates d with
      | true =>
          rw [List.cons_append, pieces_cons_of_separates hd, pieces_cons_of_separates hd, ih]
          rfl
      | false =>
          obtain ⟨q, qs, hq⟩ := exists_pieces separates s
          rw [hq] at ih
          rw [List.cons_append, pieces_cons_of_not_separates hd ih,
            pieces_cons_of_not_separates hd hq]
          rfl

theorem pieces_append {c : Char} (h : Whole separates p) (hc : separates c = true) (t : Text) :
    pieces separates (p ++ c :: t) = p :: pieces separates t := by
  rw [pieces_append_separator hc, pieces_of_whole h]
  rfl

section Lines

variable {ls : List Text}

theorem newline_not_mem_of_mem_lines (h : p ∈ lines t) : '\n' ∉ p := by
  intro hc
  have hn := not_separates_of_mem_pieces h hc
  cases hn

theorem whole_of_newline_not_mem (h : '\n' ∉ t) : Whole (· == '\n') t := by
  intro c hc
  rw [beq_eq_false_iff_ne]
  rintro rfl
  exact h hc

theorem lines_unlines (hne : ls ≠ []) (h : ∀ l ∈ ls, '\n' ∉ l) : lines (unlines ls) = ls := by
  induction ls with
  | nil => exact absurd rfl hne
  | cons l ls ih =>
      have hl := whole_of_newline_not_mem (h l List.mem_cons_self)
      cases ls with
      | nil => exact pieces_of_whole hl
      | cons m ms =>
          have hms := ih (List.cons_ne_nil m ms) fun l hl => h l (List.mem_cons_of_mem _ hl)
          unfold lines at hms ⊢
          rw [unlines, pieces_append hl rfl, hms]
          exact List.cons_ne_nil m ms

theorem infix_of_mem_lines (h : p ∈ lines t) : p <:+: t := infix_of_mem_pieces h

end Lines

section Tokens

def Token (separates : Char → Bool) (t : Text) : Prop := t ≠ [] ∧ Whole separates t

instance (separates : Char → Bool) (t : Text) : Decidable (Token separates t) :=
  inferInstanceAs (Decidable (t ≠ [] ∧ Whole separates t))

theorem token_of_mem_tokens (h : p ∈ tokens separates t) : Token separates p ∧ p <:+: t := by
  obtain ⟨hp, hne⟩ := List.mem_filter.mp h
  exact ⟨⟨by simpa using hne, fun c hc => not_separates_of_mem_pieces hp hc⟩,
    infix_of_mem_pieces hp⟩

theorem tokens_cons {c : Char} (hc : separates c = true) (t : Text) :
    tokens separates (c :: t) = tokens separates t := by
  rw [tokens, pieces_cons_of_separates hc]
  rfl

theorem tokens_append {c : Char} (h : Token separates p) (hc : separates c = true) (t : Text) :
    tokens separates (p ++ c :: t) = p :: tokens separates t := by
  rw [tokens, pieces_append h.2 hc, List.filter_cons_of_pos (by simpa using h.1)]
  rfl

theorem tokens_token_append (hp : Token separates p) (ht : ∀ c ∈ t.head?, separates c = true) :
    tokens separates (p ++ t) = p :: tokens separates t := by
  cases t with
  | nil =>
      rw [List.append_nil, tokens, pieces_of_whole hp.2, List.filter_cons_of_pos (by simpa using hp.1)]
      rfl
  | cons c t =>
      have hc := ht c rfl
      rw [tokens_append hp hc, tokens_cons hc]

theorem tokens_append_of_separates {z : Text} (hz : ∀ c ∈ z, separates c = true) (t : Text) :
    tokens separates (t ++ z) = tokens separates t := by
  have hnil : ∀ z : Text, (∀ c ∈ z, separates c = true) → tokens separates z = [] := by
    intro z hz
    induction z with
    | nil => rfl
    | cons c z ih =>
        rw [tokens_cons (hz c List.mem_cons_self)]
        exact ih fun d hd => hz d (List.mem_cons_of_mem c hd)
  cases z with
  | nil => rw [List.append_nil]
  | cons c z =>
      have hrest := hnil z fun d hd => hz d (List.mem_cons_of_mem c hd)
      rw [tokens, pieces_append_separator (hz c List.mem_cons_self), List.filter_append]
      exact (congrArg (_ ++ ·) hrest).trans (List.append_nil _)

end Tokens

end ShaderPipeline.Text
