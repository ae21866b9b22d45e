import Mathlib.Data.List.SplitBy
import ShaderPipeline.Proofs.Text.Rename

namespace ShaderPipeline.Text

variable {name new m t w : Text} {rs : List Text}

def notWord (c : Char) : Bool := !isWord c

def words (t : Text) : List Text := tokens notWord t

/-- The maximal runs of word characters and of other characters, as they follow each other. -/
def runs (t : Text) : List Text := t.splitBy fun c d => isWord c == isWord d

def renameRun (name new run : Text) : Text := if run = name then new else run

def renameWord (name new t : Text) : Text := (runs t).flatMap (renameRun name new)

section Parted

/-- Each part is a word, or holds no part of a word; no word goes on in the next part. -/
inductive Parted : List Text → Prop
  | nil : Parted []
  | plain {m : Text} {rs : List Text} (hm : Wordless m) (h : Parted rs) : Parted (m :: rs)
  | word {w : Text} {rs : List Text} (hw : Token notWord w) (hends : endsWord rs.flatten = true)
      (h : Parted rs) : Parted (w :: rs)

theorem isWord_of_whole (h : Whole notWord t) : ∀ c ∈ t, isWord c = true := by
  intro c hc
  simpa [notWord] using h c hc

theorem isWord_of_isChain {c : Char} (h : (c :: t).IsChain fun c d => isWord c == isWord d) :
    ∀ d ∈ t, isWord d = isWord c := by
  induction t generalizing c with
  | nil => nofun
  | cons e t ih =>
      obtain ⟨hce, hchain⟩ := List.isChain_cons_cons.mp h
      have he : isWord c = isWord e := by simpa using hce
      intro d hd
      rcases List.mem_cons.mp hd with rfl | hd
      · exact he.symm
      · exact (ih hchain d hd).trans he.symm

theorem parted_of_chains (hne : [] ∉ rs)
    (hruns : ∀ r ∈ rs, r.IsChain fun c d => isWord c == isWord d)
    (hbreaks : rs.IsChain fun a b =>
      ∃ ha hb, (isWord (a.getLast ha) == isWord (b.head hb)) = false) : Parted rs := by
  induction rs with
  | nil => exact .nil
  | cons r rs ih =>
      have hrest : Parted rs := ih (fun h => hne (List.mem_cons_of_mem r h))
        (fun s hs => hruns s (List.mem_cons_of_mem r hs)) hbreaks.tail
      cases r with
      | nil => exact absurd List.mem_cons_self hne
      | cons c t =>
          have hkind := isWord_of_isChain (hruns (c :: t) List.mem_cons_self)
          cases hc : isWord c with
          | false =>
              have hall : ∀ d ∈ c :: t, isWord d = false :=
                List.forall_mem_cons.mpr ⟨hc, fun d hd => (hkind d hd).trans hc⟩
              exact .plain hall hrest
          | true =>
              have hall : ∀ d ∈ c :: t, isWord d = true :=
                List.forall_mem_cons.mpr ⟨hc, fun d hd => (hkind d hd).trans hc⟩
              refine .word ⟨List.cons_ne_nil c t, fun d hd => ?_⟩ ?_ hrest
              · rw [notWord, hall d hd]
                rfl
              · cases rs with
                | nil => rfl
                | cons b rs =>
                    obtain ⟨_, hb, hbreak⟩ := (List.isChain_cons_cons.mp hbreaks).1
                    rw [hall _ (List.getLast_mem _)] at hbreak
                    cases b with
                    | nil => exact absurd rfl hb
                    | cons d b => exact endsWord_cons (by simpa using hbreak) _

theorem parted_runs (t : Text) : Parted (runs t) :=
  parted_of_chains (List.nil_notMem_splitBy _ t) (fun _ => List.isChain_of_mem_splitBy)
    (List.isChain_getLast_head_splitBy (fun c d => isWord c == isWord d) t)

theorem flatten_runs (t : Text) : (runs t).flatten = t := List.flatten_splitBy _ t

end Parted

section Words

theorem words_of_wordless (hm : Wordless m) (t : Text) : words (m ++ t) = words t := by
  induction m with
  | nil => rfl
  | cons c m ih =>
      have hc : notWord c = true := by rw [notWord, hm c List.mem_cons_self]; rfl
      exact (tokens_cons hc _).trans (ih fun d hd => hm d (List.mem_cons_of_mem c hd))

theorem words_of_token (hw : Token notWord w) (ht : endsWord t = true) :
    words (w ++ t) = w :: words t := by
  cases t with
  | nil =>
      rw [List.append_nil, words, tokens, pieces_of_whole hw.2,
        List.filter_cons_of_pos (by simpa using hw.1)]
      rfl
  | cons c t =>
      have hc : notWord c = true := by simpa [endsWord, notWord] using ht
      rw [words, tokens_append hw hc, words, tokens_cons hc]

theorem words_append (hends : endsWord t = true) (s : Text) :
    words (s ++ t) = words s ++ words t := by
  have hparted : ∀ rs : List Text, Parted rs →
      words (rs.flatten ++ t) = words rs.flatten ++ words t := by
    intro rs h
    induction h with
    | nil => rfl
    | @plain m rs hm _ ih =>
        rw [List.flatten_cons, List.append_assoc, words_of_wordless hm, words_of_wordless hm, ih]
    | @word w rs hw hrs _ ih =>
        rw [List.flatten_cons, List.append_assoc, words_of_token hw (endsWord_append hrs hends),
          words_of_token hw hrs, ih, List.cons_append]
  have hsplit := hparted (runs s) (parted_runs s)
  rwa [flatten_runs] at hsplit

theorem Wordless.words (hm : Wordless m) : words m = [] := by
  have hwords := words_of_wordless hm []
  rwa [List.append_nil] at hwords

theorem Wordless.endsWord (hm : Wordless m) : endsWord m = true := by
  cases m with
  | nil => rfl
  | cons c m => exact endsWord_cons (hm c List.mem_cons_self) m

theorem words_trimEnd (t : Text) : words (trimEnd t) = words t := by
  obtain ⟨tail, htail, he⟩ := exists_trimEnd t
  have hm := wordless_of_allBlank htail
  conv_rhs => rw [he]
  rw [words_append hm.endsWord, hm.words, List.append_nil]

theorem words_trim (t : Text) : words (trim t) = words t := by
  obtain ⟨lead, hlead, he⟩ := exists_trimStart t
  rw [trim, words_trimEnd]
  conv_rhs => rw [he, words_of_wordless (wordless_of_allBlank hlead)]

theorem words_suffix (hends : endsWord t = true) {s : Text} (h : t <:+ s) : words t ⊆ words s := by
  obtain ⟨a, rfl⟩ := h
  rw [words_append hends]
  exact List.subset_append_right _ _

end Words

section Rename

theorem replaceWordFrom_length (inWord : Bool) (t : Text) :
    replaceWordFrom name new inWord t.length t = [] := by
  induction t generalizing inWord with
  | nil => rfl
  | cons c t ih => exact ih (isWord c)

theorem replaceWord_self (hname : Token notWord name) : replaceWord name new name = new := by
  cases name with
  | nil => exact absurd rfl hname.1
  | cons c t =>
      have hc : isWord c = true := isWord_of_whole hname.2 c List.mem_cons_self
      have hlast : isWord ((c :: t).getLast hname.1) = true :=
        isWord_of_whole hname.2 _ (List.getLast_mem _)
      have hafter : after? (c :: t) (c :: t) = some [] :=
        after?_eq_some_iff.mpr (List.append_nil _).symm
      have hbreaks : breaksAfter (c :: t) [] = true := by
        rw [breaksAfter_eq, List.getLast?_eq_some_getLast hname.1, Option.any_some, hlast]
        rfl
      rw [replaceWord, replaceWordFrom, hafter]
      dsimp only
      rw [hc, hbreaks, if_pos (by decide), List.length_cons, Nat.add_sub_cancel,
        replaceWordFrom_length, List.append_nil]

theorem replaceWord_append_of_endsWord (hname : Token notWord name) (ht : endsWord t = true)
    (s : Text) :
    replaceWord name new (s ++ t) = replaceWord name new s ++ replaceWord name new t := by
  cases t with
  | nil => exact (congrArg _ (List.append_nil s)).trans (List.append_nil _).symm
  | cons c t =>
      have hc : isWord c = false := by simpa [endsWord] using ht
      have hm : Wordless [c] := fun d hd => by rw [List.mem_singleton.mp hd, hc]
      have hno : ¬ [c] <:+: name := by
        intro h
        have hword := isWord_of_whole hname.2 c (h.subset List.mem_cons_self)
        rw [hc] at hword
        cases hword
      have hsplit : replaceWord name new (s ++ [c] ++ t) = _ :=
        replaceWord_append hm hno hname.1 s t
      rw [List.append_assoc, List.append_assoc] at hsplit
      rw [replaceWord_cons hc]
      exact hsplit

theorem Wordless.renameRun (hname : Token notWord name) (hm : Wordless m) :
    renameRun name new m = m := by
  refine if_neg fun h => ?_
  obtain ⟨c, hc⟩ := List.exists_mem_of_ne_nil name hname.1
  have hword := isWord_of_whole hname.2 c hc
  rw [hm c (h ▸ hc)] at hword
  cases hword

theorem replaceWord_word (hname : Token notWord name) (hw : Whole notWord w) :
    replaceWord name new w = renameRun name new w := by
  rw [Text.renameRun]
  split
  case isTrue h => rw [h, replaceWord_self hname]
  case isFalse h => exact replaceWord_of_word hname.1 (isWord_of_whole hw) (Ne.symm h)

/-- The words that are the name become `new`, and every other character stays. -/
theorem replaceWord_eq_renameWord (hname : Token notWord name) (new t : Text) :
    replaceWord name new t = renameWord name new t := by
  have hparted : ∀ rs : List Text, Parted rs →
      replaceWord name new rs.flatten = rs.flatMap (renameRun name new) := by
    intro rs h
    induction h with
    | nil => rfl
    | @plain m rs hm _ ih =>
        rw [List.flatten_cons, List.flatMap_cons, hm.renameRun hname, replaceWord,
          replaceWordFrom_wordless hm, ih]
    | @word w rs hw hends _ ih =>
        rw [List.flatten_cons, List.flatMap_cons, replaceWord_append_of_endsWord hname hends,
          replaceWord_word hname hw.2, ih]
  have hruns := hparted (runs t) (parted_runs t)
  rwa [flatten_runs] at hruns

theorem renameRun_token (hnew : Token notWord new) (hw : Token notWord w) :
    Token notWord (renameRun name new w) := by
  rw [Text.renameRun]
  split
  · exact hnew
  · exact hw

theorem trimEnd_renameWord (hname : Token notWord name) (hnew : Token isBlank new) (t : Text) :
    trimEnd (renameWord name new t) = renameWord name new (trimEnd t) := by
  obtain ⟨tail, htail, he⟩ := exists_trimEnd t
  rw [← replaceWord_eq_renameWord hname, ← replaceWord_eq_renameWord hname]
  conv_lhs => rw [he, replaceWord_append_wordless (wordless_of_allBlank htail) hname.1,
    trimEnd_append_of_blank htail]
  exact trimEnd_replaceWord hnew (trimEnd_trimEnd t)

theorem words_renameWord (hname : Token notWord name) (hnew : Token notWord new) (t : Text) :
    words (renameWord name new t) = (words t).map (renameRun name new) := by
  have hends : ∀ rs : List Text, Parted rs → endsWord rs.flatten = true →
      endsWord (rs.flatMap (renameRun name new)) = true := by
    intro rs h hrs
    induction h with
    | nil => rfl
    | @plain m rs hm _ ih =>
        rw [List.flatMap_cons, hm.renameRun hname]
        refine hm.endsWord_append ?_
        rintro rfl
        exact ih hrs
    | @word w rs hw _ _ _ =>
        obtain ⟨c, w, rfl⟩ := List.exists_cons_of_ne_nil hw.1
        have hc : isWord c = true := isWord_of_whole hw.2 c List.mem_cons_self
        rw [List.flatten_cons, List.cons_append, endsWord, hc] at hrs
        cases hrs
  have hparted : ∀ rs : List Text, Parted rs →
      words (rs.flatMap (renameRun name new)) = (words rs.flatten).map (renameRun name new) := by
    intro rs h
    induction h with
    | nil => rfl
    | @plain m rs hm _ ih =>
        rw [List.flatten_cons, List.flatMap_cons, hm.renameRun hname, words_of_wordless hm,
          words_of_wordless hm, ih]
    | @word w rs hw hrs h ih =>
        rw [List.flatten_cons, List.flatMap_cons, words_of_token hw hrs, List.map_cons,
          words_of_token (renameRun_token hnew hw) (hends rs h hrs), ih]
  have hruns := hparted (runs t) (parted_runs t)
  rwa [flatten_runs] at hruns

theorem not_mem_words_renameWord (hname : Token notWord name) (hnew : Token notWord new)
    (hne : name ≠ new) (t : Text) : name ∉ words (renameWord name new t) := by
  rw [words_renameWord hname hnew]
  intro h
  obtain ⟨w, _, hw⟩ := List.mem_map.mp h
  rw [renameRun] at hw
  split at hw
  · exact hne hw.symm
  · contradiction

theorem endsWord_replaceWord (hends : endsWord t = true) :
    endsWord (replaceWord name new t) = true := by
  cases t with
  | nil => rfl
  | cons c t =>
      have hc : isWord c = false := by simpa [endsWord] using hends
      rw [replaceWord_cons hc]
      exact endsWord_cons hc _

theorem leadingWord?_replaceWord (hname : Token notWord name)
    (hnew : leadingWord? new = some (new, [])) {rest : Text}
    (h : leadingWord? t = some (w, rest)) : leadingWord? (replaceWord name new t) =
      some (renameRun name new w, replaceWord name new rest) := by
  obtain ⟨rfl, hends, hall⟩ := leadingWord?_eq_some h
  have hw : Whole notWord w := by
    intro c hc
    rw [notWord, List.all_eq_true.mp hall c hc]
    rfl
  have hword : leadingWord? (renameRun name new w) = some (renameRun name new w, []) := by
    rw [Text.renameRun]
    split
    · exact hnew
    · exact leadingWord?_word h
  rw [replaceWord_append_of_endsWord hname hends, replaceWord_word hname hw]
  exact leadingWord?_append hword (endsWord_replaceWord hends)

theorem leadingWord?_replaceWord_none (hname : Token notWord name)
    (hnew : leadingWord? new = some (new, [])) (h : leadingWord? t = none) :
    leadingWord? (replaceWord name new t) = none ∨
      ∃ rest, leadingWord? (replaceWord name new t) = some (new, rest) := by
  cases t with
  | nil => exact .inl rfl
  | cons c t =>
      have hc : ¬ startsWord c = true := by
        intro hc
        rw [leadingWord?, if_pos hc] at h
        cases h
      obtain ⟨w, rest, ht, hw, hends⟩ : ∃ w rest, t = w ++ rest ∧ (∀ d ∈ w, isWord d = true) ∧
          endsWord rest = true := by
        exact ⟨t.takeWhile isWord, t.dropWhile isWord, List.takeWhile_append_dropWhile.symm,
          fun d hd => List.mem_takeWhile_imp hd, endsWord_dropWhile t⟩
      cases hword : isWord c with
      | false =>
          left
          rw [replaceWord_cons hword, leadingWord?, if_neg hc]
      | true =>
          have hrun : Whole notWord (c :: w) := by
            intro d hd
            rcases List.mem_cons.mp hd with rfl | hd
            · rw [notWord, hword]
              rfl
            · rw [notWord, hw d hd]
              rfl
          rw [ht, ← List.cons_append, replaceWord_append_of_endsWord hname hends,
            replaceWord_word hname hrun, Text.renameRun]
          split
          · exact .inr ⟨_, leadingWord?_append hnew (endsWord_replaceWord hends)⟩
          · left
            rw [List.cons_append, leadingWord?, if_neg hc]

end Rename

end ShaderPipeline.Text
