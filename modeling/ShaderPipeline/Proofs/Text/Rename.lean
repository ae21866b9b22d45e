import ShaderPipeline.Proofs.Text.Patch
import ShaderPipeline.Proofs.Text.Pieces
import ShaderPipeline.Proofs.Text.Words

namespace ShaderPipeline.Text

variable {name new m a b r t : Text} {c : Char}

def Wordless (m : Text) : Prop := ∀ c ∈ m, isWord c = false

instance (m : Text) : Decidable (Wordless m) :=
  List.decidableBAll (fun c => isWord c = false) m

theorem wordless_of_allBlank (h : allBlank m = true) : Wordless m :=
  fun c hc => not_isWord_of_isBlank (allBlank_iff.mp h c hc)

theorem Wordless.endsWord_append (hm : Wordless m) (hr : m = [] → endsWord r = true) :
    endsWord (m ++ r) = true := by
  cases m with
  | nil => exact hr rfl
  | cons c m => exact endsWord_cons (hm c List.mem_cons_self) _

section Breaks

theorem breaksAfter_eq (name rest : Text) :
    breaksAfter name rest = (name.getLast?.any isWord != !endsWord rest) := by
  cases rest with
  | nil => rfl
  | cons c rest => simp [breaksAfter, endsWord]

theorem breaksAfter_eq_false {rest : Text} (hl : name.getLast? = some c) (hc : isWord c = false)
    (hr : endsWord rest = true) : breaksAfter name rest = false := by
  rw [breaksAfter_eq, hl, hr]
  simp [hc]

theorem endsWord_append_eq (hb : endsWord b = true) (rest : Text) :
    endsWord (rest ++ b) = endsWord rest := by
  cases rest with
  | nil => exact hb
  | cons c rest => rfl

theorem breaksAfter_append (hb : endsWord b = true) (rest : Text) :
    breaksAfter name (rest ++ b) = breaksAfter name rest := by
  rw [breaksAfter_eq, breaksAfter_eq, endsWord_append_eq hb]

/-- An occurrence that starts before a mark and reaches into it does not count. -/
theorem breaksAfter_overlap {rest : Text} (hm : Wordless m) (hno : r = [] ∨ ¬ m <:+: name)
    (he : name ++ rest = a ++ (m ++ r)) (hlong : a.length < name.length) :
    breaksAfter name rest = false := by
  obtain ⟨n, rfl⟩ : a <+: name :=
    List.prefix_of_prefix_length_le (he ▸ List.prefix_append a _) (List.prefix_append name rest)
      hlong.le
  have hn : n ≠ [] := by
    rintro rfl
    simp at hlong
  have hrest : n ++ rest = m ++ r := by
    rw [List.append_assoc] at he
    exact List.append_cancel_left he
  have hinside : n <+: m := by
    rcases List.prefix_or_prefix_of_prefix (hrest ▸ List.prefix_append n rest)
      (List.prefix_append m r) with h | h
    · exact h
    · rcases hno with rfl | hno
      · rw [List.append_nil] at hrest
        exact ⟨rest, hrest⟩
      · exact absurd (h.isInfix.trans (List.suffix_append a n).isInfix) hno
  obtain ⟨n', rfl⟩ := hinside
  have hr : rest = n' ++ r := by
    rw [List.append_assoc] at hrest
    exact List.append_cancel_left hrest
  have hlast : n.getLast hn ∈ n ++ n' := List.mem_append_left _ (List.getLast_mem hn)
  refine breaksAfter_eq_false (c := n.getLast hn) ?_ (hm _ hlast) ?_
  · rw [List.getLast?_append_of_ne_nil _ hn, List.getLast?_eq_some_getLast hn]
  · rw [hr]
    refine Wordless.endsWord_append (fun c hc => hm c (List.mem_append_right n hc)) ?_
    rintro rfl
    rcases hno with rfl | hno
    · rfl
    · rw [List.append_nil] at hno
      exact absurd (List.suffix_append a n).isInfix hno

end Breaks

section Marks

theorem replaceWordFrom_wordless (hm : Wordless m) (r : Text) :
    replaceWordFrom name new false 0 (m ++ r) = m ++ replaceWord name new r := by
  induction m with
  | nil => rfl
  | cons c m ih =>
      have hc : isWord c = false := hm c List.mem_cons_self
      have hrest := ih fun d hd => hm d (List.mem_cons_of_mem c hd)
      rw [List.cons_append, replaceWordFrom]
      split
      · rw [hc, if_neg (by simp), hrest]
        rfl
      · rw [hc, hrest]
        rfl

theorem replaceWord_cons (hc : isWord c = false) (t : Text) :
    replaceWord name new (c :: t) = c :: replaceWord name new t := by
  apply replaceWordFrom_wordless (m := [c])
  intro d hd
  rw [List.mem_singleton.mp hd, hc]

theorem replaceWord_of_word (hname : name ≠ []) (ht : ∀ d ∈ t, isWord d = true) (hne : name ≠ t) :
    replaceWord name new t = t := by
  have hinside (u : Text) (hu : ∀ d ∈ u, isWord d = true) :
      replaceWordFrom name new true 0 u = u := by
    induction u with
    | nil => rfl
    | cons d u ih =>
        have hd : isWord d = true := hu d List.mem_cons_self
        have hrest := ih fun e he => hu e (List.mem_cons_of_mem d he)
        rw [replaceWordFrom, hd]
        split
        · rw [if_neg (by simp), hrest]
        · rw [hrest]
  cases t with
  | nil => rfl
  | cons d t =>
      have hd : isWord d = true := ht d List.mem_cons_self
      have hrest := hinside t fun e he => ht e (List.mem_cons_of_mem d he)
      rw [replaceWord, replaceWordFrom, hd]
      split
      · next rest h =>
          -- the name ends inside the word
          have hword := after?_eq_some_iff.mp h
          have hbreaks : breaksAfter name rest = false := by
            cases rest with
            | nil => exact absurd (hword.trans (List.append_nil name)).symm hne
            | cons e rest =>
                have he : isWord e = true := ht e (hword ▸ by simp)
                have hlast : isWord (name.getLast hname) = true :=
                  ht _ (hword ▸ List.mem_append_left _ (List.getLast_mem hname))
                rw [breaksAfter_eq, List.getLast?_eq_some_getLast hname, endsWord, he,
                  Option.any_some, hlast]
                rfl
          rw [hbreaks, Bool.and_false, if_neg (by simp), hrest]
      · rw [hrest]

theorem replaceWordFrom_mark (hm : Wordless m) (hno : r = [] ∨ ¬ m <:+: name) (hne : name ≠ [])
    (inWord : Bool) (hmr : m = [] → r = []) :
    replaceWordFrom name new inWord 0 (m ++ r) = m ++ replaceWord name new r := by
  cases m with
  | nil =>
      rw [hmr rfl]
      rfl
  | cons c m =>
      have hc : isWord c = false := hm c List.mem_cons_self
      have hrest : replaceWordFrom name new false 0 (m ++ r) = m ++ replaceWord name new r :=
        replaceWordFrom_wordless (fun d hd => hm d (List.mem_cons_of_mem c hd)) r
      rw [List.cons_append, replaceWordFrom]
      split
      · next rest h =>
          have hover : breaksAfter name rest = false :=
            breaksAfter_overlap (a := []) hm hno (after?_eq_some_iff.mp h).symm
              (List.length_pos_iff.mpr hne)
          rw [hover, Bool.and_false, if_neg (by simp), hc, hrest]
          rfl
      · rw [hc, hrest]
        rfl

theorem replaceWordFrom_append (hm : Wordless m) (hno : r = [] ∨ ¬ m <:+: name) (hne : name ≠ [])
    (hmr : m = [] → r = []) (inWord : Bool) {skip : Nat} (hs : skip ≤ a.length) :
    replaceWordFrom name new inWord skip (a ++ (m ++ r)) =
      replaceWordFrom name new inWord skip a ++ (m ++ replaceWord name new r) := by
  induction a generalizing inWord skip with
  | nil =>
      obtain rfl : skip = 0 := by simpa using hs
      exact replaceWordFrom_mark hm hno hne inWord hmr
  | cons x a ih =>
      cases skip with
      | succ skip => exact ih (isWord x) (by simpa using hs)
      | zero =>
          have hends : endsWord (m ++ r) = true := hm.endsWord_append fun h => by rw [hmr h]; rfl
          have hcopy := ih (isWord x) (Nat.zero_le a.length)
          rw [List.cons_append, replaceWordFrom, replaceWordFrom]
          cases h : after? name (x :: a) with
          | some rest =>
              have hname : x :: a = name ++ rest := after?_eq_some_iff.mp h
              have hlong : after? name (x :: (a ++ (m ++ r))) = some (rest ++ (m ++ r)) := by
                rw [after?_eq_some_iff, ← List.append_assoc name, ← hname]
                rfl
              have hskip : name.length - 1 ≤ a.length := by
                have := congrArg List.length hname
                simp only [List.length_cons, List.length_append] at this
                omega
              rw [hlong]
              dsimp only
              rw [breaksAfter_append hends]
              split
              · rw [ih (isWord x) hskip, List.append_assoc]
              · rw [hcopy]
                rfl
          | none =>
              have hshort : ¬ name <+: x :: a := after?_eq_none_iff.mp h
              cases h' : after? name (x :: (a ++ (m ++ r))) with
              | none =>
                  dsimp only
                  rw [hcopy]
                  rfl
              | some rest =>
                  have he : name ++ rest = (x :: a) ++ (m ++ r) := (after?_eq_some_iff.mp h').symm
                  have hlt : (x :: a).length < name.length := by
                    by_contra hle
                    exact hshort (List.prefix_of_prefix_length_le (he ▸ List.prefix_append name rest)
                      (List.prefix_append _ _) (Nat.le_of_not_lt hle))
                  dsimp only
                  rw [breaksAfter_overlap hm hno he hlt, Bool.and_false, if_neg (by simp), hcopy]
                  rfl

theorem replaceWord_append (hm : Wordless m) (hno : ¬ m <:+: name) (hne : name ≠ []) (a r : Text) :
    replaceWord name new (a ++ m ++ r) =
      replaceWord name new a ++ m ++ replaceWord name new r := by
  have hmr : m = [] → r = [] := by
    rintro rfl
    exact absurd List.nil_infix hno
  rw [List.append_assoc, List.append_assoc]
  exact replaceWordFrom_append hm (.inr hno) hne hmr false (Nat.zero_le _)

theorem replaceWord_append_wordless (hm : Wordless m) (hne : name ≠ []) (a : Text) :
    replaceWord name new (a ++ m) = replaceWord name new a ++ m := by
  have h : replaceWordFrom name new false 0 (a ++ (m ++ [])) =
      replaceWordFrom name new false 0 a ++ (m ++ replaceWord name new []) :=
    replaceWordFrom_append hm (.inl rfl) hne (fun _ => rfl) false (Nat.zero_le _)
  rw [List.append_nil] at h
  rw [replaceWord, h]
  exact congrArg (_ ++ ·) (List.append_nil m)

theorem cut?_replaceWord (hm : Wordless m) (hno : ¬ m <:+: name) (hne : name ≠ [])
    (hf : Foreign m new) (t : Text) : cut? m (replaceWord name new t) =
      (cut? m t).map fun (a, r) => (replaceWord name new a, replaceWord name new r) := by
  cases h : cut? m t with
  | none =>
      rw [cut?_eq_none_iff] at h
      exact cut?_eq_none_iff.mpr fun hi => h ((patched_replaceWord name new t).holds hf.apart hi)
  | some p =>
      obtain ⟨a, r⟩ := p
      have hfirst := not_infix_of_cut? hf.nonempty h
      rw [eq_append_of_cut? h, replaceWord_append hm hno hne]
      refine cut?_of_not_infix hf.nonempty fun hi => hfirst ?_
      have hdrop : Wordless m.dropLast := fun c hc => hm c (List.mem_of_mem_dropLast hc)
      rw [← replaceWord_append_wordless hdrop hne] at hi
      exact (patched_replaceWord name new _).holds hf.apart hi

end Marks

section Trim

theorem head?_replaceWord (hnew : new ≠ []) (h : (replaceWord name new t).head? = some c) :
    new.head? = some c ∨ t.head? = some c := by
  cases t with
  | nil => cases h
  | cons x t =>
      rw [replaceWord, replaceWordFrom] at h
      split at h
      · split at h
        · rw [List.head?_append_of_ne_nil _ hnew] at h
          exact .inl h
        · exact .inr h
      · exact .inr h

theorem replaceWordFrom_eq_nil (hnew : new ≠ []) {inWord : Bool}
    (h : replaceWordFrom name new inWord 0 t = []) : t = [] := by
  cases t with
  | nil => rfl
  | cons x t =>
      rw [replaceWordFrom] at h
      split at h
      · split at h
        · exact absurd (List.append_eq_nil_iff.mp h).1 hnew
        · cases h
      · cases h

theorem getLast?_replaceWordFrom (hnew : new ≠ []) {inWord : Bool} {skip : Nat}
    (h : (replaceWordFrom name new inWord skip t).getLast? = some c) :
    new.getLast? = some c ∨ t.getLast? = some c := by
  induction t generalizing inWord skip with
  | nil => cases skip <;> cases h
  | cons x t ih =>
      have hcons : t.getLast? = some c → (x :: t).getLast? = some c := by
        cases t with
        | nil => intro h; cases h
        | cons y t => rw [List.getLast?_cons_cons]; exact id
      -- a character is the last of the copy only if it is the last of the text
      have hcopy : (x :: replaceWordFrom name new (isWord x) 0 t).getLast? = some c →
          new.getLast? = some c ∨ (x :: t).getLast? = some c := by
        intro h
        cases ho : replaceWordFrom name new (isWord x) 0 t with
        | nil =>
            rw [ho] at h
            rw [replaceWordFrom_eq_nil hnew ho]
            exact .inr h
        | cons y o =>
            rw [ho, List.getLast?_cons_cons, ← ho] at h
            exact (ih h).imp_right hcons
      cases skip with
      | succ skip => exact (ih h).imp_right hcons
      | zero =>
          rw [replaceWordFrom] at h
          split at h
          · split at h
            · cases ho : replaceWordFrom name new (isWord x) (name.length - 1) t with
              | nil =>
                  rw [ho, List.append_nil] at h
                  exact .inl h
              | cons y o =>
                  rw [ho, List.getLast?_append_of_ne_nil _ (List.cons_ne_nil y o), ← ho] at h
                  exact (ih h).imp_right hcons
            · exact hcopy h
          · exact hcopy h

theorem trimEnd_replaceWord (hnew : Token isBlank new) (h : trimEnd t = t) :
    trimEnd (replaceWord name new t) = replaceWord name new t := by
  refine trimEnd_eq_self_of_last fun c hc => ?_
  rcases getLast?_replaceWordFrom hnew.1 hc with hc | hc
  · exact hnew.2 c (List.mem_of_getLast? hc)
  · rw [← h] at hc
    exact not_isBlank_getLast_trimEnd hc

theorem trimStart_replaceWord (hnew : Token isBlank new) (t : Text) :
    trimStart (replaceWord name new t) = replaceWord name new (trimStart t) := by
  obtain ⟨lead, hl, he⟩ := exists_trimStart t
  have hsplit : replaceWord name new t = lead ++ replaceWord name new (trimStart t) := by
    conv_lhs => rw [he]
    exact replaceWordFrom_wordless (wordless_of_allBlank hl) _
  rw [hsplit, trimStart_append_of_blank hl]
  apply trimStart_eq_self_of_head
  intro c hc
  rcases head?_replaceWord hnew.1 hc with h | h
  · exact hnew.2 c (List.mem_of_head? h)
  · exact not_isBlank_head_trimStart h

theorem trim_replaceWord (hne : name ≠ []) (hnew : Token isBlank new) (t : Text) :
    trim (replaceWord name new t) = replaceWord name new (trim t) := by
  obtain ⟨lead, tail, hl, ht, he⟩ := exists_trim t
  have hsplit : replaceWord name new t = lead ++ replaceWord name new (trim t) ++ tail := by
    conv_lhs => rw [he]
    rw [replaceWord_append_wordless (wordless_of_allBlank ht) hne, replaceWord,
      replaceWordFrom_wordless (wordless_of_allBlank hl)]
  rw [hsplit, trim_append_of_blank ht, trim_of_blank_append hl]
  refine trim_eq_self_of_ends (fun c hc => ?_) fun c hc => ?_
  · rcases head?_replaceWord hnew.1 hc with h | h
    · exact hnew.2 c (List.mem_of_head? h)
    · exact not_isBlank_head_trim h
  · rcases getLast?_replaceWordFrom hnew.1 hc with h | h
    · exact hnew.2 c (List.mem_of_getLast? h)
    · exact not_isBlank_getLast_trim h

end Trim

end ShaderPipeline.Text
