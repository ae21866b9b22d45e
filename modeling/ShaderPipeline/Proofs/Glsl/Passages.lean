import ShaderPipeline.Proofs.Glsl.Variables
import ShaderPipeline.Proofs.Text.Rename
import ShaderPipeline.Proofs.Text.Replace

namespace ShaderPipeline.Glsl

open Text

variable {t rest m name new l : Text} {ws vs qs : List Text} {storage : Storage}

section Statements

theorem Statement.wordless {g z : Text} (hg : allBlank g = true) (hz : allBlank z = true) :
    Wordless (g ++ ';' :: z) := by
  intro c hc
  simp only [List.mem_append, List.mem_cons] at hc
  rcases hc with hc | rfl | hc
  · exact wordless_of_allBlank hg c hc
  · decide
  · exact wordless_of_allBlank hz c hc

theorem Statement.mem_cases (h : Statement ws t) {c : Char} (hc : c ∈ t) :
    isWord c = true ∨ endsDeclaration c = true := by
  induction h with
  | stop hg hz =>
      simp only [List.mem_append, List.mem_cons] at hc
      rcases hc with hc | rfl | hc
      · exact .inr (parts_endsDeclaration.blank c (allBlank_iff.mp hg c hc))
      · exact .inr (by decide)
      · exact .inr (parts_endsDeclaration.blank c (allBlank_iff.mp hz c hc))
  | word hg hw _ _ ih =>
      simp only [List.mem_append] at hc
      rcases hc with hc | hc | hc
      · exact .inr (parts_endsDeclaration.blank c (allBlank_iff.mp hg c hc))
      · exact .inl (isWord_of_leadingWord? hw c hc)
      · exact ih hc

theorem not_infix_of_statement (h : Statement ws t) (hne : m ≠ []) (hm : ∀ c ∈ m, isWord c = true)
    (hws : ∀ w ∈ ws, ¬ m <:+: w) : ¬ m <:+: t := by
  induction h with
  | @stop g z hg hz =>
      intro hi
      obtain ⟨c, hc⟩ := List.exists_mem_of_ne_nil m hne
      have hno := Statement.wordless hg hz c (hi.subset hc)
      rw [hm c hc] at hno
      cases hno
  | @word g w t ws hg hw ht hs ih =>
      intro hi
      rcases infix_append_of_endsWord hm ht (infix_of_blank_append hne hm hg hi) with hi | hi
      · exact hws w List.mem_cons_self hi
      · exact ih (fun v hv => hws v (List.mem_cons_of_mem w hv)) hi

theorem Statement.replaceWord (h : Statement ws t) (hname : Token endsDeclaration name)
    (hws : name ∉ ws) : replaceWord name new t = t := by
  induction h with
  | @stop g z hg hz =>
      have hcopy : Text.replaceWord name new (g ++ ';' :: z ++ []) = g ++ ';' :: z ++ [] :=
        replaceWordFrom_wordless (Statement.wordless hg hz) []
      rwa [List.append_nil] at hcopy
  | @word g w t ws hg hw ht hs ih =>
      obtain ⟨c, r, rfl, hc⟩ := hs.exists_cons parts_endsDeclaration ht
      have hcopy := ih fun hn => hws (List.mem_cons_of_mem w hn)
      have hmark : Wordless [c] := by
        intro d hd
        rw [List.mem_singleton.mp hd]
        by_contra hword
        rw [parts_endsDeclaration.word c (by simpa using hword)] at hc
        cases hc
      have hno : ¬ [c] <:+: name := by
        rw [List.singleton_infix_iff]
        intro hn
        rw [hname.2 c hn] at hc
        cases hc
      have hword : Text.replaceWord name new w = w :=
        replaceWord_of_word hname.1 (isWord_of_leadingWord? hw) fun he =>
          hws (he ▸ List.mem_cons_self)
      have hrest : Text.replaceWord name new r = r := by
        have hfront : Text.replaceWord name new (c :: r) = [c] ++ Text.replaceWord name new r :=
          replaceWordFrom_wordless hmark r
        rw [hfront] at hcopy
        exact List.append_cancel_left hcopy
      have hsplit : w ++ c :: r = w ++ [c] ++ r := by simp
      rw [Text.replaceWord, replaceWordFrom_wordless (wordless_of_allBlank hg), hsplit,
        replaceWord_append hmark hno hname.1, hword, hrest]

/-- The text is the words, one after the other, and then `rest`. -/
inductive Opens (rest : Text) : List Text → Text → Prop
  | rest (he : endsWord rest = true) : Opens rest [] rest
  | word {g w t : Text} {ws : List Text} (hg : allBlank g = true)
      (hw : leadingWord? w = some (w, [])) (ht : endsWord t = true) (h : Opens rest ws t) :
      Opens rest (w :: ws) (g ++ (w ++ t))

theorem Opens.statement (h : Opens rest ws t) (hr : Statement vs rest) : Statement (ws ++ vs) t := by
  induction h with
  | rest => exact hr
  | word hg hw ht _ ih => exact .word hg hw ht ih

end Statements

section Qualifiers

theorem Qualified.trimEnd (h : Qualified t storage rest) (hr : allBlank rest = false) :
    Qualified (trimEnd t) storage (trimEnd rest) := by
  obtain ⟨words, rfl, hends, hq, _, _⟩ := h.exists_words
  rw [trimEnd_append hr]
  exact hq.append (endsWord_trimEnd hends)

theorem Qualified.exists_trimEnd (h : Qualified t storage rest) :
    ∃ rest', Qualified (Text.trimEnd t) storage rest' := by
  cases hr : allBlank rest with
  | false => exact ⟨_, h.trimEnd hr⟩
  | true =>
      obtain ⟨words, rfl, _, hq, htrim, _⟩ := h.exists_words
      rw [trimEnd_append_of_blank hr, ← htrim, trimEnd_trim, htrim]
      exact ⟨[], hq⟩

theorem leadingWord?_storage (storage : Storage) :
    leadingWord? storage.word = some (storage.word, []) ∧
      Storage.ofWord? storage.word = some storage := by
  cases storage <;> decide

theorem leadingWord?_interpolation : ∀ q ∈ interpolationWords,
    leadingWord? q = some (q, []) ∧ Storage.ofWord? q = none := by decide

theorem Opens.qualified (hqs : ∀ q ∈ qs, q ∈ interpolationWords)
    (h : Opens rest (qs ++ [storage.word]) t) : Qualified (trimStart t) storage rest := by
  have hstart {w u : Text} (hw : leadingWord? w = some (w, [])) (hu : endsWord u = true) :
      leadingWord? (w ++ u) = some (w, u) := leadingWord?_append hw hu
  induction qs generalizing t with
  | nil =>
      obtain ⟨hw, hs⟩ := leadingWord?_storage storage
      cases h with
      | @word g _ _ _ hg _ ht h =>
          cases h with
          | rest =>
              rw [trimStart_append_of_blank hg, trimStart_leadingWord? (hstart hw ht)]
              exact .storage (hstart hw ht) hs
  | cons q qs ih =>
      obtain ⟨hw, hs⟩ := leadingWord?_interpolation q (hqs q List.mem_cons_self)
      cases h with
      | @word g _ u _ hg _ ht h =>
          rw [trimStart_append_of_blank hg, trimStart_leadingWord? (hstart hw ht)]
          refine .interpolation (hstart hw ht) hs ?_ (ih (fun p hp => hqs p (by simp [hp])) h)
          exact List.elem_eq_true_of_mem (hqs q List.mem_cons_self)

theorem pastLayout?_append {a : Text} (ha : ')' ∉ a) (t : Text) :
    pastLayout? (a ++ ')' :: t) = some (trim t) := by
  have hclose : cut? [')'] (')' :: t) = some ([], t) := rfl
  rw [pastLayout?, cut?_append ha, hclose]
  rfl

theorem pastLayout?_laid {g place : Text} (hg : allBlank g = true) (hp : ')' ∉ place) (t : Text) :
    pastLayout? (layoutWord ++ (g ++ '(' :: (place ++ ')' :: t))) = some (trim t) := by
  have hfront : ')' ∉ layoutWord ++ (g ++ '(' :: place) := by
    have hblank : ')' ∉ g := fun h => absurd (allBlank_iff.mp hg _ h) (by decide)
    simp only [List.mem_append, List.mem_cons, not_or]
    exact ⟨by decide, hblank, by decide, hp⟩
  have hsplit : layoutWord ++ (g ++ '(' :: (place ++ ')' :: t)) =
      layoutWord ++ (g ++ '(' :: place) ++ ')' :: t := by simp
  rw [hsplit, pastLayout?_append hfront]

end Qualifiers

/-- What `p` says is said of the line, or of what stands behind its layout if there is one, with
`place` between the parentheses. -/
inductive Placed (p : Text → Prop) : Option Text → Text → Prop
  | bare {t : Text} (ht : p t) : Placed p none t
  | laid {g h place t : Text} (hg : allBlank g = true) (hh : allBlank h = true) (hp : ')' ∉ place)
      (ht : p t) :
      Placed p (some place) (g ++ (layoutWord ++ (h ++ '(' :: (place ++ ')' :: t))))

/-- A variable that is passed on to the next stage or taken over from the one before. -/
structure Passage where
  place : Option Text := none
  qualifiers : List Text := []
  storage : Storage
  type : Text
  name : Text
  deriving DecidableEq, Repr

namespace Passage

variable {v : Passage}

def opening (v : Passage) : List Text := v.qualifiers ++ [v.storage.word]

def words (v : Passage) : List Text := v.opening ++ [v.type, v.name]

/-- The line is a declaration of the variable, in which `rest` follows the storage qualifier. -/
structure On (v : Passage) (rest l : Text) : Prop where
  qualifiers : ∀ q ∈ v.qualifiers, q ∈ interpolationWords
  stands : Placed (Opens rest v.opening) v.place l
  declares : Statement [v.type, v.name] rest

theorem On.statement (h : v.On rest l) : Placed (Statement v.words) v.place l := by
  have hstands := h.stands
  generalize v.place = p at hstands ⊢
  cases hstands with
  | bare ht => exact .bare (ht.statement h.declares)
  | laid hg hh hp ht => exact .laid hg hh hp (ht.statement h.declares)

theorem On.qualified? (h : v.On rest l) {t : Text} (ht : Opens rest v.opening t) :
    qualified? (trim t) = some (v.storage, trimEnd rest) :=
  ((Opens.qualified h.qualifiers ht).trimEnd h.declares.not_allBlank).eq

theorem On.trim_laid (h : v.On rest l) {place : Text} (hv : v.place = some place) :
    ∃ g t, allBlank g = true ∧ ')' ∉ place ∧ Opens rest v.opening t ∧
      trim l = layoutWord ++ (g ++ '(' :: (place ++ ')' :: trimEnd t)) := by
  have hstands := h.stands
  rw [hv] at hstands
  cases hstands with
  | @laid g k _ t hg hh hp ht =>
      refine ⟨k, t, hh, hp, ht, ?_⟩
      have hblank : allBlank t = false := (ht.statement h.declares).not_allBlank
      have hsplit (u : Text) : k ++ '(' :: (place ++ ')' :: u) = k ++ '(' :: place ++ ')' :: u := by
        simp
      rw [hsplit, trim_layout hg hblank, hsplit]

theorem On.declaration?_laid (h : v.On rest l) (hs : v.storage = .input) {place digits : Text}
    (hv : v.place = some place) (hd : location? place = some digits) :
    declaration? (trim l) =
      (readNumeral digits).map fun n => some (.attribute ⟨v.name, v.type, some n⟩) := by
  obtain ⟨g, t, hg, hp, ht, htrim⟩ := h.trim_laid hv
  have hwords : v.words = v.qualifiers ++ inWord :: [v.type, v.name] := by
    rw [words, opening, hs, List.append_assoc]
    rfl
  have hno : ∀ q ∈ v.qualifiers, (q != inWord) = true := by
    intro q hq
    have hall : ∀ q ∈ interpolationWords, (q != inWord) = true := by decide
    exact hall q (h.qualifiers q hq)
  have htokens : tokens endsDeclaration (trimEnd t) = v.words :=
    (ht.statement h.declares).trimEnd.tokens parts_endsDeclaration
  have hinput : inputTokens? v.words = some (v.type, v.name) := by
    rw [inputTokens?, hwords, List.dropWhile_append_of_pos hno]
    rfl
  rw [htrim, Glsl.declaration?_laid hg hp, htokens, hinput, hd]

end Passage

section Replacements

variable {v : Passage} {old : Text}

theorem Passage.On.replaceAll (h : v.On rest l) (new : Text) (hne : old ≠ [])
    (hold : ∀ c ∈ old, isWord c = true) (hnew : ')' ∉ new) (hlayout : ¬ old <:+: layoutWord)
    (hwords : ∀ w ∈ v.words, ¬ old <:+: w) :
    ({ v with place := v.place.map (Text.replaceAll old new) } : Passage).On rest
      (Text.replaceAll old new l) := by
  have hmark {c : Char} (hc : isWord c = false) : c ∉ old := by
    intro hm
    rw [hold c hm] at hc
    cases hc
  refine ⟨h.qualifiers, ?_, h.declares⟩
  have hcopy {t : Text} (ht : Opens rest v.opening t) : Text.replaceAll old new t = t :=
    replaceAll_eq_self (not_infix_of_statement (ht.statement h.declares) hne hold hwords)
  have hstands := h.stands
  dsimp only
  generalize v.place = p at hstands
  cases hstands with
  | bare ht =>
      rw [hcopy ht]
      exact .bare ht
  | @laid g k place t hg hh hp ht =>
      have hfront : Text.replaceAll old new (g ++ (layoutWord ++ k)) = g ++ (layoutWord ++ k) := by
        refine replaceAll_eq_self fun hi => ?_
        have hk := endsWord_of_allBlank hh
        rcases infix_append_of_endsWord hold hk (infix_of_blank_append hne hold hg hi) with hi | hi
        · exact hlayout hi
        · have hnil := infix_of_blank_append (b := []) hne hold hh (by rwa [List.append_nil])
          exact hne (List.infix_nil.mp hnil)
      have hsplit : g ++ (layoutWord ++ (k ++ '(' :: (place ++ ')' :: t))) =
          (g ++ (layoutWord ++ k)) ++ '(' :: (place ++ ')' :: t) := by simp
      have hjoin : g ++ (layoutWord ++ (k ++ '(' :: (Text.replaceAll old new place ++ ')' :: t))) =
          (g ++ (layoutWord ++ k)) ++ '(' :: (Text.replaceAll old new place ++ ')' :: t) := by simp
      rw [hsplit, replaceAll_append_cons hne (hmark (by decide)),
        replaceAll_append_cons hne (hmark (by decide)), hfront, hcopy ht, ← hjoin]
      refine .laid hg hh (fun hm => ?_) ht
      exact ((patched_replaceAll hne new place).mem hm).elim hnew hp

end Replacements

end ShaderPipeline.Glsl
