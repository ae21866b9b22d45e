import ShaderPipeline.Proofs.Glsl.Reading
import ShaderPipeline.Proofs.Text.Numerals

namespace ShaderPipeline.Glsl

open Text

variable {separates : Char → Bool} {g l t w place : Text} {ws : List Text}

section Tokens

theorem tokens_of_separates_append (hg : ∀ c ∈ g, separates c = true) (t : Text) :
    tokens separates (g ++ t) = tokens separates t := by
  induction g with
  | nil => rfl
  | cons c g ih =>
      rw [List.cons_append, tokens_cons (hg c List.mem_cons_self)]
      exact ih fun d hd => hg d (List.mem_cons_of_mem c hd)

/-- Words stand apart, for blanks and semicolons separate them and nothing in a word does. -/
structure Parts (separates : Char → Bool) : Prop where
  blank : ∀ c, isBlank c = true → separates c = true
  semicolon : separates ';' = true
  word : ∀ c, isWord c = true → separates c = false

theorem parts_endsDeclaration : Parts endsDeclaration := by
  refine ⟨fun c hc => by simp [endsDeclaration, hc], by decide, fun c hc => ?_⟩
  rw [endsDeclaration, Bool.or_eq_false_iff]
  constructor
  · by_contra hb
    rw [not_isWord_of_isBlank (by simpa using hb)] at hc
    cases hc
  · rw [beq_eq_false_iff_ne]
    rintro rfl
    exact absurd hc (by decide)

theorem Parts.or (h : Parts separates) {d : Char} (hd : isWord d = false) :
    Parts fun c => separates c || c == d := by
  refine ⟨fun c hc => ?_, ?_, fun c hc => ?_⟩
  · rw [h.blank c hc, Bool.true_or]
  · rw [h.semicolon, Bool.true_or]
  · have hne : (c == d) = false := by
      rw [beq_eq_false_iff_ne]
      rintro rfl
      rw [hd] at hc
      cases hc
    rw [h.word c hc, hne, Bool.or_false]

theorem parts_endsUniform : Parts endsUniform :=
  (parts_endsDeclaration.or (d := '=') (by decide)).or (d := '[') (by decide)

theorem parts_endsName : Parts endsName :=
  ((parts_endsDeclaration.or (d := ',') (by decide)).or (d := '=') (by decide)).or (d := '[')
    (by decide)

theorem separates_cons {c : Char} (hc : separates c = true) :
    ∀ d ∈ (c :: t).head?, separates d = true := fun _ hd => Option.mem_some.mp hd ▸ hc

theorem Parts.head?_append (hp : Parts separates) (hg : allBlank g = true)
    (ht : ∀ c ∈ t.head?, separates c = true) : ∀ c ∈ (g ++ t).head?, separates c = true := by
  intro c hc
  cases g with
  | nil => exact ht c hc
  | cons d g =>
      obtain rfl : d = c := by simpa using hc
      exact hp.blank d (allBlank_iff.mp hg d List.mem_cons_self)

theorem Parts.endsWord (hp : Parts separates) (ht : ∀ c ∈ t.head?, separates c = true) :
    endsWord t = true := by
  cases t with
  | nil => rfl
  | cons c t =>
      refine endsWord_cons ?_ t
      by_contra hc
      have hno := hp.word c (by simpa using hc)
      rw [ht c rfl] at hno
      cases hno

theorem tokens_trimEnd (hp : Parts separates) (t : Text) :
    tokens separates (trimEnd t) = tokens separates t := by
  obtain ⟨tail, htail, ht⟩ := exists_trimEnd t
  conv_rhs => rw [ht]
  exact (tokens_append_of_separates (fun c hc => hp.blank c (allBlank_iff.mp htail c hc)) _).symm

end Tokens

section Lengths

theorem token_closed (h : isPlainNumeral t = true) : Token endsUniform (t ++ [']']) := by
  refine ⟨by simp, fun c hc => ?_⟩
  rcases List.mem_append.mp hc with hc | hc
  · exact parts_endsUniform.word c (isWord_of_isPlainNumeral h c hc)
  · rw [List.mem_singleton.mp hc]
    decide

theorem arrayLength_closed (h : isPlainNumeral t = true) (ps : List Text) :
    arrayLength ((t ++ [']']) :: ps) = readNumeral t := by
  have hlast : (t ++ [']']).getLast? = some ']' := by simp
  have htrim : trim t = t := trim_of_no_blank fun c hc => by
    by_contra hblank
    have hword := isWord_of_isPlainNumeral h c hc
    rw [not_isWord_of_isBlank (by simpa using hblank)] at hword
    cases hword
  rw [arrayLength, hlast, List.dropLast_concat, htrim, if_pos h]
  rfl

theorem arrayLength_of_not_mem {ps : List Text} (h : ∀ p ∈ ps, ']' ∉ p) : arrayLength ps = .ok 0 := by
  cases ps with
  | nil => rfl
  | cons p ps =>
      rw [arrayLength]
      split
      · next hlast => exact absurd (List.mem_of_getLast? hlast) (h p List.mem_cons_self)
      · rfl

end Lengths

section Statements

/-- The text is the words, one after the other, and a semicolon. -/
inductive Statement : List Text → Text → Prop
  | stop {g z : Text} (hg : allBlank g = true) (hz : allBlank z = true) :
      Statement [] (g ++ ';' :: z)
  | word {g w t : Text} {ws : List Text} (hg : allBlank g = true)
      (hw : leadingWord? w = some (w, [])) (ht : endsWord t = true) (hs : Statement ws t) :
      Statement (w :: ws) (g ++ (w ++ t))

theorem isWord_of_leadingWord? (hw : leadingWord? w = some (w, [])) : ∀ c ∈ w, isWord c = true := by
  obtain ⟨_, _, hall⟩ := leadingWord?_eq_some hw
  exact List.all_eq_true.mp hall

theorem ne_nil_of_leadingWord? (hw : leadingWord? w = some (w, [])) : w ≠ [] := by
  rintro rfl
  cases hw

theorem Parts.token (h : Parts separates) (hw : leadingWord? w = some (w, [])) :
    Token separates w :=
  ⟨ne_nil_of_leadingWord? hw, fun c hc => h.word c (isWord_of_leadingWord? hw c hc)⟩

theorem not_allBlank_word (hw : leadingWord? w = some (w, [])) : allBlank (g ++ (w ++ t)) = false := by
  rw [← Bool.not_eq_true, allBlank_iff]
  intro hall
  obtain ⟨c, w', rfl⟩ := List.exists_cons_of_ne_nil (ne_nil_of_leadingWord? hw)
  have hc := isWord_of_leadingWord? hw c List.mem_cons_self
  rw [not_isWord_of_isBlank (hall c (by simp))] at hc
  cases hc

theorem separates_head? (hp : Parts separates) (hg : allBlank g = true)
    (hw : leadingWord? w = some (w, [])) (he : endsWord (g ++ (w ++ t)) = true) :
    ∀ c ∈ (g ++ (w ++ t)).head?, separates c = true := by
  intro c hc
  cases g with
  | nil =>
      obtain ⟨d, w', rfl⟩ := List.exists_cons_of_ne_nil (ne_nil_of_leadingWord? hw)
      have hd := isWord_of_leadingWord? hw d List.mem_cons_self
      rw [List.nil_append, List.cons_append, endsWord, hd] at he
      cases he
  | cons d g =>
      obtain rfl : d = c := by simpa using hc
      exact hp.blank d (allBlank_iff.mp hg d List.mem_cons_self)

theorem Statement.exists_cons (h : Statement ws t) (hp : Parts separates)
    (ht : endsWord t = true) : ∃ c rest, t = c :: rest ∧ separates c = true := by
  have hhead : ∀ c ∈ t.head?, separates c = true := by
    cases h with
    | stop hg _ => exact hp.head?_append hg (separates_cons hp.semicolon)
    | word hg hw _ _ => exact separates_head? hp hg hw ht
  have hne : t ≠ [] := by
    cases h with
    | stop => simp
    | word _ hw _ _ => simp [ne_nil_of_leadingWord? hw]
  obtain ⟨c, rest, rfl⟩ := List.exists_cons_of_ne_nil hne
  exact ⟨c, rest, rfl, hhead c rfl⟩

theorem Statement.tokens (h : Statement ws t) (hp : Parts separates) :
    tokens separates t = ws := by
  induction h with
  | @stop g z hg hz =>
      rw [tokens_of_separates_append fun c hc => hp.blank c (allBlank_iff.mp hg c hc),
        tokens_cons hp.semicolon]
      exact tokens_append_of_separates (fun c hc => hp.blank c (allBlank_iff.mp hz c hc)) []
  | @word g w t ws hg hw ht hs ih =>
      obtain ⟨c, rest, rfl, hc⟩ := hs.exists_cons hp ht
      rw [tokens_of_separates_append fun c hc => hp.blank c (allBlank_iff.mp hg c hc),
        tokens_append (hp.token hw) hc, ← ih, tokens_cons hc]

theorem Statement.not_allBlank (h : Statement ws t) : allBlank t = false := by
  cases h with
  | stop =>
      rw [← Bool.not_eq_true, allBlank_iff]
      exact fun hall => absurd (hall ';' (by simp)) (by decide)
  | word _ hw => exact not_allBlank_word hw

theorem Statement.blank_append (hg : allBlank g = true) (h : Statement ws t) :
    Statement ws (g ++ t) := by
  have hblank {a : Text} (ha : allBlank a = true) : allBlank (g ++ a) = true := by
    rw [allBlank, List.all_append, Bool.and_eq_true]
    exact ⟨hg, ha⟩
  cases h with
  | stop ha hz =>
      rw [← List.append_assoc]
      exact .stop (hblank ha) hz
  | word ha hw ht hs =>
      rw [← List.append_assoc]
      exact .word (hblank ha) hw ht hs

def spelled : List Text → Text
  | [] => [';']
  | [w] => w ++ [';']
  | w :: ws => w ++ ' ' :: spelled ws

theorem statement_spelled (ws : List Text) (h : ∀ w ∈ ws, leadingWord? w = some (w, [])) :
    Statement ws (spelled ws) := by
  have hstop : Statement [] [';'] := .stop (g := []) (z := []) rfl rfl
  induction ws with
  | nil => exact hstop
  | cons w ws ih =>
      have hw := h w List.mem_cons_self
      cases ws with
      | nil => exact .word (g := []) rfl hw (endsWord_cons (by decide) _) hstop
      | cons v ws =>
          have hrest := ih fun x hx => h x (List.mem_cons_of_mem w hx)
          exact .word (g := []) rfl hw (endsWord_cons (by decide) _)
            (hrest.blank_append (g := [' ']) (by decide))

theorem Statement.trimEnd (h : Statement ws t) : Statement ws (trimEnd t) := by
  induction h with
  | @stop g z hg hz =>
      have hsemicolon : Text.trimEnd (';' :: z) = [';'] :=
        (trimEnd_append_of_blank (a := [';']) hz).trans rfl
      rw [trimEnd_append (by rw [allBlank, List.all_cons]; rfl), hsemicolon]
      exact .stop hg rfl
  | @word g w t ws hg hw ht hs ih =>
      rw [← List.append_assoc, trimEnd_append hs.not_allBlank, List.append_assoc]
      exact .word hg hw (endsWord_trimEnd ht) ih

theorem Statement.trim (h : Statement (w :: ws) l) :
    ∃ t, trim l = w ++ t ∧ endsWord t = true ∧ Statement ws t := by
  cases h with
  | @word g _ t _ hg hw ht hs =>
      have hword : Text.trim w = w := trim_of_no_blank fun c hc => by
        by_contra hb
        have := isWord_of_leadingWord? hw c hc
        rw [not_isWord_of_isBlank (by simpa using hb)] at this
        cases this
      refine ⟨Text.trimEnd t, ?_, endsWord_trimEnd ht, hs.trimEnd⟩
      rw [trim_of_blank_append hg, trim_append_of_trimmed hword (ne_nil_of_leadingWord? hw)]

end Statements

section Layouts

theorem trim_layout {inside : Text} (hg : allBlank g = true) (ht : allBlank t = false) :
    trim (g ++ (layoutWord ++ (inside ++ ')' :: t))) =
      layoutWord ++ (inside ++ ')' :: trimEnd t) := by
  have hsplit (u : Text) : inside ++ ')' :: u = inside ++ [')'] ++ u := by simp
  rw [trim_of_blank_append hg, trim_append_of_trimmed (by decide) (by decide), hsplit,
    trimEnd_append ht, ← hsplit]

inductive Laid (place : Text) (ws : List Text) : Text → Prop
  | intro {g h t : Text} (hg : allBlank g = true) (hh : allBlank h = true) (hp : ')' ∉ place)
      (hs : Statement ws t) : Laid place ws (g ++ (layoutWord ++ (h ++ '(' :: (place ++ ')' :: t))))

theorem Laid.trim (h : Laid place ws l) : ∃ g t, allBlank g = true ∧ ')' ∉ place ∧
    Statement ws t ∧ trim l = layoutWord ++ (g ++ '(' :: (place ++ ')' :: t)) := by
  cases h with
  | @intro g h t hg hh hp hs =>
      refine ⟨h, Text.trimEnd t, hh, hp, hs.trimEnd, ?_⟩
      have hsplit (u : Text) : h ++ '(' :: (place ++ ')' :: u) = h ++ '(' :: place ++ ')' :: u := by
        simp
      rw [hsplit, trim_layout hg hs.not_allBlank, hsplit]

def location? (place : Text) : Option Text :=
  (cut? ['='] place).bind fun (_, value) =>
    if isPlainNumeral (trim value) then some (trim value) else none

theorem idxOf?_append_cons {c : Char} (h : c ∉ g) (t : Text) :
    (g ++ c :: t).idxOf? c = some g.length := by
  have hg : List.findIdx? (fun x => x == c) g = none := List.idxOf?_eq_none_iff.mpr h
  rw [List.idxOf?, List.findIdx?_append, hg, List.findIdx?_cons]
  simp

theorem le_of_idxOf?_append {c : Char} (h : c ∉ g) {t : Text} {i : Nat}
    (hi : (g ++ t).idxOf? c = some i) : g.length ≤ i := by
  have hg : List.findIdx? (fun x => x == c) g = none := List.idxOf?_eq_none_iff.mpr h
  rw [List.idxOf?, List.findIdx?_append, hg, Option.none_or] at hi
  obtain ⟨j, _, rfl⟩ := Option.map_eq_some_iff.mp hi
  omega

theorem located?_of_no_equals (hp : ')' ∉ g) (he : '=' ∉ g) (t : Text) :
    located? (g ++ ')' :: t) = .ok none := by
  rw [located?, idxOf?_append_cons hp]
  cases hi : (g ++ ')' :: t).idxOf? '=' with
  | none => rfl
  | some equals =>
      have hle := le_of_idxOf?_append he hi
      exact if_neg fun h => by omega

theorem located?_of_equals {value : Text} (hp : ')' ∉ g ++ '=' :: value) (he : '=' ∉ g)
    (hg : layoutWord.length < g.length) (t : Text) :
    located? (g ++ '=' :: value ++ ')' :: t) =
      if isPlainNumeral (trim value) then
        match inputTokens? (tokens endsDeclaration t) with
        | some (type, name) => (readNumeral (trim value)).map fun n => some ⟨name, type, some n⟩
        | none => .ok none
      else .ok none := by
  have hequals : (g ++ '=' :: value ++ ')' :: t).idxOf? '=' = some g.length := by
    rw [List.append_assoc]
    exact idxOf?_append_cons he _
  have hvalue : (g ++ '=' :: value).drop (g.length + 1) = value := by
    rw [List.drop_append]
    simp
  have hrest : (g ++ '=' :: value ++ ')' :: t).drop ((g ++ '=' :: value).length + 1) = t := by
    rw [List.drop_append]
    simp
  have hbounds : g.length < (g ++ '=' :: value).length := by simp
  rw [located?, idxOf?_append_cons hp, hequals]
  dsimp only
  rw [List.take_left, hvalue, hrest]
  by_cases hn : isPlainNumeral (trim value) = true
  · rw [if_pos ⟨hg, hbounds, hn⟩, if_pos hn]
    cases inputTokens? (tokens endsDeclaration t) with
    | none => rfl
    | some p =>
        dsimp only
        cases readNumeral (trim value) <;> rfl
  · rw [if_neg fun h => hn h.2.2, if_neg hn]

theorem located?_laid (hg : allBlank g = true) (hp : ')' ∉ place) (t : Text) :
    located? (layoutWord ++ (g ++ '(' :: (place ++ ')' :: t))) =
      match location? place, inputTokens? (tokens endsDeclaration t) with
      | some digits, some (type, name) =>
        (readNumeral digits).map fun n => some ⟨name, type, some n⟩
      | _, _ => .ok none := by
  have hahead {c : Char} {x : Text} (hc : isBlank c = false) (hl : c ∉ layoutWord ++ ['('])
      (hx : c ∉ x) : c ∉ layoutWord ++ (g ++ '(' :: x) := by
    have hblank : c ∉ g := by
      intro h
      rw [allBlank_iff.mp hg c h] at hc
      cases hc
    simp only [List.mem_append, List.mem_cons, List.not_mem_nil, or_false] at hl ⊢
    tauto
  have hline : layoutWord ++ (g ++ '(' :: (place ++ ')' :: t)) =
      (layoutWord ++ (g ++ '(' :: place)) ++ ')' :: t := by simp
  rw [hline]
  have hclosing := hahead (c := ')') (by decide) (by decide) hp
  cases hc : cut? ['='] place with
  | none =>
      have hno : '=' ∉ place := by
        rw [← List.singleton_infix_iff]
        exact cut?_eq_none_iff.mp hc
      rw [location?, hc, located?_of_no_equals hclosing (hahead (by decide) (by decide) hno)]
      rfl
  | some p =>
      obtain ⟨x, y⟩ := p
      have hx : '=' ∉ x := by
        have hfirst := not_infix_of_cut? (by decide) hc
        rw [List.dropLast_singleton, List.append_nil, List.singleton_infix_iff] at hfirst
        exact hfirst
      have hsplit : layoutWord ++ (g ++ '(' :: place) =
          (layoutWord ++ (g ++ '(' :: x)) ++ '=' :: y := by
        simp [eq_append_of_cut? hc]
      have hlong : layoutWord.length < (layoutWord ++ (g ++ '(' :: x)).length := by
        simp only [List.length_append, List.length_cons]
        omega
      rw [hsplit] at hclosing ⊢
      rw [located?_of_equals hclosing (hahead (by decide) (by decide) hx) hlong, location?, hc,
        Option.bind_some]
      dsimp only
      by_cases hn : isPlainNumeral (trim y) = true
      · rw [if_pos hn, if_pos hn]
        cases inputTokens? (tokens endsDeclaration t) <;> rfl
      · rw [if_neg hn, if_neg hn]

theorem declaration?_laid (hg : allBlank g = true) (hp : ')' ∉ place) (t : Text) :
    declaration? (layoutWord ++ (g ++ '(' :: (place ++ ')' :: t))) =
      match location? place, inputTokens? (tokens endsDeclaration t) with
      | some digits, some (type, name) =>
        (readNumeral digits).map fun n => some (.attribute ⟨name, type, some n⟩)
      | _, _ => .ok none := by
  have hstart : startsWithWord layoutWord (layoutWord ++ (g ++ '(' :: (place ++ ')' :: t))) = true :=
    startsWithWord_iff.mpr ⟨_, rfl, endsWord_of_blank_append hg (endsWord_cons (by decide) _)⟩
  have huniform : startsWithWord uniformWord
      (layoutWord ++ (g ++ '(' :: (place ++ ')' :: t))) = false := rfl
  rw [declaration?, if_neg (by simp [huniform]), if_pos hstart, located?_laid hg hp]
  cases location? place with
  | none => rfl
  | some digits =>
      cases inputTokens? (tokens endsDeclaration t) with
      | none => rfl
      | some p =>
          dsimp only
          cases readNumeral digits <;> rfl

end Layouts

section Variables

structure Identifier (w : Text) : Prop where
  word : leadingWord? w = some (w, [])
  notInput : w ≠ inWord
  notPrecision : w ∉ precisionWords

instance (w : Text) : Decidable (Identifier w) :=
  decidable_of_iff (leadingWord? w = some (w, []) ∧ w ≠ inWord ∧ w ∉ precisionWords)
    ⟨fun ⟨hw, hi, hp⟩ => ⟨hw, hi, hp⟩, fun h => ⟨h.word, h.notInput, h.notPrecision⟩⟩

/-- How a variable of the interface is declared, with or without a layout. -/
inductive Form where
  | plainUniform
  | plainAttribute
  | laidUniform (place : Text)
  | laidInput (place : Text)
  deriving DecidableEq, Repr

structure Variable where
  form : Form
  precision : Option Text := none
  type : Text
  name : Text
  deriving DecidableEq, Repr

namespace Variable

def words (v : Variable) : List Text := v.precision.toList ++ [v.type, v.name]

/-- The line is a declaration of the variable. -/
structure On (v : Variable) (l : Text) : Prop where
  precision : ∀ p ∈ v.precision, p ∈ precisionWords
  type : Identifier v.type
  name : Identifier v.name
  stands : match v.form with
    | .plainUniform => Statement (uniformWord :: v.words) l
    | .plainAttribute => Statement (attributeWord :: v.words) l
    | .laidUniform place => Laid place (uniformWord :: v.words) l
    | .laidInput place => Laid place (inWord :: v.words) l

def taken (v : Variable) : Text × Text :=
  match v.precision with
  | none => (v.type, v.name)
  | some precision => (precision, v.type)

def reading (v : Variable) : Except Fault (Option Declaration) :=
  match v.form with
  | .plainUniform => .ok (some (.uniform ⟨v.taken.2, v.taken.1, 0⟩))
  | .plainAttribute => .ok (some (.attribute ⟨v.taken.2, v.taken.1, none⟩))
  | .laidUniform _ => .ok none
  | .laidInput place =>
    match location? place with
    | some digits =>
      (readNumeral digits).map fun n => some (.attribute ⟨v.taken.2, v.taken.1, some n⟩)
    | none => .ok none

variable {v : Variable}

theorem exists_words (v : Variable) : ∃ more, v.words = v.taken.1 :: v.taken.2 :: more ∧
    (more = [] ∨ more = [v.name]) := by
  obtain ⟨form, precision, type, name⟩ := v
  cases precision with
  | none => exact ⟨[], rfl, .inl rfl⟩
  | some precision => exact ⟨[name], rfl, .inr rfl⟩

theorem On.inWord_not_mem (h : v.On l) : inWord ∉ v.words := by
  obtain ⟨form, precision, type, name⟩ := v
  have hprecision : ∀ p ∈ precision, p ≠ inWord := fun p hp he => by
    exact absurd (he ▸ h.precision p hp) (by decide)
  simp only [words, List.mem_append, Option.mem_toList, List.mem_cons, List.not_mem_nil, or_false]
  rintro (hp | hp | hp)
  · exact hprecision inWord hp rfl
  · exact h.type.notInput hp.symm
  · exact h.name.notInput hp.symm

theorem On.arrayLength_more (h : v.On l) {more : List Text} (hm : more = [] ∨ more = [v.name]) :
    arrayLength more = .ok 0 := by
  refine arrayLength_of_not_mem fun p hp hbracket => ?_
  rcases hm with rfl | rfl
  · cases hp
  · rw [List.mem_singleton.mp hp] at hbracket
    exact absurd (isWord_of_leadingWord? h.name.word _ hbracket) (by decide)

theorem inputTokens?_laid (h : v.On l) {w : Text} : inputTokens? (w :: v.words) =
    if w = inWord then some v.taken else none := by
  obtain ⟨more, hwords, _⟩ := v.exists_words
  rw [inputTokens?]
  by_cases hw : w = inWord
  · rw [if_pos hw, List.dropWhile_cons_of_neg (by simp [hw]), hwords]
  · have hall : ∀ x ∈ w :: v.words, (x != inWord) = true := by
      intro x hx
      rw [bne_iff_ne]
      rcases List.mem_cons.mp hx with rfl | hx
      · exact hw
      · rintro rfl
        exact h.inWord_not_mem hx
    rw [if_neg hw, List.dropWhile_eq_nil_iff.mpr hall]

theorem On.declaration?_trim (h : v.On l) : declaration? (trim l) = v.reading := by
  obtain ⟨more, hwords, hmore⟩ := v.exists_words
  have hstands := h.stands
  rw [reading]
  cases hf : v.form with
  | plainUniform =>
      rw [hf] at hstands
      obtain ⟨t, htrim, hends, hs⟩ := hstands.trim
      have hstart : startsWithWord uniformWord (uniformWord ++ t) = true :=
        startsWithWord_iff.mpr ⟨t, rfl, hends⟩
      rw [htrim, declaration?, if_pos hstart, uniform?, List.drop_left,
        hs.tokens parts_endsUniform, hwords]
      dsimp only
      rw [h.arrayLength_more hmore]
      rfl
  | plainAttribute =>
      rw [hf] at hstands
      obtain ⟨t, htrim, hends, hs⟩ := hstands.trim
      have hstart : startsWithWord attributeWord (attributeWord ++ t) = true :=
        startsWithWord_iff.mpr ⟨t, rfl, hends⟩
      have huniform : startsWithWord uniformWord (attributeWord ++ t) = false := rfl
      have hlayout : startsWithWord layoutWord (attributeWord ++ t) = false := rfl
      rw [htrim, declaration?, if_neg (by simp [huniform]), if_neg (by simp [hlayout]),
        if_pos hstart, attribute?, List.drop_left, hs.tokens parts_endsDeclaration, hwords]
      rfl
  | laidUniform place =>
      rw [hf] at hstands
      obtain ⟨g, t, hg, hp, hs, htrim⟩ := hstands.trim
      have hnone : inputTokens? (uniformWord :: v.words) = none := by
        rw [inputTokens?_laid h, if_neg (by decide)]
      rw [htrim, declaration?_laid hg hp, hs.tokens parts_endsDeclaration, hnone]
      cases location? place <;> rfl
  | laidInput place =>
      rw [hf] at hstands
      obtain ⟨g, t, hg, hp, hs, htrim⟩ := hstands.trim
      have hsome : inputTokens? (inWord :: v.words) = some v.taken := by
        rw [inputTokens?_laid h, if_pos rfl]
      rw [htrim, declaration?_laid hg hp, hs.tokens parts_endsDeclaration, hsome]
      dsimp only
      cases location? place <;> rfl

end Variable

end Variables

end ShaderPipeline.Glsl
