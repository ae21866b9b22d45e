import ShaderPipeline.Proofs.Glsl.Declarators

namespace ShaderPipeline.Glsl

open Text

variable {a b t : Text} {c : Char}

section Marks

/-- The text neither ends a line nor has a part in the mark of a comment. -/
def Unmarked (t : Text) : Prop := ∀ c ∈ t, c ≠ '\n' ∧ c ≠ '/' ∧ c ≠ '*'

theorem Unmarked.append (ha : Unmarked a) (hb : Unmarked b) : Unmarked (a ++ b) :=
  List.forall_mem_append.mpr ⟨ha, hb⟩

theorem Unmarked.cons (hc : c ≠ '\n' ∧ c ≠ '/' ∧ c ≠ '*') (h : Unmarked t) : Unmarked (c :: t) :=
  List.forall_mem_cons.mpr ⟨hc, h⟩

theorem unmarked_word (h : ∀ c ∈ t, isWord c = true) : Unmarked t := by
  intro c hc
  have hne (d : Char) (hd : isWord d = false) : c ≠ d := by
    rintro rfl
    rw [h c hc] at hd
    cases hd
  exact ⟨hne '\n' (by decide), hne '/' (by decide), hne '*' (by decide)⟩

theorem Unmarked.not_newline (h : Unmarked t) : '\n' ∉ t := fun hm => (h _ hm).1 rfl

theorem Unmarked.live_append (ha : Unmarked a) (hb : Live b) : Live (a ++ b) := by
  have hslash : '/' ∉ a := fun hm => (ha _ hm).2.1 rfl
  have hno {m : Text} (h : ¬ '/' :: m <:+: b) : ¬ '/' :: m <:+: a ++ b := by
    rw [← cut?_eq_none_iff] at h ⊢
    rw [cut?_append hslash, h]
    rfl
  exact ⟨hno hb.line, hno hb.block⟩

theorem Live.append_unmarked (ha : Live a) (hb : Unmarked b) : Live (a ++ b) := by
  have hline : ∀ c ∈ b, c ∉ lineMark := fun c hc => by simp [lineMark, (hb c hc).2.1]
  have hopen : ∀ c ∈ b, c ∉ openMark := fun c hc => by
    simp [openMark, (hb c hc).2.1, (hb c hc).2.2]
  exact ⟨fun h => ha.line (infix_append_of_disjoint (by decide) hline h),
    fun h => ha.block (infix_append_of_disjoint (by decide) hopen h)⟩

end Marks

section Lines

structure Gap where
  text : Text
  blank : allBlank text = true
  inLine : '\n' ∉ text

structure Bound where
  front : Gap
  inside : Gap
  digits : Text
  numeral : isPlainNumeral digits = true
  behind : Gap

structure Initializer where
  front : Gap
  value : Text
  inLine : '\n' ∉ value
  plain : ']' ∉ value
  live : Live value

/-- A uniform on a line of its own. -/
structure UniformLine where
  front : Gap
  afterKeyword : Gap
  type : Text
  afterType : Gap
  name : Text
  bound : Option Bound
  initializer : Option Initializer
  beforeStop : Gap
  back : Gap
  keywordEnds : afterKeyword.text ≠ []
  typeWord : leadingWord? type = some (type, [])
  typeEnds : afterType.text ≠ []
  nameWord : leadingWord? name = some (name, [])

def Bound.text (b : Bound) : Text :=
  b.front.text ++ '[' :: (b.inside.text ++ (b.digits ++ (b.behind.text ++ [']'])))

def Bound.value (b : Bound) : Nat := Nat.ofDigitChars 10 b.digits 0

def Initializer.text (i : Initializer) : Text := i.front.text ++ '=' :: i.value

namespace UniformLine

variable (u : UniformLine)

def ending : Text :=
  (u.initializer.elim [] Initializer.text) ++ (u.beforeStop.text ++ ';' :: u.back.text)

def tail : Text := (u.bound.elim [] Bound.text) ++ u.ending

def afterWord : Text :=
  u.afterKeyword.text ++ (u.type ++ (u.afterType.text ++ (u.name ++ u.tail)))

def text : Text := u.front.text ++ (uniformWord ++ u.afterWord)

def opening : Text :=
  u.front.text ++ (uniformWord ++ (u.afterKeyword.text ++ (u.type ++ (u.afterType.text ++
    (u.name ++ u.bound.elim [] Bound.text)))))

def length : Except Fault Nat :=
  match u.bound with
  | some b => if b.behind.text = [] then readNumeral b.digits else .ok 0
  | none => .ok 0

end UniformLine

theorem Gap.unmarked (g : Gap) : Unmarked g.text := by
  intro c hc
  have hblank := allBlank_iff.mp g.blank c hc
  have hne (d : Char) (hd : isBlank d = false) : c ≠ d := by
    rintro rfl
    rw [hblank] at hd
    cases hd
  exact ⟨fun h => g.inLine (h ▸ hc), hne '/' (by decide), hne '*' (by decide)⟩

theorem Gap.separates {separates : Char → Bool} (hp : Parts separates) (g : Gap) :
    ∀ c ∈ g.text, separates c = true := fun c hc => hp.blank c (allBlank_iff.mp g.blank c hc)

theorem Gap.head?_append (g : Gap) (hc : endsUniform c = true) :
    ∀ d ∈ (g.text ++ c :: t).head?, endsUniform d = true :=
  parts_endsUniform.head?_append g.blank (separates_cons hc)

theorem Bound.unmarked (b : Bound) : Unmarked b.text :=
  b.front.unmarked.append (.cons (by decide) (b.inside.unmarked.append
    ((unmarked_word (isWord_of_isPlainNumeral b.numeral)).append
      (b.behind.unmarked.append (.cons (by decide) (by simp [Unmarked]))))))

namespace UniformLine

theorem unmarked_stop (u : UniformLine) : Unmarked (u.beforeStop.text ++ ';' :: u.back.text) :=
  u.beforeStop.unmarked.append (.cons (by decide) u.back.unmarked)

theorem live_ending (u : UniformLine) : Live u.ending := by
  have hstop := u.unmarked_stop
  rw [ending]
  cases u.initializer with
  | none => exact live_of_no_slash fun h => (hstop _ h).2.1 rfl
  | some i =>
      have hsplit : i.text ++ (u.beforeStop.text ++ ';' :: u.back.text) =
          (i.front.text ++ ['=']) ++ (i.value ++ (u.beforeStop.text ++ ';' :: u.back.text)) := by
        simp [Initializer.text]
      rw [Option.elim_some, hsplit]
      exact (i.front.unmarked.append (.cons (by decide) (by simp [Unmarked]))).live_append
        (i.live.append_unmarked hstop)

theorem newline_not_mem_ending (u : UniformLine) : '\n' ∉ u.ending := by
  have hstop := u.unmarked_stop.not_newline
  rw [ending, List.mem_append, not_or]
  refine ⟨?_, hstop⟩
  cases u.initializer with
  | none => exact List.not_mem_nil
  | some i =>
      have hfront := i.front.inLine
      have hvalue := i.inLine
      simp [Initializer.text, hfront, hvalue]

theorem unmarked_opening (u : UniformLine) : Unmarked u.opening := by
  have hbound : Unmarked (u.bound.elim [] Bound.text) := by
    cases u.bound with
    | none => simp [Unmarked]
    | some b => exact b.unmarked
  have hword {w : Text} (hw : leadingWord? w = some (w, [])) : Unmarked w :=
    unmarked_word (isWord_of_leadingWord? hw)
  exact u.front.unmarked.append ((hword (by decide)).append (u.afterKeyword.unmarked.append
    ((hword u.typeWord).append (u.afterType.unmarked.append ((hword u.nameWord).append hbound)))))

theorem text_eq (u : UniformLine) : u.text = u.opening ++ u.ending := by
  simp [text, opening, afterWord, tail]

theorem liveLines_text (u : UniformLine) : liveLines u.text = [trim u.text] := by
  have hlive : Live u.text := by
    rw [text_eq]
    exact u.unmarked_opening.live_append u.live_ending
  have hone : '\n' ∉ u.text := by
    rw [text_eq, List.mem_append, not_or]
    exact ⟨u.unmarked_opening.not_newline, u.newline_not_mem_ending⟩
  rw [liveLines_of_no_mark hlive.line hlive.block, lines,
    pieces_of_whole (whole_of_newline_not_mem hone)]
  rfl

theorem separates_head?_ending (u : UniformLine) : ∀ c ∈ u.ending.head?, endsUniform c = true := by
  rw [ending]
  cases u.initializer with
  | none => exact u.beforeStop.head?_append (by decide)
  | some i =>
      rw [Option.elim_some, Initializer.text, List.append_assoc]
      exact i.front.head?_append (by decide)

theorem separates_head?_tail (u : UniformLine) : ∀ c ∈ u.tail.head?, endsUniform c = true := by
  rw [tail]
  cases u.bound with
  | none => exact u.separates_head?_ending
  | some b =>
      rw [Option.elim_some, Bound.text, List.append_assoc]
      exact b.front.head?_append (by decide)

theorem bracket_not_mem_ending (u : UniformLine) : ']' ∉ u.ending := by
  have hgap (g : Gap) : ']' ∉ g.text := fun h => absurd (allBlank_iff.mp g.blank _ h) (by decide)
  have hstop := hgap u.beforeStop
  have hback := hgap u.back
  rw [ending]
  cases u.initializer with
  | none => simp [hstop, hback]
  | some i =>
      have hfront := hgap i.front
      have hvalue := i.plain
      simp [Initializer.text, hfront, hvalue, hstop, hback]

end UniformLine

theorem Bound.arrayLength (b : Bound) (ht : ∀ c ∈ t.head?, endsUniform c = true) :
    Glsl.arrayLength (tokens endsUniform (b.text ++ t)) =
      if b.behind.text = [] then readNumeral b.digits else .ok 0 := by
  have hword := isWord_of_isPlainNumeral b.numeral
  have hskip : tokens endsUniform (b.text ++ t) =
      tokens endsUniform (b.digits ++ (b.behind.text ++ ']' :: t)) := by
    have hsplit : b.text ++ t = b.front.text ++ '[' ::
        (b.inside.text ++ (b.digits ++ (b.behind.text ++ ']' :: t))) := by simp [Bound.text]
    rw [hsplit, tokens_of_separates_append (b.front.separates parts_endsUniform),
      tokens_cons (by decide), tokens_of_separates_append (b.inside.separates parts_endsUniform)]
  rw [hskip]
  cases hb : b.behind.text with
  | nil =>
      have hsplit : b.digits ++ ([] ++ ']' :: t) = (b.digits ++ [']']) ++ t := by simp
      rw [hsplit, tokens_token_append (token_closed b.numeral) ht, arrayLength_closed b.numeral,
        if_pos rfl]
  | cons d r =>
      have hd : endsUniform d = true :=
        b.behind.separates parts_endsUniform d (hb ▸ List.mem_cons_self)
      have hdigits : Token endsUniform b.digits :=
        ⟨ne_nil_of_isPlainNumeral b.numeral, fun c hc => parts_endsUniform.word c (hword c hc)⟩
      have hblank : ¬ d :: r = [] := List.cons_ne_nil d r
      rw [List.cons_append, tokens_append hdigits hd, if_neg hblank, Glsl.arrayLength]
      split
      · next hlast => exact absurd (hword _ (List.mem_of_getLast? hlast)) (by decide)
      · rfl

namespace UniformLine

theorem arrayLength_tail (u : UniformLine) : arrayLength (tokens endsUniform u.tail) = u.length := by
  rw [tail, length]
  cases u.bound with
  | none =>
      exact arrayLength_of_not_mem fun p hp hbracket =>
        u.bracket_not_mem_ending ((token_of_mem_tokens hp).2.subset hbracket)
  | some b => exact b.arrayLength u.separates_head?_ending

theorem declaration?_text (u : UniformLine) : declaration? (trim u.text) =
    u.length.map fun n => some (.uniform ⟨u.name, u.type, n⟩) := by
  have hgap (g : Gap) (hg : g.text ≠ []) (t : Text) : endsWord (g.text ++ t) = true := by
    obtain ⟨c, r, hr⟩ := List.exists_cons_of_ne_nil hg
    have hc := allBlank_iff.mp g.blank c (hr ▸ List.mem_cons_self)
    rw [hr]
    exact endsWord_cons (not_isWord_of_isBlank hc) _
  have hends : endsWord u.afterWord = true := hgap u.afterKeyword u.keywordEnds _
  have htrim : trim u.text = uniformWord ++ trimEnd u.afterWord := by
    rw [text, trim_of_blank_append u.front.blank, trim_append_of_trimmed (by decide) (by decide)]
  have hstart : startsWithWord uniformWord (uniformWord ++ trimEnd u.afterWord) = true :=
    startsWithWord_iff.mpr ⟨_, rfl, endsWord_trimEnd hends⟩
  have hhead := u.separates_head?_tail
  have htail : endsWord u.tail = true := parts_endsUniform.endsWord hhead
  have hopens : Opens u.tail [u.type, u.name] u.afterWord :=
    .word u.afterKeyword.blank u.typeWord (hgap u.afterType u.typeEnds _)
      (.word u.afterType.blank u.nameWord htail (.rest htail))
  have htokens : tokens endsUniform u.afterWord = [u.type, u.name] ++ tokens endsUniform u.tail :=
    hopens.tokens parts_endsUniform hhead
  rw [htrim, declaration?, if_pos hstart, uniform?, List.drop_left, tokens_trimEnd parts_endsUniform,
    htokens, List.cons_append, List.cons_append, List.nil_append]
  dsimp only
  rw [u.arrayLength_tail]
  cases u.length <;> rfl

theorem scan_text (u : UniformLine) :
    scan u.text = u.length.map fun n => { uniforms := [⟨u.name, u.type, n⟩] } := by
  rw [scan, u.liveLines_text, declarations_cons, u.declaration?_text]
  cases u.length <;> rfl

end UniformLine

/-- A uniform on a line of its own is read wherever blanks stand, with a length of zero if it has no
brackets. Between brackets, the length is read unless there is a blank behind it; then it is taken
for zero. -/
theorem scan_uniformLine (u : UniformLine) :
    (u.bound = none → scan u.text = .ok { uniforms := [⟨u.name, u.type, 0⟩] }) ∧
    ∀ b ∈ u.bound, b.digits.length ≤ numeralLimit →
      scan u.text =
        .ok { uniforms := [⟨u.name, u.type, if b.behind.text = [] then b.value else 0⟩] } ∧
      (scan u.text = .ok { uniforms := [⟨u.name, u.type, b.value⟩] } ↔
        b.behind.text = [] ∨ b.value = 0) := by
  have hscan := u.scan_text
  refine ⟨fun hn => ?_, fun b hb hlimit => ?_⟩
  · rw [hscan, UniformLine.length, hn]
    rfl
  · have hvalue : readNumeral b.digits = .ok b.value := by
      rw [readNumeral, if_pos hlimit, numeral, Bound.value, foldl_digits]
      exact fun c hc => List.all_eq_true.mp (Bool.and_eq_true_iff.mp b.numeral).2 c hc
    have hread : scan u.text =
        .ok { uniforms := [⟨u.name, u.type, if b.behind.text = [] then b.value else 0⟩] } := by
      rw [hscan, UniformLine.length, Option.mem_def.mp hb]
      dsimp only
      rw [hvalue]
      split <;> rfl
    refine ⟨hread, ?_⟩
    rw [hread]
    by_cases hbehind : b.behind.text = []
    · simp [hbehind]
    · simp [hbehind, eq_comm]

def Gap.none : Gap := ⟨[], rfl, List.not_mem_nil⟩

def Gap.space : Gap := ⟨[' '], by decide, by decide⟩

/-- An array that is spaced out as far as it may be. -/
def spacedOut : UniformLine where
  front := ⟨"  ".toList, by decide, by decide⟩
  afterKeyword := .space
  type := "vec4".toList
  afterType := ⟨" \t".toList, by decide, by decide⟩
  name := "lights".toList
  bound := some ⟨.space, ⟨"\t ".toList, by decide, by decide⟩, "012".toList, by decide, .none⟩
  initializer := some ⟨.none, " make()".toList, by decide, by decide, ⟨by decide, by decide⟩⟩
  beforeStop := .space
  back := .space
  keywordEnds := by decide
  typeWord := by decide
  typeEnds := by decide
  nameWord := by decide

theorem scan_spacedOut :
    spacedOut.text = "  uniform vec4 \tlights [\t 012]= make() ; ".toList ∧
    scan spacedOut.text = .ok { uniforms := [⟨"lights".toList, "vec4".toList, 12⟩] } ∧
    { spacedOut with bound := none }.text = "  uniform vec4 \tlights= make() ; ".toList ∧
    scan { spacedOut with bound := none }.text =
      .ok { uniforms := [⟨"lights".toList, "vec4".toList, 0⟩] } :=
  ⟨by decide, ((scan_uniformLine spacedOut).2 _ rfl (by decide)).2.mpr (.inl rfl), by decide,
    (scan_uniformLine { spacedOut with bound := none }).1 rfl⟩

def arrayOf (digits : Text) (h : isPlainNumeral digits = true) (behind : Gap) : UniformLine where
  front := .none
  afterKeyword := .space
  type := "float".toList
  afterType := .space
  name := "a".toList
  bound := some ⟨.none, .none, digits, h, behind⟩
  initializer := none
  beforeStop := .none
  back := .none
  keywordEnds := by decide
  typeWord := by decide
  typeEnds := by decide
  nameWord := by decide

theorem text_arrayOf {digits : Text} (h : isPlainNumeral digits = true) (behind : Gap) :
    (arrayOf digits h behind).text =
      "uniform float a[".toList ++ (digits ++ (behind.text ++ "];".toList)) := by
  have htail : (arrayOf digits h behind).tail = '[' :: (digits ++ (behind.text ++ "];".toList)) := by
    have hbracket : (arrayOf digits h behind).tail =
        '[' :: (digits ++ (behind.text ++ [']'])) ++ [';'] := rfl
    rw [hbracket, List.cons_append, List.append_assoc, List.append_assoc]
    rfl
  have hfront : (arrayOf digits h behind).text =
      uniformWord ++ ([' '] ++ ("float".toList ++ ([' '] ++ ("a".toList ++
        (arrayOf digits h behind).tail)))) := rfl
  rw [hfront, htail]
  rfl

theorem scan_tooLong {digits : Text} (h : isPlainNumeral digits = true)
    (hlong : numeralLimit < digits.length) :
    scan ("uniform float a[".toList ++ (digits ++ "];".toList)) =
      .error (.numeralTooLong digits.length) := by
  have hread : readNumeral digits = .error (.numeralTooLong digits.length) := by
    rw [readNumeral, if_neg (Nat.not_le.mpr hlong)]
  have htext := text_arrayOf h .none
  have hlength : (arrayOf digits h .none).length = readNumeral digits := rfl
  have hscan := (arrayOf digits h .none).scan_text
  rw [hlength, hread, htext] at hscan
  exact hscan

theorem scan_partedArray :
    (arrayOf "4".toList (by decide) .space).text = "uniform float a[4 ];".toList ∧
    (arrayOf "4".toList (by decide) .space).bound.map Bound.value = some 4 ∧
    scan "uniform float a[4 ];".toList = .ok { uniforms := [⟨"a".toList, "float".toList, 0⟩] } := by
  decide +kernel

end Lines

end ShaderPipeline.Glsl
