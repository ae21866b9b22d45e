import ShaderPipeline.Diagnostic
import ShaderPipeline.Proofs.Text.Trim

namespace ShaderPipeline

open Text

variable {m t d file line gap rest more : Text} {c : Char}

def Digits (t : Text) : Prop := t ≠ [] ∧ t.all isDigit = true

/-- `0(12)`, blanks in front. -/
inductive Bracketed : (message line : Text) → Prop
  | intro {indent file line rest : Text} (hi : allBlank indent = true) (hf : Digits file)
      (hl : Digits line) : Bracketed (indent ++ (file ++ '(' :: (line ++ ')' :: rest))) line

/-- `ERROR: 0:12:`, `0:12(`, and the like: neither the severity nor a colon behind it need be
there. -/
inductive Coloned : (message line : Text) → Prop
  | intro {indent severity colon gap file line rest : Text} {mark : Char}
      (hi : allBlank indent = true) (hs : severity = [] ∨ severity ∈ severityWords)
      (hc : colon = [] ∨ colon = [':']) (hg : allBlank gap = true) (hf : Digits file)
      (hl : Digits line) (hm : mark = ':' ∨ mark = '(') :
      Coloned (indent ++ (severity ++ (colon ++ (gap ++ (file ++ ':' :: (line ++ mark :: rest))))))
        line

section Digits

theorem not_isBlank_of_isDigit (h : isDigit c = true) : isBlank c = false := by
  rw [← Bool.not_eq_true]
  intro hb
  have hall : (codePoints blankRanges).all (fun n => !inRanges digitRanges n) = true := by
    decide +kernel
  have hn : (!isDigit c) = true := of_isBlank hall hb
  rw [h] at hn
  cases hn

theorem Digits.exists_cons (h : Digits t) : ∃ c r, t = c :: r ∧ isDigit c = true := by
  obtain ⟨c, r, rfl⟩ := List.exists_cons_of_ne_nil h.1
  exact ⟨c, r, rfl, List.all_eq_true.mp h.2 c List.mem_cons_self⟩

theorem Digits.trimStart (h : Digits d) (t : Text) : trimStart (d ++ t) = d ++ t := by
  obtain ⟨c, r, rfl, hc⟩ := h.exists_cons
  exact trimStart_cons (not_isBlank_of_isDigit hc)

theorem Digits.leadingDigits? (h : Digits d) (hc : isDigit c = false) (t : Text) :
    leadingDigits? (d ++ c :: t) = some (d, c :: t) := by
  have hd := List.all_eq_true.mp h.2
  have hstop : ¬ isDigit c = true := by rw [hc]; exact Bool.false_ne_true
  rw [ShaderPipeline.leadingDigits?, List.takeWhile_append_of_pos hd,
    List.dropWhile_append_of_pos hd, List.takeWhile_cons_of_neg hstop,
    List.dropWhile_cons_of_neg hstop, List.append_nil]
  split
  case h_1 => exact absurd rfl h.1
  case h_2 => rfl

theorem leadingDigits?_eq_some (h : leadingDigits? t = some (d, rest)) :
    t = d ++ rest ∧ Digits d := by
  rw [leadingDigits?] at h
  split at h
  case h_1 => cases h
  case h_2 hne =>
      obtain ⟨rfl, rfl⟩ := Prod.mk.inj (Option.some.inj h)
      exact ⟨List.takeWhile_append_dropWhile.symm, hne, List.all_takeWhile⟩

end Digits

section Brackets

theorem Bracketed.eq (h : Bracketed m line) : bracketedLine? m = some line := by
  cases h with
  | @intro indent file line rest hi hf hl =>
      have hopen := hf.leadingDigits? (c := '(') (by decide) (line ++ ')' :: rest)
      have hclose := hl.leadingDigits? (c := ')') (by decide) rest
      rw [bracketedLine?, trimStart_append_of_blank hi, hf.trimStart, hopen]
      simp [after?, hclose]

theorem bracketed_of_eq (h : bracketedLine? m = some line) : Bracketed m line := by
  rw [bracketedLine?] at h
  obtain ⟨⟨file, r⟩, hfile, h⟩ := Option.bind_eq_some_iff.mp h
  obtain ⟨s, hopen, h⟩ := Option.bind_eq_some_iff.mp h
  obtain ⟨⟨l, r'⟩, hline, h⟩ := Option.bind_eq_some_iff.mp h
  obtain ⟨rest, hclose, h⟩ := Option.bind_eq_some_iff.mp h
  obtain rfl := Option.some.inj h
  obtain ⟨indent, hi, hm⟩ := exists_trimStart m
  rw [hm, (leadingDigits?_eq_some hfile).1, after?_eq_some_iff.mp hopen,
    (leadingDigits?_eq_some hline).1, after?_eq_some_iff.mp hclose]
  exact .intro hi (leadingDigits?_eq_some hfile).2 (leadingDigits?_eq_some hline).2

end Brackets

section Colons

theorem skipSeverity_word {word : Text} (hw : word ∈ severityWords) (t : Text) :
    skipSeverity (word ++ t) = t := by
  simp only [severityWords, List.mem_cons, List.not_mem_nil, or_false] at hw
  obtain rfl | rfl | rfl | rfl := hw <;> rfl

theorem skipSeverity_cons (hc : isDigit c = true ∨ c = ':') (t : Text) :
    skipSeverity (c :: t) = c :: t := by
  rw [skipSeverity]
  cases h : severityWords.findSome? (after? · (c :: t)) with
  | none => rfl
  | some rest =>
      obtain ⟨word, hw, hafter⟩ := List.exists_of_findSome?_eq_some h
      have hhead : ∀ w ∈ severityWords, w.head?.any (fun d => !isDigit d && d != ':') = true := by
        decide
      have hword := hhead word hw
      rw [after?_eq_some_iff] at hafter
      cases word with
      | nil => cases hword
      | cons d word =>
          obtain ⟨rfl, _⟩ := List.cons.inj hafter
          rcases hc with hc | rfl
          · simp [hc] at hword
          · simp at hword

theorem skipColon_cons (hc : c ≠ ':') (t : Text) : skipColon (c :: t) = c :: t := by
  rw [skipColon, after?, if_neg (Ne.symm hc)]
  rfl

theorem trimStart_severity {word : Text} (hw : word ∈ severityWords) (t : Text) :
    trimStart (word ++ t) = word ++ t := by
  simp only [severityWords, List.mem_cons, List.not_mem_nil, or_false] at hw
  obtain rfl | rfl | rfl | rfl := hw <;> rfl

theorem exists_skipSeverity (t : Text) :
    ∃ severity, (severity = [] ∨ severity ∈ severityWords) ∧ t = severity ++ skipSeverity t := by
  rw [skipSeverity]
  cases h : severityWords.findSome? (after? · t) with
  | none => exact ⟨[], .inl rfl, rfl⟩
  | some rest =>
      obtain ⟨word, hw, hafter⟩ := List.exists_of_findSome?_eq_some h
      exact ⟨word, .inr hw, after?_eq_some_iff.mp hafter⟩

theorem exists_skipColon (t : Text) :
    ∃ colon, (colon = [] ∨ colon = [':']) ∧ t = colon ++ skipColon t := by
  rw [skipColon]
  cases h : after? [':'] t with
  | none => exact ⟨[], .inl rfl, rfl⟩
  | some rest => exact ⟨[':'], .inr rfl, after?_eq_some_iff.mp h⟩

theorem trimStart_skipColon {colon : Text} (hc : colon = [] ∨ colon = [':'])
    (hg : allBlank gap = true) (hf : Digits file) (t : Text) :
    trimStart (skipColon (colon ++ (gap ++ (file ++ t)))) = file ++ t := by
  have htrim : trimStart (gap ++ (file ++ t)) = file ++ t := by
    rw [trimStart_append_of_blank hg, hf.trimStart]
  have hskip : skipColon (gap ++ (file ++ t)) = gap ++ (file ++ t) := by
    obtain ⟨d, r, rfl, hd⟩ := hf.exists_cons
    cases gap with
    | nil => exact skipColon_cons (fun h => by subst h; cases hd) _
    | cons c gap =>
        refine skipColon_cons (fun h => ?_) _
        subst h
        cases hg
  rcases hc with rfl | rfl
  · rw [List.nil_append, hskip, htrim]
  · exact htrim

theorem trimStart_skipColon_skipSeverity {indent severity colon : Text}
    (hi : allBlank indent = true) (hs : severity = [] ∨ severity ∈ severityWords)
    (hc : colon = [] ∨ colon = [':']) (hg : allBlank gap = true) (hf : Digits file) (t : Text) :
    trimStart (skipColon (skipSeverity (trimStart
      (indent ++ (severity ++ (colon ++ (gap ++ (file ++ t)))))))) = file ++ t := by
  rw [trimStart_append_of_blank hi]
  rcases hs with rfl | hs
  · rw [List.nil_append]
    rcases hc with rfl | rfl
    · have hskip : skipSeverity (file ++ t) = file ++ t := by
        obtain ⟨d, r, rfl, hd⟩ := hf.exists_cons
        exact skipSeverity_cons (.inl hd) _
      rw [List.nil_append, trimStart_append_of_blank hg, hf.trimStart, hskip]
      exact trimStart_skipColon (.inl rfl) (rfl : allBlank [] = true) hf t
    · have hstart : trimStart (':' :: (gap ++ (file ++ t))) = ':' :: (gap ++ (file ++ t)) :=
        trimStart_cons (by decide)
      rw [List.singleton_append, hstart, skipSeverity_cons (.inr rfl)]
      exact trimStart_skipColon (.inr rfl) hg hf t
  · rw [trimStart_severity hs, skipSeverity_word hs, trimStart_skipColon hc hg hf]

theorem Coloned.eq (h : Coloned m line) : colonLine? m = some line := by
  cases h with
  | @intro indent severity colon gap file line rest mark hi hs hc hg hf hl hm =>
      have hmark : isDigit mark = false := by rcases hm with rfl | rfl <;> decide
      have hfile := hf.leadingDigits? (c := ':') (by decide) (line ++ mark :: rest)
      have hline := hl.leadingDigits? hmark rest
      rw [colonLine?, trimStart_skipColon_skipSeverity hi hs hc hg hf]
      rcases hm with rfl | rfl <;> simp [after?, hfile, hline]

theorem coloned_of_eq (h : colonLine? m = some line) : Coloned m line := by
  rw [colonLine?] at h
  obtain ⟨⟨file, r⟩, hfile, h⟩ := Option.bind_eq_some_iff.mp h
  obtain ⟨s, hopen, h⟩ := Option.bind_eq_some_iff.mp h
  obtain ⟨⟨l, r'⟩, hline, h⟩ := Option.bind_eq_some_iff.mp h
  have hmark : ∃ mark rest, (mark = ':' ∨ mark = '(') ∧ r' = mark :: rest ∧ l = line := by
    dsimp only at h
    split at h
    · exact ⟨_, _, .inl rfl, rfl, Option.some.inj h⟩
    · exact ⟨_, _, .inr rfl, rfl, Option.some.inj h⟩
    · cases h
  obtain ⟨mark, rest, hm, rfl, rfl⟩ := hmark
  obtain ⟨indent, hi, hindent⟩ := exists_trimStart m
  obtain ⟨severity, hs, hseverity⟩ := exists_skipSeverity (trimStart m)
  obtain ⟨colon, hc, hcolon⟩ := exists_skipColon (skipSeverity (trimStart m))
  obtain ⟨gap, hg, hgap⟩ := exists_trimStart (skipColon (skipSeverity (trimStart m)))
  rw [hindent, hseverity, hcolon, hgap, (leadingDigits?_eq_some hfile).1,
    after?_eq_some_iff.mp hopen, (leadingDigits?_eq_some hline).1]
  exact .intro hi hs hc hg (leadingDigits?_eq_some hfile).2 (leadingDigits?_eq_some hline).2 hm

end Colons

section Naming

/-- The message names the line. -/
def Names (m line : Text) : Prop := Bracketed m line ∨ Coloned m line

theorem Bracketed.not_coloned {line' : Text} (h : Bracketed m line) : ¬ Coloned m line' := by
  intro hcoloned
  have hline := hcoloned.eq
  cases h with
  | @intro indent file line rest hi hf hl =>
      have hopen := hf.leadingDigits? (c := '(') (by decide) (line ++ ')' :: rest)
      have hstart := trimStart_skipColon_skipSeverity hi (.inl rfl) (.inl rfl)
        (rfl : allBlank [] = true) hf ('(' :: (line ++ ')' :: rest))
      simp only [List.nil_append] at hstart
      rw [colonLine?, hstart, hopen] at hline
      cases hline

theorem named_iff : (bracketedLine? m <|> colonLine? m) = some line ↔ Names m line := by
  constructor
  · intro h
    cases hb : bracketedLine? m with
    | some l =>
        rw [hb] at h
        obtain rfl := Option.some.inj h
        exact .inl (bracketed_of_eq hb)
    | none =>
        rw [hb] at h
        exact .inr (coloned_of_eq h)
  · rintro (h | h)
    · rw [h.eq]
      rfl
    · cases hb : bracketedLine? m with
      | some l => exact absurd h (bracketed_of_eq hb).not_coloned
      | none => exact h.eq

theorem Names.unique {line' : Text} (h : Names m line) (h' : Names m line') : line = line' :=
  Option.some.inj ((named_iff.mpr h).symm.trans (named_iff.mpr h'))

theorem lineNumber_of_names (h : Names m line) : lineNumber m = readNumeral line := by
  rw [lineNumber, named_iff.mpr h]

theorem lineNumber_of_not_names (h : ∀ line, ¬ Names m line) : lineNumber m = .ok 0 := by
  have hnone : (bracketedLine? m <|> colonLine? m) = none :=
    Option.eq_none_iff_forall_not_mem.mpr fun line hline => h line (named_iff.mp hline)
  rw [lineNumber, hnone]

theorem lineNumber_congr {m' : Text} (h : ∀ line, Names m line ↔ Names m' line) :
    lineNumber m = lineNumber m' := by
  have hnamed : (bracketedLine? m <|> colonLine? m) = (bracketedLine? m' <|> colonLine? m') :=
    Option.ext fun line => named_iff.trans ((h line).trans named_iff.symm)
  rw [lineNumber, hnamed, lineNumber]

end Naming

section Blanks

theorem lineNumber_of_blank_append (hg : allBlank gap = true) (m : Text) :
    lineNumber (gap ++ m) = lineNumber m := by
  have hbracketed : bracketedLine? (gap ++ m) = bracketedLine? m := by
    rw [bracketedLine?, trimStart_append_of_blank hg, bracketedLine?]
  have hcolon : colonLine? (gap ++ m) = colonLine? m := by
    rw [colonLine?, trimStart_append_of_blank hg, colonLine?]
  rw [lineNumber, hbracketed, hcolon, lineNumber]

theorem exists_eq_append_of_blank {a : Text} (h : m ++ gap = a ++ c :: rest)
    (hg : allBlank gap = true) (hc : isBlank c = false) : ∃ more, m = a ++ c :: more := by
  have hgap : c ∉ gap := by
    intro hmem
    rw [allBlank_iff.mp hg c hmem] at hc
    cases hc
  rcases List.append_eq_append_iff.mp h with ⟨b, rfl, hb⟩ | ⟨b, rfl, hb⟩
  · exact absurd (hb ▸ List.mem_append_right b List.mem_cons_self) hgap
  · cases b with
    | nil => exact absurd (List.nil_append gap ▸ hb ▸ List.mem_cons_self) hgap
    | cons d b =>
        obtain ⟨rfl, _⟩ := List.cons.inj hb
        exact ⟨b, rfl⟩

theorem Names.exists_core (h : Names m line) : ∃ a c rest, m = a ++ c :: rest ∧
    isBlank c = false ∧ ∀ more, Names (a ++ c :: more) line := by
  rcases h with h | h
  · cases h with
    | @intro indent file line rest hi hf hl =>
        refine ⟨indent ++ (file ++ '(' :: line), ')', rest, by simp, by decide, fun more => .inl ?_⟩
        have hmore : Bracketed (indent ++ (file ++ '(' :: (line ++ ')' :: more))) line :=
          .intro hi hf hl
        simpa using hmore
  · cases h with
    | @intro indent severity colon gap file line rest mark hi hs hc hg hf hl hm =>
        refine ⟨indent ++ (severity ++ (colon ++ (gap ++ (file ++ ':' :: line)))), mark, rest,
          by simp, ?_, fun more => .inr ?_⟩
        · rcases hm with rfl | rfl <;> decide
        · have hmore : Coloned (indent ++ (severity ++ (colon ++ (gap ++ (file ++ ':' ::
              (line ++ mark :: more)))))) line := .intro hi hs hc hg hf hl hm
          simpa using hmore

theorem names_append_of_blank (hg : allBlank gap = true) :
    Names (m ++ gap) line ↔ Names m line := by
  constructor
  · intro h
    obtain ⟨a, c, rest, he, hc, hmore⟩ := h.exists_core
    obtain ⟨more, rfl⟩ := exists_eq_append_of_blank he hg hc
    exact hmore more
  · intro h
    obtain ⟨a, c, rest, rfl, _, hmore⟩ := h.exists_core
    rw [List.append_assoc]
    exact hmore (rest ++ gap)

theorem lineNumber_append_of_blank (hg : allBlank gap = true) (m : Text) :
    lineNumber (m ++ gap) = lineNumber m :=
  lineNumber_congr fun _ => names_append_of_blank hg

theorem lineNumber_trimEnd (m : Text) : lineNumber (trimEnd m) = lineNumber m := by
  obtain ⟨gap, hg, he⟩ := exists_trimEnd m
  conv_rhs => rw [he, lineNumber_append_of_blank hg]

end Blanks

/-- The number of a message is that of the line which it names in one of the two shapes, if it can
be read as a number. A message has one shape at most and names one line; a message of neither shape
has the number zero. Blanks around a message do not matter, so a diagnostic has the number of the
line of the log from which it is made. -/
theorem lineNumber_reads (m : Text) :
    (∀ line, Bracketed m line → line.length ≤ numeralLimit → lineNumber m = .ok (numeral line)) ∧
    (∀ line, Coloned m line → line.length ≤ numeralLimit → lineNumber m = .ok (numeral line)) ∧
    (∀ line line', Bracketed m line → ¬ Coloned m line') ∧
    (∀ line line', Bracketed m line → Bracketed m line' → line = line') ∧
    (∀ line line', Coloned m line → Coloned m line' → line = line') ∧
    ((∀ line, ¬ Bracketed m line ∧ ¬ Coloned m line) → lineNumber m = .ok 0) ∧
    (∀ gap, allBlank gap = true →
      lineNumber (gap ++ m) = lineNumber m ∧ lineNumber (m ++ gap) = lineNumber m) ∧
    ∀ stage, Diagnostic.ofLine m stage = (lineNumber m).map (⟨trimEnd m, stage, ·⟩) := by
  have hread {line : Text} (h : Names m line) (hl : line.length ≤ numeralLimit) :
      lineNumber m = .ok (numeral line) := (lineNumber_of_names h).trans (if_pos hl)
  refine ⟨fun line h => hread (.inl h), fun line h => hread (.inr h),
    fun _ _ => Bracketed.not_coloned, fun _ _ h h' => Names.unique (.inl h) (.inl h'),
    fun _ _ h h' => Names.unique (.inr h) (.inr h'), fun h => ?_, fun gap hg => ?_, fun stage => ?_⟩
  · exact lineNumber_of_not_names fun line => not_or.mpr (h line)
  · exact ⟨lineNumber_of_blank_append hg m, lineNumber_append_of_blank hg m⟩
  · rw [Diagnostic.ofLine, lineNumber_trimEnd]
    cases lineNumber m <;> rfl

theorem lineNumber_reads_either : lineNumber "0(12) : error".toList = .ok 12 ∧
    lineNumber " WARNING:\t0:7(3): unused\r\n".toList = .ok 7 ∧
    lineNumber "12 errors".toList = .ok 0 := by
  have hbracketed : Bracketed "0(12) : error".toList "12".toList := by
    change Bracketed ([] ++ (['0'] ++ '(' :: (['1', '2'] ++ ')' :: " : error".toList))) ['1', '2']
    exact .intro rfl ⟨by decide, by decide⟩ ⟨by decide, by decide⟩
  have hcoloned : Coloned " WARNING:\t0:7(3): unused".toList "7".toList := by
    change Coloned ([' '] ++ ("WARNING".toList ++ ([':'] ++ (['\t'] ++ (['0'] ++ ':' ::
      (['7'] ++ '(' :: "3): unused".toList)))))) ['7']
    exact .intro (by decide) (.inr (by decide)) (.inr rfl) (by decide) ⟨by decide, by decide⟩
      ⟨by decide, by decide⟩ (.inr rfl)
  obtain ⟨hfirst, _⟩ := lineNumber_reads "0(12) : error".toList
  obtain ⟨_, hsecond, _, _, _, _, hblanks, _⟩ :=
    lineNumber_reads " WARNING:\t0:7(3): unused".toList
  obtain ⟨_, _, _, _, _, hneither, _⟩ := lineNumber_reads "12 errors".toList
  refine ⟨hfirst _ hbracketed (by decide), ?_, hneither fun line => ⟨fun h => ?_, fun h => ?_⟩⟩
  · exact (hblanks "\r\n".toList (by decide)).2.trans (hsecond _ hcoloned (by decide))
  · have hnone : bracketedLine? "12 errors".toList = none := by decide
    cases hnone.symm.trans h.eq
  · have hnone : colonLine? "12 errors".toList = none := by decide
    cases hnone.symm.trans h.eq

end ShaderPipeline
