import ShaderPipeline.Proofs.Glsl.Blocks
import ShaderPipeline.Proofs.Glsl.Spacing
import ShaderPipeline.Proofs.Legacy.Recasts

namespace ShaderPipeline.Glsl

open Text

variable {fault : Fault} {l s t : Text}

/-- The fault is that the text has a number with too many digits. -/
def TooLong (t : Text) (fault : Fault) : Prop :=
  ∃ digits, digits <:+: t ∧ isPlainNumeral digits = true ∧ numeralLimit < digits.length ∧
    fault = .numeralTooLong digits.length

theorem TooLong.within (h : TooLong s fault) (hs : s <:+: t) : TooLong t fault := by
  obtain ⟨digits, hd, hrest⟩ := h
  exact ⟨digits, hd.trans hs, hrest⟩

theorem tooLong_of_readNumeral (hp : isPlainNumeral t = true) (h : readNumeral t = .error fault) :
    TooLong t fault := by
  rw [readNumeral] at h
  split at h
  · cases h
  · cases h
    exact ⟨t, List.infix_refl t, hp, by omega, rfl⟩

theorem tooLong_of_arrayLength {ps : List Text} (h : arrayLength ps = .error fault) :
    ∃ p ∈ ps, TooLong p fault := by
  cases ps with
  | nil => cases h
  | cons p ps =>
      rw [arrayLength] at h
      split at h
      case h_2 => cases h
      case h_1 =>
          dsimp only at h
          split at h
          case isFalse => cases h
          case isTrue hp =>
              refine ⟨p, List.mem_cons_self, (tooLong_of_readNumeral hp h).within ?_⟩
              exact (infix_trim _).trans (List.dropLast_prefix p).isInfix

theorem eq_error_of_bind {α β : Type} {r : Except Fault α} {f : α → β}
    (h : (do return f (← r) : Except Fault β) = .error fault) : r = .error fault := by
  cases r with
  | error e =>
      cases h
      rfl
  | ok x => cases h

theorem tooLong_of_uniform? (h : uniform? l = .error fault) : TooLong l fault := by
  rw [uniform?] at h
  split at h
  case h_2 => cases h
  case h_1 type name bracket hts =>
      obtain ⟨p, hp, hlong⟩ := tooLong_of_arrayLength (eq_error_of_bind h)
      have hmem : p ∈ tokens endsUniform (l.drop uniformWord.length) := by
        rw [hts]
        exact List.mem_cons_of_mem _ (List.mem_cons_of_mem _ hp)
      exact hlong.within ((token_of_mem_tokens hmem).2.trans (List.drop_suffix _ l).isInfix)

theorem tooLong_of_located? (h : located? l = .error fault) : TooLong l fault := by
  rw [located?] at h
  split at h
  case h_2 => cases h
  case h_1 equals closing _ _ =>
      dsimp only at h
      split at h
      case isFalse => cases h
      case isTrue hn =>
          split at h
          case h_2 => cases h
          case h_1 =>
              have hread := tooLong_of_readNumeral hn.2.2 (eq_error_of_bind h)
              refine hread.within ((infix_trim _).trans ?_)
              exact (List.drop_suffix _ _).isInfix.trans (List.take_prefix _ l).isInfix

def MayNumber (l : Text) : Prop :=
  startsWithWord uniformWord l = true ∨ startsWithWord layoutWord l = true

theorem tooLong_of_declaration? (h : declaration? l = .error fault) :
    MayNumber l ∧ TooLong l fault := by
  rw [declaration?] at h
  split at h
  case isTrue hu => exact ⟨.inl hu, tooLong_of_uniform? (eq_error_of_bind h)⟩
  case isFalse =>
      split at h
      case isTrue hl => exact ⟨.inr hl, tooLong_of_located? (eq_error_of_bind h)⟩
      case isFalse => split at h <;> cases h

theorem tooLong_of_declarations {ls : List Text} (h : declarations ls = .error fault) :
    ∃ l ∈ ls, MayNumber l ∧ TooLong l fault := by
  induction ls with
  | nil => cases h
  | cons l ls ih =>
      rw [declarations_cons] at h
      cases hd : declaration? l with
      | error e =>
          rw [hd] at h
          cases h
          exact ⟨l, List.mem_cons_self, tooLong_of_declaration? hd⟩
      | ok d =>
          rw [hd] at h
          obtain ⟨m, hm, hlong⟩ := ih (eq_error_of_bind h)
          exact ⟨m, List.mem_cons_of_mem l hm, hlong⟩

theorem tooLong_of_scan (h : scan s = .error fault) :
    ∃ l ∈ liveLines s, MayNumber l ∧ TooLong l fault :=
  tooLong_of_declarations (eq_error_of_bind h)

theorem scan_returns (h : ∀ digits, digits <:+: s → isPlainNumeral digits = true →
    digits.length ≤ numeralLimit) : ∃ i, scan s = .ok i := by
  cases hs : scan s with
  | ok i => exact ⟨i, rfl⟩
  | error fault =>
      obtain ⟨l, hl, _, digits, hd, hp, hlong, _⟩ := tooLong_of_scan hs
      have hspace : ' ' ∉ digits := fun hm =>
        absurd (isWord_of_isPlainNumeral hp _ hm) (by decide)
      have hshort := h digits (infix_of_mem_liveLines hl hspace hd) hp
      omega

end ShaderPipeline.Glsl

namespace ShaderPipeline.Legacy

open Text Glsl

variable {fault : Fault} {i : Option Interface} {ls : List Text} {p : Progress} {raw s t : Text}
  {stage : Stage}

theorem secondOutput_of_recastLine (h : recastLine {} stage p raw = .error fault) :
    ∃ part, fault = .secondOutput part := by
  rw [recastLine_default] at h
  have hr := recasts stage p (inspected p raw)
  rw [h] at hr
  generalize reading stage p.inBlock (trim (inspected p raw)) = kind at hr
  cases hr with
  | @again _ part _ => exact ⟨part, rfl⟩

theorem secondOutput_of_recastFrom (h : (recastFrom {} stage p ls).fault = some fault) :
    ∃ part, fault = .secondOutput part := by
  induction ls generalizing p with
  | nil => cases h
  | cons raw ls ih =>
      rw [recastFrom] at h
      cases hr : recastLine {} stage p raw with
      | error e =>
          rw [hr] at h
          cases h
          exact secondOutput_of_recastLine hr
      | ok next =>
          obtain ⟨outcome, q⟩ := next
          rw [hr] at h
          cases outcome <;> exact ih h

def TooLarge (i : Interface) (fault : Fault) : Prop :=
  fault = .numberTooLarge ∧ ∃ u ∈ i.uniforms, numeralLimit < (ofNat u.length).length

theorem tooLarge_of_not_writable {found : Interface} (h : writable found = false) :
    TooLarge found .numberTooLarge := by
  obtain ⟨u, hu, hlong⟩ := List.all_eq_false.mp h
  exact ⟨rfl, u, hu, by simpa using hlong⟩

theorem TooLarge.not_writable {found : Interface} (h : TooLarge found fault) :
    writable found = false := by
  obtain ⟨_, u, hu, hlong⟩ := h
  exact List.all_eq_false.mpr ⟨u, hu, by simpa using hlong⟩

theorem fault_of_convertWith {found : Interface}
    (h : (convertWith {} stage found s).text = .error fault) :
    fault.family = .operation ∨ TooLarge found fault := by
  rw [convertWith] at h
  split at h
  case isFalse hw =>
      cases h
      exact .inr (tooLarge_of_not_writable (Bool.eq_false_iff.mpr hw))
  case isTrue =>
      have hfault : (recastFrom {} stage {} (lines (renameVertexIndex {} s))).fault = some fault := by
        rw [Body.text] at h
        split at h
        case h_1 e he =>
            cases h
            exact he
        case h_2 => cases h
      obtain ⟨part, rfl⟩ := secondOutput_of_recastFrom hfault
      exact .inl rfl

/-- What keeps the interface of a text from being used: it cannot be read, or, if it is given, not be
written. -/
def Unusable (s : Text) (fault : Fault) : Option Interface → Prop
  | none => scan s = .error fault
  | some found => TooLarge found fault

theorem fault_of_convert (h : (convert {} stage i s).text = .error fault) :
    fault.family = .operation ∨ (stage.convertible = true ∧ Unusable s fault i) := by
  cases hstage : stage.convertible with
  | false =>
      unfold convert at h
      rw [hstage] at h
      cases h
      exact .inl rfl
  | true =>
      unfold convert at h
      rw [if_pos hstage] at h
      cases i with
      | some found => exact (fault_of_convertWith h).imp_right fun hl => ⟨rfl, hl⟩
      | none =>
          cases hs : scan s with
          | error e =>
              rw [hs] at h
              cases h
              exact .inr ⟨rfl, hs⟩
          | ok found =>
              rw [hs] at h
              refine .inl ((fault_of_convertWith h).resolve_right fun hl => ?_)
              have hwritable := writable_of_written (scan_written hs)
              rw [hl.not_writable] at hwritable
              cases hwritable

theorem convert_of_unusable (hstage : stage.convertible = true) (h : Unusable s fault i) :
    (convert {} stage i s).text = .error fault := by
  unfold convert
  rw [if_pos hstage]
  cases i with
  | none =>
      have hs : scan s = .error fault := h
      rw [hs]
      rfl
  | some found =>
      have hlarge : TooLarge found fault := h
      obtain rfl := hlarge.1
      dsimp only
      rw [convertWith, hlarge.not_writable]
      rfl

theorem fault_of_expandLeft {W : Type} {resolver : Option (Text → Act W Text)} {w : W}
    (hres : ∀ expand ∈ resolver, ∀ t w fault, ((expand t).outcome w).1 = .error fault →
      fault.family = .expansion)
    (h : ((expandLeft {} resolver t).outcome w).1 = .error fault) : fault.family = .expansion := by
  unfold expandLeft at h
  rw [Act.outcome_ite] at h
  split at h
  case isFalse => cases h
  case isTrue =>
      cases resolver with
      | none =>
          cases h
          rfl
      | some expand => exact hres expand rfl t w fault h

variable {W : Type} [Records W]

theorem outcome_convertAndExpand_cases (settings : Settings) (stage : Stage) (i : Option Interface)
    (resolver : Option (Text → Act W Text)) (s : Text) (w : W) :
    (∃ fault, (convert settings stage i s).text = .error fault ∧
      ((convertAndExpand settings stage i resolver s).outcome w).1 = .error fault) ∨
    ∃ t w', (convert settings stage i s).text = .ok t ∧
      (convertAndExpand settings stage i resolver s).outcome w =
        (expandLeft settings resolver t).outcome w' := by
  obtain ⟨w', hw⟩ := outcome_forM_note unnamedReport (convert settings stage i s).unnamed w
  rw [convertAndExpand, Act.outcome_bind_ok _ hw]
  cases ht : (convert settings stage i s).text with
  | error fault => exact .inl ⟨fault, rfl, rfl⟩
  | ok t => exact .inr ⟨t, w', rfl, rfl⟩

/-- Whatever the text, reading it fails only over a number of more than 4300 digits, on a live line
that starts with the word for uniforms or for layouts; and converting it ends with a fault that is the
shader's or that of expanding macros, or with what keeps its interface from being used: if none is
given with the fault of reading it, and else with one of its lengths that has too many digits. -/
theorem faults_of_text (s : Text) (stage : Stage) (i : Option Interface)
    (resolver : Option (Text → Act W Text))
    (hres : ∀ expand ∈ resolver, ∀ t w fault, ((expand t).outcome w).1 = .error fault →
      fault.family = .expansion) (w : W) :
    let run := ((convertAndExpand {} stage i resolver s).outcome w).1
    ((∃ found, scan s = .ok found) ∨ ∃ fault, scan s = .error fault ∧ fault.family = .value ∧
      ∃ l ∈ liveLines s, MayNumber l ∧ TooLong l fault) ∧
    ((∀ digits, digits <:+: s → isPlainNumeral digits = true → digits.length ≤ numeralLimit) →
      ∃ found, scan s = .ok found) ∧
    ((∃ t, run = .ok t) ∨ ∃ fault, run = .error fault ∧
      (fault.family = .operation ∨ fault.family = .expansion ∨
        (stage.convertible = true ∧ Unusable s fault i))) ∧
    ∀ fault, stage.convertible = true → Unusable s fault i → run = .error fault := by
  intro run
  refine ⟨?_, scan_returns, ?_, fun fault hstage hi => ?_⟩
  · cases hs : scan s with
    | ok found => exact .inl ⟨found, rfl⟩
    | error fault =>
        obtain ⟨l, hl, hmay, hlong⟩ := tooLong_of_scan hs
        obtain ⟨digits, _, _, _, rfl⟩ := id hlong
        exact .inr ⟨_, rfl, rfl, l, hl, hmay, hlong⟩
  · cases hr : run with
    | ok t => exact .inl ⟨t, rfl⟩
    | error fault =>
        refine .inr ⟨fault, rfl, ?_⟩
        rcases outcome_convertAndExpand_cases {} stage i resolver s w with
          ⟨e, ht, he⟩ | ⟨t, w', _, he⟩
        · obtain rfl : e = fault := Except.error.inj (he.symm.trans hr)
          exact (fault_of_convert ht).imp_right .inr
        · have hexpand : ((expandLeft {} resolver t).outcome w').1 = .error fault := he ▸ hr
          exact .inr (.inl (fault_of_expandLeft hres hexpand))
  · have ht := convert_of_unusable hstage hi
    rcases outcome_convertAndExpand_cases {} stage i resolver s w with
      ⟨e, hte, he⟩ | ⟨t, w', hto, _⟩
    · rw [ht] at hte
      cases hte
      exact he
    · rw [ht] at hto
      cases hto

def unknownMacro : Text := unlines [
  "#pragma glslify: noise = require(noise)".toList,
  "uniform float scale[3];".toList,
  "void main() { gl_Position.x = noise(scale[0]); }".toList]

def refuse (_ : Text) : Act Unit Text := throw (.notExpanded "no such module".toList)

def oversized : Text := "uniform float a[".toList ++ (List.replicate 4301 '1' ++ "];".toList)

theorem scan_oversized : scan oversized = .error (.numeralTooLong 4301) := by
  have hdigits : isPlainNumeral (List.replicate 4301 '1') = true := by
    rw [isPlainNumeral, List.all_replicate]
    rfl
  have hlength : (List.replicate 4301 '1').length = 4301 := List.length_replicate
  have hscan := scan_tooLong hdigits (by rw [hlength]; decide)
  rwa [hlength] at hscan

theorem faults_unknownMacro :
    (∀ expand ∈ some refuse, ∀ t w fault, ((expand t).outcome w).1 = .error fault →
      fault.family = .expansion) ∧
    (∃ found, scan unknownMacro = .ok found) ∧
    ((convertAndExpand {} .vertex none (some refuse) unknownMacro).outcome ()).1 =
      .error (.notExpanded "no such module".toList) ∧
    ((convertAndExpand {} .fragment none (some refuse) oversized).outcome ()).1 =
      .error (.numeralTooLong 4301) := by
  have hres : ∀ expand ∈ some refuse, ∀ t w fault, ((expand t).outcome w).1 = .error fault →
      fault.family = .expansion := by
    intro expand he t w fault h
    cases he
    cases h
    rfl
  obtain ⟨_, hreturns, _⟩ := faults_of_text unknownMacro .vertex none (some refuse) hres ()
  obtain ⟨_, _, _, hescapes⟩ := faults_of_text oversized .fragment none (some refuse) hres ()
  refine ⟨hres, hreturns fun digits hd _ => ?_, by decide +kernel,
    hescapes _ rfl scan_oversized⟩
  exact hd.length_le.trans (by decide +kernel)

theorem faults_oversized :
    scan oversized = .error (.numeralTooLong 4301) ∧
    ((convertAndExpand {} .vertex none none oversized : Act Unit Text).outcome ()).1 =
      .error (.numeralTooLong 4301) ∧
    (Fault.numeralTooLong 4301).family ≠ .operation ∧
    (Fault.numeralTooLong 4301).family ≠ .expansion := by
  have hstage : Stage.vertex.convertible = true := rfl
  refine ⟨scan_oversized, ?_, by decide, by decide⟩
  rw [outcome_convertAndExpand, convert_text, if_pos hstage, scan_oversized]
  rfl

end ShaderPipeline.Legacy
