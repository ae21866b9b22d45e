import ShaderPipeline.Proofs.Legacy.Matched
import ShaderPipeline.Proofs.Text.Runs

namespace ShaderPipeline.Legacy

open Text Glsl

def advance (settings : Settings) (stage : Stage) (p : Progress) : List Text → Progress
  | [] => p
  | raw :: rest =>
    match recastLine settings stage p raw with
    | .error _ => p
    | .ok (_, p) => advance settings stage p rest

def Body.append (b c : Body) : Body where
  lines := b.lines ++ c.lines
  unnamed := b.unnamed ++ c.unnamed
  fault := b.fault.or c.fault

/-- No output is declared in `pre`, and the line `d` after it is taken for the declaration of the
output `name`. -/
def DeclaresFirst (settings : Settings) (pre : List Text) (d name : Text) : Prop :=
  let p := advance settings .fragment {} pre
  p.declared = false ∧ ∃ part, reading .fragment p.inBlock (trim d) = .output part ∧
    declaredName? part = some name

section Append

variable {settings : Settings} {stage : Stage} {p : Progress} {ls : List Text}

theorem append_put (outcome : Outcome) (b c : Body) :
    (b.put outcome).append c = (b.append c).put outcome := by
  cases outcome <;> rfl

theorem fault_put (outcome : Outcome) (b : Body) : (b.put outcome).fault = b.fault := by
  cases outcome <;> rfl

theorem recastFrom_append (h : (recastFrom settings stage p ls).fault = none) (ms : List Text) :
    recastFrom settings stage p (ls ++ ms) = (recastFrom settings stage p ls).append
      (recastFrom settings stage (advance settings stage p ls) ms) := by
  induction ls generalizing p with
  | nil => rfl
  | cons raw ls ih =>
      rw [recastFrom] at h
      rw [List.cons_append, recastFrom, recastFrom, advance]
      cases hr : recastLine settings stage p raw with
      | error fault => rw [hr] at h; cases h
      | ok r =>
          rw [hr] at h
          dsimp only at h ⊢
          rw [append_put, ih ((fault_put _ _).symm.trans h)]

theorem fault_of_append {ms : List Text}
    (h : (recastFrom settings stage p (ls ++ ms)).fault = none) :
    (recastFrom settings stage p ls).fault = none := by
  induction ls generalizing p with
  | nil => rfl
  | cons raw ls ih =>
      rw [List.cons_append, recastFrom] at h
      rw [recastFrom]
      cases hr : recastLine settings stage p raw with
      | error fault => rw [hr] at h; cases h
      | ok r =>
          rw [hr] at h
          exact (fault_put _ _).trans (ih ((fault_put _ _).symm.trans h))

end Append

section Sink

variable {settings : Settings} (hs : settings.outputTemplate = sinkName)
include hs

theorem recastLine_sink (stage : Stage) (p : Progress) (raw : Text) :
    recastLine settings stage p raw = recastLine {} stage p raw := by
  have hrename : renameOutput settings p (trimEnd raw) = renameOutput {} p (trimEnd raw) := by
    rw [renameOutput, hs]
    rfl
  rw [recastLine, recastLine, hrename]

theorem recastFrom_sink (stage : Stage) (p : Progress) (ls : List Text) :
    recastFrom settings stage p ls = recastFrom {} stage p ls := by
  induction ls generalizing p with
  | nil => rfl
  | cons raw ls ih =>
      rw [recastFrom, recastFrom, recastLine_sink hs]
      cases recastLine {} stage p raw with
      | error fault => rfl
      | ok r => exact congrArg (Body.put r.1) (ih r.2)

theorem advance_sink (stage : Stage) (p : Progress) (ls : List Text) :
    advance settings stage p ls = advance {} stage p ls := by
  induction ls generalizing p with
  | nil => rfl
  | cons raw ls ih =>
      rw [advance, advance, recastLine_sink hs]
      cases recastLine {} stage p raw with
      | error fault => rfl
      | ok r => exact ih r.2

end Sink

section Words

variable {stage : Stage} {p p' : Progress} {line l t part declaration : Text} {storage : Storage}

theorem words_pastLayout? {rest : Text} (h : pastLayout? t = some rest) : words rest ⊆ words t := by
  obtain ⟨⟨head, tail⟩, hc, rfl⟩ := Option.map_eq_some_iff.mp h
  have ht := eq_append_of_cut? hc
  rw [List.append_assoc] at ht
  have hends : endsWord ([')'] ++ tail) = true := endsWord_cons (by decide) tail
  have hsub := words_suffix hends ⟨head, ht.symm⟩
  rwa [words_of_wordless (by decide), ← words_trim tail] at hsub

theorem words_bodyPart? (h : bodyPart? t = some part) : words part ⊆ words t := by
  rw [bodyPart?] at h
  split at h
  · cases hp : pastLayout? t with
    | none => rw [hp] at h; cases h
    | some rest =>
        rw [hp] at h
        dsimp only at h
        split at h
        · cases h; exact words_pastLayout? hp
        · cases h
  · split at h
    · cases h
    · cases h; exact List.Subset.refl _

theorem mem_words_of_recasts {r : Reading} {w : Text}
    (h : Recasts stage p line r (.ok (.keep l, p'))) (hw : w ∈ words l) :
    w = varyingWord ∨ w ∈ words line := by
  cases h with
  | inside | comment | plain => exact .inr hw
  | blank => cases hw
  | @varying _ part declaration storage hb hq =>
      have hends := endsWord_of_qualified? hq
      have hindent : Wordless (indent line) := wordless_of_allBlank List.all_takeWhile
      rw [List.append_assoc, words_of_wordless hindent, words_of_token (by decide) hends,
        List.mem_cons] at hw
      refine hw.imp_right fun hw => ?_
      rw [← words_trim line]
      exact words_bodyPart? hb (words_suffix hends (suffix_of_qualified? hq) hw)

end Words

section Renamed

variable {stage : Stage} {name l : Text} {output : Option Text} {inBlock : Bool} {outcome : Outcome}
variable {p p' : Progress} {ls : List Text}

theorem output_of_undeclared (h : p.declared = false → p.output = none) :
    (advance {} stage p ls).declared = false → (advance {} stage p ls).output = none := by
  induction ls generalizing p with
  | nil => exact h
  | cons raw ls ih =>
      rw [advance]
      cases hr : recastLine {} stage p raw with
      | error fault => exact h
      | ok r =>
          refine ih ?_
          have hrec := recasts stage p (inspected p raw)
          rw [← recastLine_default, hr] at hrec
          generalize reading stage p.inBlock (trim (inspected p raw)) = taken at hrec
          cases hrec with
          | inside | comment | blank | plain | dropped | varying => exact h
          | unnamed | named => nofun

theorem recastRenamed_declared
    (h : recastRenamed stage ⟨output, true, inBlock⟩ l = .ok (outcome, p')) :
    p' = ⟨output, true, p'.inBlock⟩ ∧
      recastRenamed stage { inBlock := inBlock } l = .ok (outcome, { inBlock := p'.inBlock }) := by
  rw [recastRenamed] at h ⊢
  cases inBlock with
  | true => cases h; exact ⟨rfl, rfl⟩
  | false =>
      rw [if_neg Bool.false_ne_true] at h ⊢
      cases hl : layout (trim l) with
      | version | blank => rw [hl] at h; cases h; exact ⟨rfl, rfl⟩
      | comment staysOpen => rw [hl] at h; cases h; exact ⟨rfl, rfl⟩
      | code =>
          rw [hl] at h
          dsimp only at h ⊢
          rw [recastCode] at h ⊢
          cases hb : bodyPart? (trim l) with
          | none => rw [hb] at h; cases h; exact ⟨rfl, rfl⟩
          | some part =>
              rw [hb] at h
              dsimp only at h ⊢
              cases hq : qualified? part with
              | none => rw [hq] at h; cases h; exact ⟨rfl, rfl⟩
              | some q =>
                  rw [hq] at h
                  dsimp only at h ⊢
                  split at h
                  case isTrue => rw [if_pos rfl] at h; cases h
                  case isFalse ho => rw [if_neg ho]; cases h; exact ⟨rfl, rfl⟩

variable (hname : Token notWord name)
include hname

theorem inspected_declared (declared : Bool) (raw : Text) :
    inspected ⟨some name, declared, inBlock⟩ raw =
      inspected { inBlock := inBlock } (renameWord name sinkName raw) := by
  change replaceWord name sinkName (trimEnd raw) = trimEnd (renameWord name sinkName raw)
  rw [trimEnd_renameWord hname (by decide), replaceWord_eq_renameWord hname]

/-- Lines that follow the declaration of an output are recast as if it had its new name from the
beginning. -/
theorem recastFrom_declared (h : (recastFrom {} stage ⟨some name, true, inBlock⟩ ls).fault = none) :
    recastFrom {} stage ⟨some name, true, inBlock⟩ ls =
      recastFrom {} stage { inBlock := inBlock } (ls.map (renameWord name sinkName)) := by
  induction ls generalizing inBlock with
  | nil => rfl
  | cons raw ls ih =>
      rw [recastFrom] at h
      rw [List.map_cons, recastFrom, recastFrom]
      cases hr : recastLine {} stage ⟨some name, true, inBlock⟩ raw with
      | error fault => rw [hr] at h; cases h
      | ok r =>
          obtain ⟨outcome, p'⟩ := r
          rw [hr] at h
          rw [recastLine_default, inspected_declared hname] at hr
          obtain ⟨hp, hsame⟩ := recastRenamed_declared hr
          rw [recastLine_default, hsame]
          rw [hp] at h ⊢
          exact congrArg (Body.put outcome) (ih ((fault_put _ _).symm.trans h))

theorem mem_words_of_declared
    (hl : l ∈ (recastFrom {} stage ⟨some name, true, inBlock⟩ ls).lines) {w : Text}
    (hw : w ∈ words l) :
    w = varyingWord ∨ ∃ raw ∈ ls, w ∈ words (renameWord name sinkName raw) := by
  obtain ⟨raw, hraw, p, p', hp, hr⟩ := exists_of_mem_recastFrom
    (I := fun p => p.output = some name ∧ p.declared = true) ⟨rfl, rfl⟩
    (fun raw _ p outcome p' hp hr => by
      obtain ⟨output, declared, inBlock⟩ := p
      obtain ⟨rfl, rfl⟩ := hp
      rw [recastLine_default] at hr
      rw [(recastRenamed_declared hr).1]
      exact ⟨rfl, rfl⟩) hl
  obtain ⟨output, declared, inBlock⟩ := p
  obtain ⟨rfl, rfl⟩ := hp
  have hrec := recasts stage ⟨some name, true, inBlock⟩ (inspected ⟨some name, true, inBlock⟩ raw)
  rw [← recastLine_default, hr] at hrec
  refine (mem_words_of_recasts hrec hw).imp_right fun hw => ⟨raw, hraw, ?_⟩
  rw [inspected_declared hname, inspected] at hw
  rwa [← words_trimEnd]

end Renamed

theorem recastFrom_output {p : Progress} {d part name : Text} {post : List Text}
    (hd : p.declared = false) (ho : p.output = none)
    (hr : reading .fragment p.inBlock (trim d) = .output part)
    (hn : declaredName? part = some name) :
    recastFrom {} .fragment p (d :: post) =
      recastFrom {} .fragment ⟨some name, true, false⟩ post := by
  have hrec := recasts .fragment p (inspected p d)
  have htrim : trim (inspected p d) = trim d := by
    rw [inspected, ho]
    exact trim_trimEnd d
  rw [← recastLine_default, htrim, hr] at hrec
  generalize hline : recastLine {} .fragment p d = o at hrec
  cases hrec with
  | again _ hagain => rw [hd] at hagain; cases hagain
  | unnamed _ _ _ hq hnone =>
      rw [declaredName?, hq] at hn
      cases hnone.symm.trans hn
  | named h _ _ hq hsome =>
      rw [declaredName?, hq] at hn
      cases hsome.symm.trans hn
      rw [recastFrom, hline, h]
      rfl

/-- The lines after the first declaration of an output are recast as a body of their own in which
the words that are its name have the new name. Other words stay as they are; the old name is not left,
and comes in again only where it is the word that qualifiers are recast to. -/
theorem recast_output {settings : Settings} (hs : settings.outputTemplate = sinkName)
    {pre post : List Text} {d name : Text} (hd : DeclaresFirst settings pre d name)
    (hname : ∀ c ∈ name, isWord c = true)
    (h : (recast settings .fragment (pre ++ d :: post)).fault = none) :
    let tail := post.map (renameWord name sinkName)
    (recast settings .fragment pre).fault = none ∧ (recast settings .fragment tail).fault = none ∧
    recast settings .fragment (pre ++ d :: post) =
      (recast settings .fragment pre).append (recast settings .fragment tail) ∧
    (∀ l, words (renameWord name sinkName l) = (words l).map (renameRun name sinkName)) ∧
    (name ≠ sinkName → (∀ l ∈ tail, name ∉ words l) ∧
      ∀ l ∈ (recast settings .fragment tail).lines, name ∈ words l → name = varyingWord) := by
  simp only [recast, recastFrom_sink hs, DeclaresFirst, advance_sink hs] at h hd ⊢
  obtain ⟨hundeclared, part, hread, hpart⟩ := hd
  have htoken : Token notWord name := by
    obtain ⟨_, _, hvariable⟩ := Option.bind_eq_some_iff.mp hpart
    refine ⟨(token_of_mem_tokens (mem_tokens_of_variableName? hvariable)).1.1, fun c hc => ?_⟩
    rw [notWord, hname c hc]
    rfl
  have hpre : (recastFrom {} .fragment {} pre).fault = none := fault_of_append h
  have hbody := recastFrom_append hpre (d :: post)
  rw [recastFrom_output hundeclared (output_of_undeclared (fun _ => rfl) hundeclared) hread hpart]
    at hbody
  have hpost : (recastFrom {} .fragment ⟨some name, true, false⟩ post).fault = none := by
    have hfault := congrArg Body.fault hbody
    rw [Body.append, hpre, Option.none_or] at hfault
    exact hfault.symm.trans h
  have htail := recastFrom_declared htoken hpost
  refine ⟨hpre, ?_, ?_, words_renameWord htoken (by decide), fun hne => ⟨fun l hl => ?_, ?_⟩⟩
  · exact (congrArg Body.fault htail).symm.trans hpost
  · rw [htail] at hbody
    exact hbody
  · obtain ⟨raw, _, rfl⟩ := List.mem_map.mp hl
    exact not_mem_words_renameWord htoken (by decide) hne raw
  · intro l hl hw
    have hkept : l ∈ (recastFrom {} .fragment ⟨some name, true, false⟩ post).lines := by
      rw [htail]; exact hl
    rcases mem_words_of_declared htoken hkept hw with hv | ⟨raw, _, hraw⟩
    · exact hv
    · exact absurd hraw (not_mem_words_renameWord htoken (by decide) hne raw)

def beforeOutput : List Text :=
  ["#version 330", "/* as it was:", "out vec4 colour;", "*/"].map String.toList

def outputLine : Text := "layout(location = 0) out highp vec4 color; // final".toList

def afterOutput : List Text :=
  ["uniform vec4 color2;", "  in vec3 color_in; // color", "color/* é */=_color+color2;\t"].map
    String.toList

def unmarked : Settings := { macroToken := [] }

theorem recast_output_color : DeclaresFirst unmarked beforeOutput outputLine "color".toList ∧
    (recast unmarked .fragment (beforeOutput ++ outputLine :: afterOutput)).fault = none ∧
    recast unmarked .fragment (beforeOutput ++ outputLine :: afterOutput) =
      (recast unmarked .fragment beforeOutput).append (recast unmarked .fragment
        (["uniform vec4 color2;", "  in vec3 color_in; // gl_FragColor",
          "gl_FragColor/* é */=_color+color2;\t"].map String.toList)) := by
  have hd : DeclaresFirst unmarked beforeOutput outputLine "color".toList :=
    ⟨by decide +kernel, "out highp vec4 color; // final".toList, by decide +kernel,
      by decide +kernel⟩
  have hok :
      (recast unmarked .fragment (beforeOutput ++ outputLine :: afterOutput)).fault = none := by
    decide +kernel
  have htail : afterOutput.map (renameWord "color".toList sinkName) =
      ["uniform vec4 color2;", "  in vec3 color_in; // gl_FragColor",
        "gl_FragColor/* é */=_color+color2;\t"].map String.toList := by decide +kernel
  have hname : ∀ c ∈ "color".toList, isWord c = true := List.all_eq_true.mp (by decide +kernel)
  obtain ⟨_, _, hbody, _⟩ := recast_output (rfl : unmarked.outputTemplate = sinkName) hd hname hok
  rw [htail] at hbody
  exact ⟨hd, hok, hbody⟩

end ShaderPipeline.Legacy
