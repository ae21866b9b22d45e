import ShaderPipeline.Proofs.Legacy.Renaming

namespace ShaderPipeline.Legacy

open Text Glsl

/-- What a line is taken for. Of a declaration that stays the part is given that follows the word
for layouts, if there is one. -/
inductive Reading where
  | kept
  | dropped
  | varying (part : Text)
  | output (part : Text)
  deriving DecidableEq, Repr

def reading (stage : Stage) (inBlock : Bool) (trimmed : Text) : Reading :=
  if inBlock then .kept
  else match layout trimmed with
    | .version => .dropped
    | .comment _ => .kept
    | .blank => .kept
    | .code =>
      match bodyPart? trimmed with
      | none => .dropped
      | some part =>
        match qualified? part with
        | none => .kept
        | some (storage, _) =>
          if storage = .output ∧ stage = .fragment then .output part else .varying part

def declaredName? (part : Text) : Option Text :=
  (qualified? part).bind fun (_, declaration) => variableName? declaration

section Recasts

variable {stage : Stage} {p : Progress} {line t : Text}

/-- All that can become of a line, by what it is taken for. -/
inductive Recasts (stage : Stage) (p : Progress) (line : Text) :
    Reading → Except Fault (Outcome × Progress) → Prop
  | inside (h : p.inBlock = true) : Recasts stage p line .kept
      (.ok (.keep line, { p with inBlock := !contains closeMark (trim line) }))
  | comment (h : p.inBlock = false) {staysOpen : Bool}
      (hs : staysOpen = true → openMark <:+: trim line) :
      Recasts stage p line .kept (.ok (.keep line, { p with inBlock := staysOpen }))
  | blank (h : p.inBlock = false) (ht : trim line = []) :
      Recasts stage p line .kept (.ok (.keep [], p))
  | plain (h : p.inBlock = false) : Recasts stage p line .kept (.ok (.keep line, p))
  | dropped (h : p.inBlock = false) : Recasts stage p line .dropped (.ok (.drop, p))
  | varying (h : p.inBlock = false) {part declaration : Text} {storage : Storage}
      (hb : bodyPart? (trim line) = some part)
      (hq : qualified? part = some (storage, declaration)) :
      Recasts stage p line (.varying part)
        (.ok (.keep (indent line ++ varyingWord ++ declaration), p))
  | again (h : p.inBlock = false) {part : Text} (hd : p.declared = true) :
      Recasts stage p line (.output part) (.error (.secondOutput part))
  | unnamed (h : p.inBlock = false) {part declaration : Text} {storage : Storage}
      (hd : p.declared = false) (hb : bodyPart? (trim line) = some part)
      (hq : qualified? part = some (storage, declaration))
      (hn : variableName? declaration = none) :
      Recasts stage p line (.output part) (.ok (.unnamed part, { p with declared := true }))
  | named (h : p.inBlock = false) {part declaration name : Text} {storage : Storage}
      (hd : p.declared = false) (hb : bodyPart? (trim line) = some part)
      (hq : qualified? part = some (storage, declaration))
      (hn : variableName? declaration = some name) :
      Recasts stage p line (.output part)
        (.ok (.drop, { p with declared := true, output := some name }))

theorem infix_of_layout_comment (h : layout t = .comment true) : openMark <:+: t := by
  rw [layout] at h
  split at h
  · cases h
  · split at h
    · cases h
    · cases ha : after? openMark t with
      | none =>
          rw [ha] at h
          dsimp only [Option.map_none] at h
          split at h <;> cases h
      | some u =>
          rw [after?_eq_some_iff.mp ha]
          exact (List.prefix_append openMark u).isInfix

theorem eq_nil_of_layout_blank (h : layout t = .blank) : t = [] := by
  rw [layout] at h
  split at h
  · cases h
  · split at h
    · cases h
    · split at h
      · cases h
      · cases h
      · split at h
        · assumption
        · cases h

theorem recasts (stage : Stage) (p : Progress) (line : Text) :
    Recasts stage p line (reading stage p.inBlock (trim line)) (recastRenamed stage p line) := by
  rw [reading, recastRenamed]
  cases hp : p.inBlock with
  | true => exact .inside hp
  | false =>
      rw [if_neg (by decide), if_neg (by decide)]
      cases hl : layout (trim line) with
      | version => exact .dropped hp
      | comment staysOpen => exact .comment hp fun h => infix_of_layout_comment (h ▸ hl)
      | blank => exact .blank hp (eq_nil_of_layout_blank hl)
      | code =>
          dsimp only
          rw [recastCode]
          cases hb : bodyPart? (trim line) with
          | none => exact .dropped hp
          | some part =>
              dsimp only
              cases hq : qualified? part with
              | none => exact .plain hp
              | some q =>
                  obtain ⟨storage, declaration⟩ := q
                  dsimp only
                  by_cases ho : storage = .output ∧ stage = .fragment
                  · rw [if_pos ho, if_pos ho]
                    cases hd : p.declared with
                    | true => exact .again hp hd
                    | false =>
                        rw [if_neg (by decide)]
                        cases hn : variableName? declaration with
                        | none => exact .unnamed hp hd hb hq hn
                        | some name => exact .named hp hd hb hq hn
                  · rw [if_neg ho, if_neg ho]
                    exact .varying hp hb hq

end Recasts

section Alike

/-- A line, and the live part of it, are taken for the same; `after` is that part, if there is one,
with the state of comments behind the line. Inside a comment a line may not count as anything,
unless nothing of it is live; outside of one no comment may start in what is left out. -/
def Alike (stage : Stage) (trimmed : Text) (after : Option Text × Bool) : Bool → Reading → Prop
  | _, .kept => ∀ live ∈ after.1, reading stage false live = .kept
  | false, .dropped => after.2 = false ∧ ∀ live ∈ after.1, reading stage false live = .dropped
  | true, .dropped => after.1 = none
  | false, .varying part => after.2 = (liveLine part).2 ∧
      ∀ live ∈ after.1, reading stage false live = .varying (liveLine part).1
  | true, .varying part => (part = trimmed ∨ after.1 = none) ∧
      ∀ live ∈ after.1, reading stage false live = .kept
  | false, .output part => (after.2 = false ∧ (liveLine part).2 = false) ∧
      (∀ live ∈ after.1, reading stage false live = .output (liveLine part).1) ∧
      ∀ name ∈ declaredName? part, contains closeMark name = false
  | true, .output _ => False

instance (stage : Stage) (trimmed : Text) (after : Option Text × Bool) :
    ∀ (inBlock : Bool) (r : Reading), Decidable (Alike stage trimmed after inBlock r)
  | _, .kept => inferInstanceAs (Decidable (∀ live ∈ after.1, reading stage false live = .kept))
  | false, .dropped => inferInstanceAs
      (Decidable (after.2 = false ∧ ∀ live ∈ after.1, reading stage false live = .dropped))
  | true, .dropped => inferInstanceAs (Decidable (after.1 = none))
  | false, .varying part => inferInstanceAs (Decidable (after.2 = (liveLine part).2 ∧
      ∀ live ∈ after.1, reading stage false live = .varying (liveLine part).1))
  | true, .varying part => inferInstanceAs (Decidable ((part = trimmed ∨ after.1 = none) ∧
      ∀ live ∈ after.1, reading stage false live = .kept))
  | false, .output part => inferInstanceAs
      (Decidable ((after.2 = false ∧ (liveLine part).2 = false) ∧
        (∀ live ∈ after.1, reading stage false live = .output (liveLine part).1) ∧
        ∀ name ∈ declaredName? part, contains closeMark name = false))
  | true, .output _ => inferInstanceAs (Decidable False)

/-- Every line that is reached is taken for what its live part is taken for. -/
def Aligned (stage : Stage) (p : Progress) (inBlock : Bool) : List Text → Prop
  | [] => True
  | raw :: rest =>
    let line := inspected p raw
    let after := livePart? inBlock line
    Alike stage (trim line) after inBlock (reading stage p.inBlock (trim line)) ∧
      match recastLine {} stage p raw with
      | .error _ => True
      | .ok (_, p) => Aligned stage p after.2 rest

instance decidableAligned (stage : Stage) : ∀ (p : Progress) (inBlock : Bool) (ls : List Text),
    Decidable (Aligned stage p inBlock ls)
  | _, _, [] => inferInstanceAs (Decidable True)
  | p, inBlock, raw :: rest =>
    let after := livePart? inBlock (inspected p raw)
    have : Decidable (match recastLine {} stage p raw with
        | .error _ => True
        | .ok (_, p) => Aligned stage p after.2 rest) :=
      match recastLine {} stage p raw with
      | .error _ => inferInstanceAs (Decidable True)
      | .ok (_, p) => decidableAligned stage p after.2 rest
    inferInstanceAs (Decidable (_ ∧ _))

end Alike

end ShaderPipeline.Legacy
