namespace ShaderPipeline

abbrev Text := List Char

namespace Text

/-- Cut at every character that `separates` accepts; the cuts leave empty pieces between them. -/
def pieces (separates : Char → Bool) : Text → List Text
  | [] => [[]]
  | c :: t =>
    if separates c then [] :: pieces separates t
    else (pieces separates t).modifyHead (c :: ·)

/-- A text of `n` line feeds has `n + 1` lines. -/
def lines (t : Text) : List Text := pieces (· == '\n') t

def unlines : List Text → Text
  | [] => []
  | [l] => l
  | l :: ls => l ++ '\n' :: unlines ls

def tokens (separates : Char → Bool) (t : Text) : List Text :=
  (pieces separates t).filter (· != [])

def after? : (mark t : Text) → Option Text
  | [], t => some t
  | _ :: _, [] => none
  | m :: ms, c :: t => if m = c then after? ms t else none

def cut? (mark : Text) : Text → Option (Text × Text)
  | [] => if mark = [] then some ([], []) else none
  | c :: t =>
    match after? mark (c :: t) with
    | some rest => some ([], rest)
    | none => (cut? mark t).map fun (before, rest) => (c :: before, rest)

def contains (mark t : Text) : Bool := (cut? mark t).isSome

def before (mark t : Text) : Text :=
  match cut? mark t with
  | some (head, _) => head
  | none => t

/-- Copy the text, putting `new` for each occurrence of `old`; `skip` characters of an
occurrence already replaced are still to be passed over. -/
def replaceFrom (old new : Text) : (skip : Nat) → Text → Text
  | _, [] => []
  | skip + 1, _ :: t => replaceFrom old new skip t
  | 0, c :: t =>
    if old.isPrefixOf (c :: t) then new ++ replaceFrom old new (old.length - 1) t
    else c :: replaceFrom old new 0 t

/-- Replace the occurrences of `old` from left to right. The empty text occurs before every
character and at the end. -/
def replaceAll (old new t : Text) : Text :=
  if old = [] then t.foldr (fun c r => new ++ c :: r) new
  else replaceFrom old new 0 t

@[simp] theorem lines_nil : lines [] = [[]] := rfl

theorem pieces_ne_nil (separates : Char → Bool) (t : Text) : pieces separates t ≠ [] := by
  cases t with
  | nil => simp [pieces]
  | cons c t =>
    rw [pieces]
    split
    · simp
    · cases h : pieces separates t with
      | nil => exact absurd h (pieces_ne_nil separates t)
      | cons p ps => simp

theorem unlines_lines (t : Text) : unlines (lines t) = t := by
  unfold lines
  induction t with
  | nil => rfl
  | cons c t ih =>
    have hne := pieces_ne_nil (· == '\n') t
    rw [pieces]
    split
    case isTrue hc =>
      cases hp : pieces (· == '\n') t with
      | nil => exact absurd hp hne
      | cons p ps => simp_all [unlines]
    case isFalse hc =>
      cases hp : pieces (· == '\n') t with
      | nil => exact absurd hp hne
      | cons p ps =>
        rw [hp] at ih
        cases ps with
        | nil => simpa [unlines] using ih
        | cons q qs => simpa [unlines] using ih

theorem not_separates_of_mem_pieces {separates : Char → Bool} {t p : Text}
    (hp : p ∈ pieces separates t) {c : Char} (hc : c ∈ p) : separates c = false := by
  induction t generalizing p with
  | nil =>
    rw [pieces, List.mem_singleton] at hp
    subst hp
    cases hc
  | cons d t ih =>
    rw [pieces] at hp
    split at hp
    case isTrue hd =>
      rcases List.mem_cons.1 hp with rfl | hp
      · cases hc
      · exact ih hp hc
    case isFalse hd =>
      cases ht : pieces separates t with
      | nil => exact absurd ht (pieces_ne_nil separates t)
      | cons q qs =>
        rw [ht, List.modifyHead_cons] at hp
        rcases List.mem_cons.1 hp with rfl | hp
        · rcases List.mem_cons.1 hc with rfl | hc
          · simpa using hd
          · exact ih (by simp [ht]) hc
        · exact ih (by simp [ht, hp]) hc

theorem after?_eq_some_iff {mark t rest : Text} :
    after? mark t = some rest ↔ t = mark ++ rest := by
  induction mark generalizing t with
  | nil => simp [after?]
  | cons m ms ih =>
    cases t with
    | nil => simp [after?]
    | cons c t =>
      rw [after?]
      split
      · simp_all
      · simp_all [eq_comm]

theorem eq_append_of_cut? {mark t head rest : Text} (h : cut? mark t = some (head, rest)) :
    t = head ++ mark ++ rest := by
  induction t generalizing head with
  | nil =>
    rw [cut?] at h
    split at h <;> simp_all
  | cons c t ih =>
    rw [cut?] at h
    split at h
    case h_1 r hr =>
      obtain ⟨rfl, rfl⟩ : [] = head ∧ r = rest := by simpa using h
      simpa using after?_eq_some_iff.1 hr
    case h_2 hr =>
      cases ht : cut? mark t with
      | none => simp [ht] at h
      | some p =>
        obtain ⟨rfl, rfl⟩ : c :: p.1 = head ∧ p.2 = rest := by simpa [ht] using h
        simpa using ih ht

end Text

end ShaderPipeline
