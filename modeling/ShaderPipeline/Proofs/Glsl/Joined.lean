import ShaderPipeline.Proofs.Glsl.Blocks
import ShaderPipeline.Proofs.Glsl.Written

namespace ShaderPipeline.Glsl

open Text

section Merge

variable {i j : Interface} {d e : Declaration} {ds : List Declaration}

/-- The interface has a declaration of the kind and the name of `d`. -/
def Interface.Has (i : Interface) : Declaration → Prop
  | .uniform u => i.uniforms.any (·.name == u.name) = true
  | .attribute a => i.attributes.any (·.name == a.name) = true

theorem Interface.add_of_has (h : i.Has d) : i.add d = i := by
  cases d with
  | uniform u => exact if_pos h
  | «attribute» a => exact if_pos h

theorem Interface.add_uniform {u : Uniform} (h : ¬i.Has (.uniform u)) :
    i.add (.uniform u) = { i with uniforms := i.uniforms ++ [u] } :=
  if_neg h

theorem Interface.add_attribute {a : Attribute} (h : ¬i.Has (.attribute a)) :
    i.add (.attribute a) = { i with attributes := i.attributes ++ [a] } :=
  if_neg h

theorem Interface.has_add (i : Interface) (d : Declaration) : (i.add d).Has d := by
  by_cases h : i.Has d
  · rwa [Interface.add_of_has h]
  cases d with
  | uniform u => simp [Interface.add_uniform h, Interface.Has]
  | «attribute» a => simp [Interface.add_attribute h, Interface.Has]

theorem Interface.Has.add (h : i.Has d) (e : Declaration) : (i.add e).Has d := by
  by_cases he : i.Has e
  · rwa [Interface.add_of_has he]
  cases e with
  | uniform u =>
      rw [Interface.add_uniform he]
      cases d with
      | uniform v =>
          rw [Interface.Has, List.any_append]
          exact Bool.or_eq_true_iff.mpr (.inl h)
      | «attribute» a => exact h
  | «attribute» b =>
      rw [Interface.add_attribute he]
      cases d with
      | uniform v => exact h
      | «attribute» a =>
          rw [Interface.Has, List.any_append]
          exact Bool.or_eq_true_iff.mpr (.inl h)

theorem Interface.Has.foldl (h : i.Has d) (ds : List Declaration) :
    (ds.foldl Interface.add i).Has d := by
  induction ds generalizing i with
  | nil => exact h
  | cons e ds ih => exact ih (h.add e)

theorem Interface.has_foldl_of_mem (h : d ∈ ds) (i : Interface) :
    (ds.foldl Interface.add i).Has d := by
  obtain ⟨before, after, rfl⟩ := List.append_of_mem h
  rw [List.foldl_append, List.foldl_cons]
  exact (Interface.has_add _ d).foldl after

theorem Interface.Has.foldl_declarations (h : j.Has d) (i : Interface) :
    (j.declarations.foldl Interface.add i).Has d := by
  cases d with
  | uniform u =>
      obtain ⟨v, hv, hname⟩ := List.any_eq_true.mp h
      have hmem : Declaration.uniform v ∈ j.declarations :=
        List.mem_append_left _ (List.mem_map_of_mem hv)
      have hhas := Interface.has_foldl_of_mem hmem i
      rw [Interface.Has, beq_iff_eq.mp hname] at hhas
      exact hhas
  | «attribute» a =>
      obtain ⟨b, hb, hname⟩ := List.any_eq_true.mp h
      have hmem : Declaration.attribute b ∈ j.declarations :=
        List.mem_append_right _ (List.mem_map_of_mem hb)
      have hhas := Interface.has_foldl_of_mem hmem i
      rw [Interface.Has, beq_iff_eq.mp hname] at hhas
      exact hhas

theorem Interface.add_uniform_attribute (i : Interface) (u : Uniform) (a : Attribute) :
    (i.add (.uniform u)).add (.attribute a) = (i.add (.attribute a)).add (.uniform u) := by
  simp only [Interface.add]
  split <;> split <;> rfl

theorem Interface.foldl_attributes (i : Interface) (u : Uniform) (as : List Attribute) :
    (as.map Declaration.attribute).foldl Interface.add (i.add (.uniform u)) =
      ((as.map Declaration.attribute).foldl Interface.add i).add (.uniform u) := by
  induction as generalizing i with
  | nil => rfl
  | cons a as ih =>
      rw [List.map_cons, List.foldl_cons, List.foldl_cons, i.add_uniform_attribute, ih]

theorem Interface.foldl_ofDeclarations (ds : List Declaration) (i : Interface) :
    (Interface.ofDeclarations ds).declarations.foldl Interface.add i =
      ds.foldl Interface.add i := by
  induction ds using List.reverseRecOn with
  | nil => rfl
  | append_singleton ds d ih =>
      have hlast : Interface.ofDeclarations (ds ++ [d]) = (Interface.ofDeclarations ds).add d := by
        rw [Interface.ofDeclarations, List.foldl_append]
        rfl
      rw [hlast, List.foldl_append, ← ih]
      by_cases h : (Interface.ofDeclarations ds).Has d
      · rw [Interface.add_of_has h]
        exact (Interface.add_of_has (h.foldl_declarations i)).symm
      · cases d with
        | uniform u =>
            rw [Interface.add_uniform h]
            simp only [Interface.declarations, List.map_append, List.foldl_append]
            exact Interface.foldl_attributes _ u _
        | «attribute» a =>
            rw [Interface.add_attribute h]
            simp only [Interface.declarations, List.map_append, List.foldl_append]
            rfl

theorem Interface.merge_ofDeclarations (dss : List (List Declaration)) :
    Interface.merge (dss.map Interface.ofDeclarations) = Interface.ofDeclarations dss.flatten := by
  have hfold (i : Interface) :
      ((dss.map Interface.ofDeclarations).flatMap Interface.declarations).foldl Interface.add i =
        dss.flatten.foldl Interface.add i := by
    induction dss generalizing i with
    | nil => rfl
    | cons ds dss ih =>
        rw [List.map_cons, List.flatMap_cons, List.foldl_append, Interface.foldl_ofDeclarations,
          ih, List.flatten_cons, List.foldl_append]
  exact hfold {}

def Declaration.uniformNamed? (name : Text) : Declaration → Option Uniform
  | .uniform u => Option.guard (·.name == name) u
  | .attribute _ => none

theorem Interface.find?_add (i : Interface) (d : Declaration) (name : Text) :
    (i.add d).uniforms.find? (·.name == name) =
      (i.uniforms.find? (·.name == name)).or (d.uniformNamed? name) := by
  by_cases h : i.Has d
  case pos =>
      rw [Interface.add_of_has h]
      cases d with
      | «attribute» a => exact Option.or_none.symm
      | uniform u =>
          by_cases hu : (u.name == name) = true
          · have hfound : (i.uniforms.find? (·.name == name)).isSome = true := by
              rwa [List.find?_isSome, ← List.any_eq_true, ← beq_iff_eq.mp hu]
            obtain ⟨v, hv⟩ := Option.isSome_iff_exists.mp hfound
            rw [hv, Option.some_or]
          · rw [Declaration.uniformNamed?, Option.guard, if_neg hu, Option.or_none]
  case neg =>
      cases d with
      | «attribute» a => rw [Interface.add_attribute h]; exact Option.or_none.symm
      | uniform u =>
          rw [Interface.add_uniform h, List.find?_append, List.find?_eq_findSome?_guard (l := [u]),
            List.findSome?_singleton]
          rfl

theorem Interface.find?_foldl (ds : List Declaration) (i : Interface) (name : Text) :
    (ds.foldl Interface.add i).uniforms.find? (·.name == name) =
      (i.uniforms.find? (·.name == name)).or (ds.findSome? (·.uniformNamed? name)) := by
  induction ds generalizing i with
  | nil => exact Option.or_none.symm
  | cons d ds ih =>
      rw [List.foldl_cons, ih, Interface.find?_add, Option.or_assoc, List.findSome?_cons]
      cases d.uniformNamed? name <;> rfl

theorem Interface.findSome?_declarations (i : Interface) (name : Text) :
    i.declarations.findSome? (·.uniformNamed? name) = i.uniforms.find? (·.name == name) := by
  have hattributes : (i.attributes.map Declaration.attribute).findSome?
      (·.uniformNamed? name) = none := by
    simp [List.findSome?_eq_none_iff, Declaration.uniformNamed?]
  rw [Interface.declarations, List.findSome?_append, hattributes, Option.or_none,
    List.findSome?_map, List.find?_eq_findSome?_guard]
  rfl

theorem Interface.find?_merge (is : List Interface) (name : Text) :
    (Interface.merge is).uniforms.find? (·.name == name) =
      is.findSome? fun i => i.uniforms.find? (·.name == name) := by
  have hfold := Interface.find?_foldl (is.flatMap Interface.declarations) {} name
  refine hfold.trans ?_
  rw [List.find?_nil, Option.none_or]
  clear hfold
  induction is with
  | nil => rfl
  | cons i is ih =>
      rw [List.flatMap_cons, List.findSome?_append, Interface.findSome?_declarations, ih,
        List.findSome?_cons]
      cases i.uniforms.find? (·.name == name) <;> rfl

end Merge

section Lines

variable {ts : List Text}

theorem lines_unlines_flatMap (hne : ts ≠ []) : lines (unlines ts) = ts.flatMap lines := by
  induction ts with
  | nil => exact absurd rfl hne
  | cons t ts ih =>
      cases ts with
      | nil => exact (List.append_nil (lines t)).symm
      | cons u ts =>
          rw [List.flatMap_cons, ← ih (List.cons_ne_nil u ts)]
          exact pieces_append_separator rfl t _

/-- Nothing that is live in one of the sources is lost in a comment of another. -/
theorem liveLines_unlines (hne : ts ≠ []) (hclosed : ∀ t ∈ ts, leavesBlockOpen t = false) :
    liveLines (unlines ts) = ts.flatMap liveLines := by
  rw [liveLines, lines_unlines_flatMap hne]
  clear hne
  induction ts with
  | nil => rfl
  | cons t ts ih =>
      obtain ⟨ht, hts⟩ := List.forall_mem_cons.mp hclosed
      rw [leavesBlockOpen] at ht
      rw [List.flatMap_cons, List.flatMap_cons, liveFrom_append, ht, ih hts]
      rfl

end Lines

section Scan

variable {ts : List Text} {i : Interface}

theorem declarations_append_bind (ls ms : List Text) : declarations (ls ++ ms) =
    (declarations ls).bind fun ds => (declarations ms).map (ds ++ ·) := by
  induction ls with
  | nil => cases h : declarations ms <;> simp [h, declarations, Except.bind, Except.map]
  | cons l ls ih =>
      rw [List.cons_append, declarations_cons, declarations_cons, ih]
      cases declaration? l with
      | error fault => rfl
      | ok d =>
          cases declarations ls with
          | error fault => rfl
          | ok ds =>
              cases declarations ms with
              | error fault => rfl
              | ok es => exact congrArg Except.ok (List.append_assoc _ _ _).symm

theorem declarations_flatMap (lss : List (List Text)) :
    declarations lss.flatten = (lss.mapM declarations).map List.flatten := by
  induction lss with
  | nil => rfl
  | cons ls lss ih =>
      rw [List.flatten_cons, declarations_append_bind, ih, List.mapM_cons]
      cases declarations ls with
      | error fault => rfl
      | ok ds => cases lss.mapM declarations <;> rfl

theorem scan_eq_map (t : Text) :
    scan t = (declarations (liveLines t)).map Interface.ofDeclarations := by
  rw [scan]
  cases declarations (liveLines t) <;> rfl

theorem mapM_cases {α β : Type} (f : α → Except Fault β) (xs : List α) :
    (∃ ys, xs.mapM f = .ok ys ∧ List.Forall₂ (fun x y => f x = .ok y) xs ys) ∨
      ∃ x ∈ xs, ∃ fault, f x = .error fault ∧ xs.mapM f = .error fault := by
  induction xs with
  | nil => exact .inl ⟨[], rfl, .nil⟩
  | cons x xs ih =>
      rw [List.mapM_cons]
      cases hx : f x with
      | error fault => exact .inr ⟨x, List.mem_cons_self, fault, hx, rfl⟩
      | ok y =>
          obtain ⟨ys, hys, hall⟩ | ⟨z, hz, fault, hfault, hxs⟩ := ih
          · exact .inl ⟨y :: ys, by rw [hys]; rfl, .cons hx hall⟩
          · exact .inr ⟨z, List.mem_cons_of_mem x hz, fault, hfault, by rw [hxs]; rfl⟩

/-- One pass over the joined sources finds what the sources have, the first of each name; and where
it fails, the first source that fails does so in the same way. -/
theorem scan_unlines (hne : ts ≠ []) (hclosed : ∀ t ∈ ts, leavesBlockOpen t = false) :
    scan (unlines ts) = (ts.mapM scan).map Interface.merge := by
  have hscans : ts.mapM scan =
      ((ts.map liveLines).mapM declarations).map (List.map Interface.ofDeclarations) := by
    clear hne hclosed
    induction ts with
    | nil => rfl
    | cons t ts ih =>
        rw [List.map_cons, List.mapM_cons, List.mapM_cons, ih, scan_eq_map]
        cases declarations (liveLines t) with
        | error fault => rfl
        | ok ds => cases (ts.map liveLines).mapM declarations <;> rfl
  rw [scan_eq_map, liveLines_unlines hne hclosed, List.flatMap_def, declarations_flatMap, hscans]
  cases (ts.map liveLines).mapM declarations with
  | error fault => rfl
  | ok dss => exact congrArg Except.ok (Interface.merge_ofDeclarations dss).symm

theorem nodup_of_scan {source : Text} (h : scan source = .ok i) :
    (i.uniforms.map (·.name)).Nodup ∧ (i.attributes.map (·.name)).Nodup := by
  obtain ⟨ds, hds, rfl⟩ := scan_eq_ok h
  have hdeclared : ∀ d ∈ ds, d.Written fun _ => True :=
    declarations_written (fun _ _ => trivial) (fun _ _ => trivial) hds
  have hwritten := ofDeclarations_written hdeclared
  exact ⟨hwritten.uniformNames, hwritten.attributeNames⟩

end Scan

end ShaderPipeline.Glsl
