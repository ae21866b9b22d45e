import ShaderPipeline.Proofs.Studio.Merged
import ShaderPipeline.Proofs.Uniform.Layout

namespace ShaderPipeline.Studio

open Text Glsl Act ShaderPipeline.Uniform Uniform.NumberArray

variable {W P V : Type}

def declaredType? (code name : Text) : Option Text :=
  (scan code).toOption.bind fun i => (i.uniforms.find? (·.name == name)).map (·.type)

/-- The elements of a uniform, by the first stage that declares it. -/
def elementIn (s : Studio W P) (name : Text) : Element :=
  ((Stage.all.findSome? fun k => declaredType? (s.shaders.get k).code name).map .ofType).getD .float

section Elements

variable {s : Studio W P} {w : W} {p : P} {name : Text} {device : Device W P V}

theorem elementOf_eq (i : Interface) (name : Text) : elementOf i name =
    (((i.uniforms.find? (·.name == name)).map (·.type)).map .ofType).getD .float := by
  rw [elementOf]
  cases i.uniforms.find? (·.name == name) <;> rfl

theorem findSome?_scanned {code : Stage → Text} {ks : List Stage} {is : List Interface}
    (h : List.Forall₂ (fun k i => scan (code k) = .ok i) ks is) (name : Text) :
    (is.findSome? fun i => i.uniforms.find? (·.name == name)).map (·.type) =
      ks.findSome? fun k => declaredType? (code k) name := by
  induction h with
  | nil => rfl
  | @cons k i ks is hi _ ih =>
      have hk : declaredType? (code k) name =
          (i.uniforms.find? (·.name == name)).map (·.type) := by
        rw [declaredType?, hi]
        rfl
      rw [List.findSome?_cons, List.findSome?_cons, hk]
      cases i.uniforms.find? (·.name == name) with
      | none => exact ih
      | some u => rfl

theorem exists_scan (code : Stage → Text) {ks : List Stage} {is : List Interface} {k : Stage}
    (h : List.Forall₂ (fun k i => scan (code k) = .ok i) ks is) (hk : k ∈ ks) :
    ∃ i, scan (code k) = .ok i := by
  induction h with
  | nil => cases hk
  | cons hi _ ih =>
      rcases List.mem_cons.mp hk with rfl | hk
      · exact ⟨_, hi⟩
      · exact ih hk

theorem outcome_setUniform_numbers (h : WellRead (s, w)) (hp : s.program = some p)
    (he : device.exposes p name = true) (a : NumberArray) :
    (∃ t, (setUniform device name (.numbers a)).outcome (s, w) =
      let written := (device.write p name (a.bytes device.convert (elementIn s name))).outcome w
      (written.1.map fun _ => true, (t, written.2))) ∧
        (∀ k, ∃ i, scan (s.shaders.get k).code = .ok i) ∨
    ∃ k fault t, scan (s.shaders.get k).code = .error fault ∧
      (setUniform device name (.numbers a)).outcome (s, w) = (.error fault, (t, w)) := by
  have hset : (setUniform device name (.numbers a)).outcome (s, w) =
      (mergedInterface >>= fun i =>
        outside (device.write p name (a.bytes device.convert (elementOf i name))) >>= fun _ =>
          pure true).outcome (s, w) := by
    rw [setUniform, outcome_bind_ok _ (outcome_own (s, w)), hp]
    dsimp only
    rw [if_pos he]
  obtain ⟨t, ht⟩ := outcome_merged h
  rcases mapM_cases (fun k => scan (s.shaders.get k).code) Stage.all with
    ⟨is, his, hall⟩ | ⟨k, _, fault, hk, hfault⟩
  · refine .inl ⟨⟨t, ?_⟩, fun k => ?_⟩
    · have helement : elementOf (.merge is) name = elementIn s name := by
        rw [elementOf_eq, Interface.find?_merge, findSome?_scanned hall, elementIn]
      rw [his] at ht
      rw [hset, outcome_bind_ok _ ht, helement, outcome_bind, outcome_outside]
      cases (device.write p name (a.bytes device.convert (elementIn s name))).outcome w with
      | mk r v => cases r <;> rfl
    · exact exists_scan (fun k => (s.shaders.get k).code) hall (Stage.mem_all k)
  · rw [hfault] at ht
    exact .inr ⟨k, fault, t, hk, hset.trans (outcome_bind_error _ ht)⟩

end Elements

section Runs

variable [Records W] {device : Device W P V} {listener : Listener W P V}

/-- An array that is assigned to the uniform is written as elements of the one type, and nothing is
written as long as the source of some stage cannot be read. -/
structure WritesAs (device : Device W P V) (listener : Listener W P V) (s : Studio W P × W) (p : P)
    (name : Text) (e : Element) : Prop where
  written : (∀ k, ∃ i, scan (s.1.shaders.get k).code = .ok i) → ∀ depth (a : NumberArray),
    let o := (perform device listener depth (.setUniform name (.numbers a))).outcome s
    let written := (device.write p name (a.bytes device.convert e)).outcome s.2
    o.1 = written.1.map (fun _ => true) ∧ o.2.2 = written.2
  unread : ∀ k fault, scan (s.1.shaders.get k).code = .error fault → ∀ depth (a : NumberArray),
    let o := (perform device listener depth (.setUniform name (.numbers a))).outcome s
    (∃ j fault, scan (s.1.shaders.get j).code = .error fault ∧ o.1 = .error fault) ∧ o.2.2 = s.2

theorem perform_setUniform (depth : Nat) (name : Text) (value : Value V) :
    perform device listener depth (.setUniform name value) = setUniform device name value := by
  cases depth <;> rfl

theorem writesAs_elementIn {s : Studio W P × W} (h : WellRead s) {p : P}
    (hp : s.1.program = some p) {name : Text} (he : device.exposes p name = true) :
    WritesAs device listener s p name (elementIn s.1 name) := by
  refine ⟨fun hscans depth a => ?_, fun k fault hk depth a => ?_⟩
  all_goals rw [perform_setUniform]
  · rcases outcome_setUniform_numbers h hp he a with ⟨⟨t, ht⟩, _⟩ | ⟨k, fault, t, hk, _⟩
    · rw [ht]
      exact ⟨rfl, rfl⟩
    · obtain ⟨i, hi⟩ := hscans k
      rw [hi] at hk
      cases hk
  · rcases outcome_setUniform_numbers h hp he a with ⟨_, hscans⟩ | ⟨j, fault, t, hj, ht⟩
    · obtain ⟨i, hi⟩ := hscans k
      rw [hi] at hk
      cases hk
    · rw [ht]
      exact ⟨⟨j, fault, hj, rfl⟩, rfl⟩

/-- Whatever was asked of the studio before, a square matrix is written column after column, and so
is every array of two dimensions; all others keep their order. So the vectors of an array stand one
after the other only if there is no more than one, or if they have one component, and the matrices
of an array are written by columns only if there are none, or if they have one element. -/
theorem setUniform_laid (compiler : Option (Compiler W)) (resolver : Option (Resolver W))
    (settings : Settings) (context : Option (Context W P)) (w : W) {s : Studio W P × W}
    (h : Reached device listener (fun _ => True) (fun _ => True)
      (opened compiler resolver settings context, w) s)
    {p : P} (hp : s.1.program = some p) {name : Text} (he : device.exposes p name = true)
    (hc : device.convert.Lawful) :
    let e := elementIn s.1 name
    let laid := Laid device.convert e
    WritesAs device listener s p name e ∧
    ∀ n k,
      laid [k, k] (byColumn k) ∧
      (laid [n, k] (byVector k) ↔ n ≤ 1 ∨ k ≤ 1) ∧ laid [n, k] (byColumn n) ∧
      (laid [n, k, k] (byMatrix k) ↔ n = 0 ∨ k ≤ 1) ∧ laid [n, k, k] (place [n, k, k]) := by
  intro e laid
  refine ⟨writesAs_elementIn h.wellRead hp he, fun n k => ?_⟩
  exact ⟨laid_byColumn hc e k k, laid_byVector_iff hc e n k, laid_byColumn hc e n k,
    laid_byMatrix_iff hc e n k, laid_place hc e (by simp)⟩

end Runs

/-- A world that counts handles and keeps what is written to uniforms. -/
structure Tape where
  handles : Nat := 0
  written : List (List UInt8) := []

namespace Tape

instance : Records Tape where
  record _ _ w := w

def compiler : Compiler Tape where
  create _ := ⟨fun w => (.ok (w.handles + 1), { w with handles := w.handles + 1 })⟩
  setSource _ _ := pure ()
  compile _ := pure true
  infoLog _ := pure []
  delete _ := pure ()

def context : Context Tape Unit := fun _ => pure ()

def device : Device Tape P Unit where
  convert := Scalar.casts
  exposes _ _ := true
  write _ _ bs := ⟨fun w => (.ok (), { w with written := w.written ++ [bs] })⟩
  assign _ _ _ := pure ()
  release _ := pure ()

def vertexStudio (code : Text) : Studio Tape Unit × Tape :=
  performAll device Listener.idle 1 [.setCode .vertex code, .compileProgram]
    (opened (some compiler) none {} (some context), {})

theorem vertexStudio_reached (code : Text) : Reached device Listener.idle (fun _ => True)
    (fun _ => True) (opened (some compiler) none {} (some context), {}) (vertexStudio code) :=
  Reached.start.performAll 1 fun _ _ => trivial

def vectorCode : Text := "uniform vec2 u[3];\nvoid main() \x7b\x7d".toList

def matrixCode : Text := "uniform mat2 m[2];\nvoid main() \x7b\x7d".toList

def counting (shape : List Nat) : NumberArray where
  shape := shape
  cells := (List.range shape.prod).map fun i => .whole (i + 1)

def writing (name : Text) (a : NumberArray) (s : Studio Tape Unit × Tape) :
    Except Fault Bool × Studio Tape Unit × Tape :=
  (perform device Listener.idle 1 (.setUniform name (.numbers a))).outcome s

/-- Three vectors are written, but not as they stand in the uniform. -/
theorem setUniform_laid_vectors : (vertexStudio vectorCode).1.program = some () ∧
    (∀ k, ∃ i, scan ((vertexStudio vectorCode).1.shaders.get k).code = .ok i) ∧
    (writing ['u'] (counting [3, 2]) (vertexStudio vectorCode)).1 = .ok true ∧
    (writing ['u'] (counting [3, 2]) (vertexStudio vectorCode)).2.2.written =
      [(counting [3, 2]).bytes Scalar.casts .float] ∧
    ¬Laid Scalar.casts .float [3, 2] (byVector 2) := by
  have hp : (vertexStudio vectorCode).1.program = some () := by decide +kernel
  have hscans (k : Stage) : ∃ i, scan ((vertexStudio vectorCode).1.shaders.get k).code = .ok i := by
    have hread : (scan ((vertexStudio vectorCode).1.shaders.get k).code).toOption.isSome = true := by
      cases k <;> decide +kernel
    cases hscan : scan ((vertexStudio vectorCode).1.shaders.get k).code with
    | ok i => exact ⟨i, rfl⟩
    | error fault =>
        rw [hscan] at hread
        cases hread
  have hfloat : elementIn (vertexStudio vectorCode).1 ['u'] = .float := by decide +kernel
  have hempty : (vertexStudio vectorCode).2.written = [] := by decide +kernel
  have he : (device : Device Tape Unit Unit).exposes () ['u'] = true := rfl
  obtain ⟨hwritten, hlaid⟩ := setUniform_laid (some compiler) none {} (some context) {}
    (vertexStudio_reached vectorCode) hp he casts_lawful
  obtain ⟨hreturned, hworld⟩ := hwritten.written hscans 1 (counting [3, 2])
  rw [hfloat] at hworld hlaid
  refine ⟨hp, hscans, hreturned, ?_, fun h => ?_⟩
  · rw [writing, hworld]
    change (vertexStudio vectorCode).2.written ++ _ = _
    rw [hempty]
    rfl
  · have hfew := (hlaid 3 2).2.1.mp h
    omega

/-- What follows the first component of the first vector is not its second component, and what
follows the first element of the first matrix is the one to the right of it. -/
theorem components_apart :
    (scan vectorCode = .ok ⟨[⟨['u'], "vec2".toList, 3⟩], []⟩ ∧
      (vertexStudio vectorCode).1.program = some () ∧
      (writing ['u'] (counting [3, 2]) (vertexStudio vectorCode)).1 = .ok true ∧
      (counting [3, 2]).cell? [0, 1] = some (.whole 2) ∧
      ∃ bs, (writing ['u'] (counting [3, 2]) (vertexStudio vectorCode)).2.2.written = [bs] ∧
        elementAt .float (byVector 2 [0, 1]) bs ≠ Scalar.casts .float (.whole 2)) ∧
    (scan matrixCode = .ok ⟨[⟨['m'], "mat2".toList, 2⟩], []⟩ ∧
      (vertexStudio matrixCode).1.program = some () ∧
      (writing ['m'] (counting [2, 2, 2]) (vertexStudio matrixCode)).1 = .ok true ∧
      (counting [2, 2, 2]).cell? [0, 1, 0] = some (.whole 3) ∧
      ∃ bs, (writing ['m'] (counting [2, 2, 2]) (vertexStudio matrixCode)).2.2.written = [bs] ∧
        elementAt .float (byMatrix 2 [0, 1, 0]) bs ≠
          Scalar.casts .float (.whole 3)) := by
  refine ⟨⟨by decide +kernel, by decide +kernel, by decide +kernel, by decide +kernel,
    (counting [3, 2]).bytes Scalar.casts .float, by decide +kernel, by decide +kernel⟩, ?_⟩
  exact ⟨by decide +kernel, by decide +kernel, by decide +kernel, by decide +kernel,
    (counting [2, 2, 2]).bytes Scalar.casts .float, by decide +kernel, by decide +kernel⟩

end Tape

end ShaderPipeline.Studio
