import ShaderPipeline.Text.Blank
import ShaderPipeline.Text.Case

namespace ShaderPipeline

open Text

inductive Stage where
  | feedbackVertex
  | vertex
  | geometry
  | tessControl
  | tessEvaluation
  | fragment
  deriving DecidableEq, Repr, Inhabited

namespace Stage

def all : List Stage := [feedbackVertex, vertex, geometry, tessControl, tessEvaluation, fragment]

def index : Stage → Nat
  | feedbackVertex => 0
  | vertex => 1
  | geometry => 2
  | tessControl => 3
  | tessEvaluation => 4
  | fragment => 5

/-- The number of the shader kind in the graphics interface; both vertex stages have the same. -/
def token : Stage → Nat
  | feedbackVertex => 0x8B31
  | vertex => 0x8B31
  | geometry => 0x8DD9
  | tessControl => 0x8E88
  | tessEvaluation => 0x8E87
  | fragment => 0x8B30

def title : Stage → Text
  | feedbackVertex => "Transform Feedback Vertex".toList
  | vertex => "Vertex".toList
  | geometry => "Geometry".toList
  | tessControl => "Tessellation Ctrl".toList
  | tessEvaluation => "Tessellation Eval".toList
  | fragment => "Fragment".toList

def name : Stage → Text
  | feedbackVertex => "TRANSFORM_FEEDBACK_VERTEX".toList
  | vertex => "VERTEX".toList
  | geometry => "GEOMETRY".toList
  | tessControl => "TESSELLATION_CONTROL".toList
  | tessEvaluation => "TESSELLATION_EVAL".toList
  | fragment => "FRAGMENT".toList

def convertible : Stage → Bool
  | vertex => true
  | fragment => true
  | _ => false

def shortNames : List (Text × Stage) := [
  ("vert".toList, vertex), ("frag".toList, fragment), ("geom".toList, geometry),
  ("tesc".toList, tessControl), ("tese".toList, tessEvaluation)]

def extensions : List (Text × Stage) := [
  (".vert".toList, vertex), (".vs".toList, vertex), (".frag".toList, fragment),
  (".fs".toList, fragment), (".geom".toList, geometry), (".tesc".toList, tessControl),
  (".tese".toList, tessEvaluation)]

def ofExactName? (key : Text) : Option Stage := all.find? (·.name == key)

/-- The lower-case key a spoken name is looked up by: hyphens count as underscores. -/
def key (spoken : Text) : Text :=
  (toLower (trim spoken)).map fun c => if c = '-' then '_' else c

def ofName (spoken : Text) : Except Text Stage :=
  match shortNames.lookup (key spoken) with
  | some stage => .ok stage
  | none =>
    match ofExactName? (toUpper (key spoken)) with
    | some stage => .ok stage
    | none => .error (toUpper (key spoken))

/-- The last component of a path, where empty components and single dots do not count. -/
def fileName (path : Text) : Text :=
  ((pieces (· == '/') path).filter fun part => part != [] && part != ['.']).getLastD []

/-- From the last dot on, if it is neither the first nor the last character of the file name. -/
def extension (path : Text) : Text :=
  let name := fileName path
  let tail := (name.reverse.takeWhile (· != '.')).reverse
  if tail.length + 1 < name.length ∧ tail ≠ [] then '.' :: tail else []

def ofPath? (path : Text) : Option Stage := extensions.lookup (toLower (extension path))

theorem mem_all (s : Stage) : s ∈ all := by cases s <;> decide

end Stage

structure PerStage (α : Type) where
  feedbackVertex : α
  vertex : α
  geometry : α
  tessControl : α
  tessEvaluation : α
  fragment : α

namespace PerStage

variable {α : Type}

def all (a : α) : PerStage α := ⟨a, a, a, a, a, a⟩

def get (p : PerStage α) : Stage → α
  | .feedbackVertex => p.feedbackVertex
  | .vertex => p.vertex
  | .geometry => p.geometry
  | .tessControl => p.tessControl
  | .tessEvaluation => p.tessEvaluation
  | .fragment => p.fragment

def update (k : Stage) (f : α → α) (p : PerStage α) : PerStage α :=
  match k with
  | .feedbackVertex => { p with feedbackVertex := f p.feedbackVertex }
  | .vertex => { p with vertex := f p.vertex }
  | .geometry => { p with geometry := f p.geometry }
  | .tessControl => { p with tessControl := f p.tessControl }
  | .tessEvaluation => { p with tessEvaluation := f p.tessEvaluation }
  | .fragment => { p with fragment := f p.fragment }

@[simp] theorem get_all (a : α) (k : Stage) : (all a).get k = a := by cases k <;> rfl

theorem get_update (k j : Stage) (f : α → α) (p : PerStage α) :
    (p.update k f).get j = if j = k then f (p.get j) else p.get j := by
  cases k <;> cases j <;> rfl

end PerStage

end ShaderPipeline
