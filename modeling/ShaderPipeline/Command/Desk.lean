import ShaderPipeline.Command.Execute

namespace ShaderPipeline.Command

open Text

structure Tree where
  files : List (List Text × List UInt8) := []
  folders : List (List Text) := []
  deriving DecidableEq, Repr

namespace Tree

def parent : Text := ['.', '.']

def above : List Text → List (List Text)
  | [] => []
  | part :: parts => [] :: (above parts).map (part :: ·)

def addFolder (path : Text) (t : Tree) : Tree :=
  let parts := Path.components path
  { t with folders := t.folders ++ parts :: above parts }

def addFile (path : Text) (bytes : List UInt8) (t : Tree) : Tree :=
  let parts := Path.components path
  { files := t.files ++ [(parts, bytes)], folders := t.folders ++ above parts }

/-- Where the machine's own folders begin; nothing is known of what they hold. -/
def top : Text := ['/']

def isFolder (t : Tree) (parts : List Text) : Bool :=
  parts == [] || parts == [top] || parts.all (· == parent) || t.folders.elem parts

def up (parts : List Text) : List Text :=
  if parts = [top] then parts
  else if parts.all (· == parent) then parts ++ [parent]
  else parts.dropLast

/-- The entry that a path leads to from a folder; its last component may be missing. -/
def follow (t : Tree) (folder : List Text) : List Text → Except FileProblem (List Text)
  | [] => .ok folder
  | part :: parts =>
    let next := if part = parent then up folder else folder ++ [part]
    if t.isFolder next then t.follow next parts
    else if parts = [] then .ok next
    else if (t.files.lookup next).isSome then .error .notDirectory
    else .error .missing

def entry (t : Tree) (path : Text) : Except FileProblem (List Text) := do
  let start := if Path.rootOf path = [] then [] else [top]
  let parts ← t.follow start (Path.components path)
  if t.isFolder parts then .error .isDirectory else return parts

def read (t : Tree) (path : Text) : Except FileProblem (List UInt8) := do
  match t.files.lookup (← t.entry path) with
  | some bytes => return bytes
  | none => .error .missing

def write (t : Tree) (path : Text) (bytes : List UInt8) : Except FileProblem Tree := do
  let parts ← t.entry path
  return { t with files := (parts, bytes) :: t.files.filter (·.1 != parts) }

end Tree

structure Desk where
  tree : Tree := {}
  printed : Text := []
  logged : Text := []
  threshold : Level := .debug
  deriving DecidableEq, Repr

namespace Desk

variable {W : Type}

def ofFile {α : Type} (path : Text) : Except FileProblem α → Act (Desk × W) α
  | .ok a => return a
  | .error problem => throw (.file problem path)

def serve (run : List Text → Text → Act W Glslify.Run) : (r : Request) → Act (Desk × W) r.Answer
  | .readFile path => do ofFile path ((← Act.own).tree.read path)
  | .writeFile path bytes => do
    let tree ← ofFile path ((← Act.own).tree.write path bytes)
    Act.change fun d => { d with tree := tree }
  | .print text => Act.change fun d => { d with printed := d.printed ++ text }
  | .logFrom level => Act.change fun d => { d with threshold := level }
  | .log level text =>
    Act.change fun d =>
      if levelRank d.threshold ≤ levelRank level then
        { d with logged := d.logged ++ logLine level text ++ ['\n'] }
      else d
  | .run command input => Act.outside (run command input)

end Desk

end ShaderPipeline.Command
