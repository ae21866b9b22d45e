import ShaderPipeline.Text.Basic

namespace ShaderPipeline.Command.Path

open Text

def components (path : Text) : List Text :=
  (pieces (· == '/') path).filter fun part => part != [] && part != ['.']

/-- Two slashes at the start are kept, more are one. -/
def rootOf : Text → Text
  | '/' :: '/' :: '/' :: _ => ['/']
  | '/' :: '/' :: _ => ['/', '/']
  | '/' :: _ => ['/']
  | _ => []

def join : List Text → Text
  | [] => []
  | [part] => part
  | part :: parts => part ++ '/' :: join parts

def normal (path : Text) : Text :=
  match rootOf path ++ join (components path) with
  | [] => ['.']
  | t => t

end ShaderPipeline.Command.Path
