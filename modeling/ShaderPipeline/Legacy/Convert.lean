import ShaderPipeline.Legacy.Body

namespace ShaderPipeline.Legacy

open Text Glsl

/-- The legacy dialect has no integer inputs. -/
def widen (type : Text) : Text := if type = "int".toList then "float".toList else type

def attributeLine (type name : Text) : Text :=
  attributeWord ++ ' ' :: type ++ ' ' :: name ++ [';']

def uniformLine (u : Uniform) : Text :=
  let array := if 0 < u.length then '[' :: ofNat u.length ++ [']'] else []
  uniformWord ++ ' ' :: widen u.type ++ ' ' :: u.name ++ array ++ [';']

def header (settings : Settings) (usesIndex : Bool) (i : Interface) : List Text :=
  i.attributes.map (fun a => attributeLine (widen a.type) a.name)
    ++ (if usesIndex then [attributeLine "float".toList settings.vertexIndexAttribute] else [])
    ++ i.uniforms.map uniformLine

def usesVertexIndex (settings : Settings) (code : Text) : Bool :=
  contains settings.vertexIndex code

def renameVertexIndex (settings : Settings) (code : Text) : Text :=
  if usesVertexIndex settings code then
    replaceAll settings.vertexIndex settings.vertexIndexAttribute code
  else code

def trimLines (ls : List Text) : List Text :=
  ((ls.dropWhile allBlank).reverse.dropWhile allBlank).reverse

def writable (i : Interface) : Bool :=
  i.uniforms.all fun u => decide ((ofNat u.length).length ≤ numeralLimit)

/-- The header and the recast body; a fault of the body leaves its reports in place. -/
def convertWith (settings : Settings) (stage : Stage) (i : Interface) (code : Text) : Body :=
  if writable i then
    let body := recast settings stage (lines (renameVertexIndex settings code))
    { body with lines := trimLines (header settings (usesVertexIndex settings code) i ++ body.lines) }
  else { fault := some .numberTooLarge }

/-- The converted lines, with the reports made on the way. Without a given interface the one
that the code declares is used. -/
def convert (settings : Settings) (stage : Stage) (i : Option Interface) (code : Text) : Body :=
  if stage.convertible then
    match i with
    | some i => convertWith settings stage i code
    | none =>
      match scan code with
      | .ok i => convertWith settings stage i code
      | .error fault => { fault := some fault }
  else { fault := some (.notConvertible stage) }

def Body.text (b : Body) : Except Fault Text :=
  match b.fault with
  | some fault => .error fault
  | none => .ok (unlines b.lines)

def unnamedReport (declaration : Text) : Text :=
  "Could not find output name in ".toList ++ quoted declaration

end ShaderPipeline.Legacy
