import ShaderPipeline.Text.Basic

namespace ShaderPipeline.Glsl

/-- A length of zero means that the uniform is no array. -/
structure Uniform where
  name : Text
  type : Text
  length : Nat := 0
  deriving DecidableEq, Repr, Inhabited

structure Attribute where
  name : Text
  type : Text
  location : Option Nat := none
  deriving DecidableEq, Repr, Inhabited

structure Interface where
  uniforms : List Uniform := []
  attributes : List Attribute := []
  deriving DecidableEq, Repr, Inhabited

inductive Declaration where
  | uniform (u : Uniform)
  | attribute (a : Attribute)
  deriving DecidableEq, Repr

namespace Interface

/-- A name that is declared again keeps its first declaration. -/
def add (i : Interface) : Declaration → Interface
  | .uniform u =>
    if i.uniforms.any (·.name == u.name) then i else { i with uniforms := i.uniforms ++ [u] }
  | .attribute a =>
    if i.attributes.any (·.name == a.name) then i else { i with attributes := i.attributes ++ [a] }

def ofDeclarations (ds : List Declaration) : Interface := ds.foldl add {}

def declarations (i : Interface) : List Declaration :=
  i.uniforms.map .uniform ++ i.attributes.map .attribute

def merge (is : List Interface) : Interface := ofDeclarations (is.flatMap declarations)

end Interface

end ShaderPipeline.Glsl
