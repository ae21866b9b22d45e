import ShaderPipeline.Text.Basic

namespace ShaderPipeline

/-- Sources with `macroDirective` are expanded before they are compiled, converted ones that still
hold `macroToken` once more. `outputTemplate` is what replaces the name of a fragment output. -/
structure Settings where
  macroDirective : Text := "#pragma glslify:".toList
  macroToken : Text := "glslify".toList
  vertexIndex : Text := "gl_VertexID".toList
  vertexIndexAttribute : Text := "_vertex_id".toList
  outputTemplate : Text := "gl_FragColor".toList
  expander : List Text := ["glslify".toList]
  deriving DecidableEq, Repr, Inhabited

end ShaderPipeline
