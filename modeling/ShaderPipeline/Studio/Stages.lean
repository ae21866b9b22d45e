import ShaderPipeline.Legacy.Expand
import ShaderPipeline.Studio.Basic

namespace ShaderPipeline.Studio

open Text Glsl

variable {W P : Type} (call : Text → Change → Act (Studio W P × W) Unit)

def retireProgram : Act (Studio W P × W) Unit :=
  Act.change fun s => { s with bin := s.bin.addProgram s.program, program := none }

/-- The studio itself hears of a change before any other listener. -/
def notify (k : Stage) (property : Property) : Act (Studio W P × W) Unit := do
  changeShader k fun s => { s with channel := s.channel.post ⟨k, property⟩ }
  let s ← shader k
  if property = .handle then retireProgram
  s.channel.listeners.forM (call · ⟨k, property⟩)

def setHandle (k : Stage) (handle : Int) : Act (Studio W P × W) Unit := do
  if handle = 0 then
    changeShader k fun s => { s with verdict := none, compiledText := [] }
  let old := (← shader k).handle
  if handle ≠ old then
    Act.change fun s => { s with bin := s.bin.add old }
    changeShader k fun s => { s with handle := handle, scanned := none }
    notify call k .handle

def setCode (k : Stage) (code : Text) : Act (Studio W P × W) Unit := do
  if code ≠ (← shader k).code then
    changeShader k fun s => { s with code := code, scanned := none, diagnostics := [] }
    setHandle call k 0
    changeShader k fun s => { s with verdict := none }
    notify call k .code

def reset (k : Stage) : Act (Studio W P × W) Unit := do
  setHandle call k 0
  changeShader k fun s => { s with diagnostics := [] }

/-- The interface of the code, read again only if the code is not the one read last. -/
def interface (k : Stage) : Act (Studio W P × W) Interface := do
  let s ← shader k
  match s.scanned with
  | some (code, i) => if code = s.code then return i else readAgain s.code
  | none => readAgain s.code
where
  readAgain (code : Text) : Act (Studio W P × W) Interface := do
    let i ← Act.ofExcept (scan code)
    changeShader k fun s => { s with scanned := some (code, i) }
    return i

def explain (k : Stage) (text : Text) : Act (Studio W P × W) Unit :=
  (lines text).forM fun line => do
    if !allBlank line then
      let d ← Act.ofExcept (Diagnostic.ofLine line (some k))
      changeShader k fun s => { s with diagnostics := s.diagnostics ++ [d] }

def expandMacros (k : Stage) (source : Text) : Act (Studio W P × W) Text := do
  let s ← shader k
  if contains s.settings.macroDirective source then
    match s.resolver with
    | none => throw .noResolver
    | some expand => Act.outside (expand source)
  else return source

/-- Have the source compiled for a handle; a refusal is explained by the compiler's log. -/
def submit (c : Compiler W) (k : Stage) (handle : Int) (source : Text) :
    Act (Studio W P × W) Bool := do
  Act.outside (c.setSource handle source)
  let compiled ← Act.outside (c.compile handle)
  if !compiled then explain k (← Act.outside (c.infoLog handle))
  return compiled

section

variable [Records W]

def report (level : Level) (text : Text) : Act (Studio W P × W) Unit :=
  Act.outside (note level text)

/-- A handle whose source was refused is never kept. -/
def compileWith (c : Compiler W) (k : Stage) (source : Text) : Act (Studio W P × W) Bool := do
  let handle ← Act.outside (c.create k.token)
  let compiled ← (submit c k handle source).onFault (Act.outside (c.delete handle))
  if compiled then
    setHandle call k handle
    changeShader k fun s => { s with compiledText := source }
    report .debug (k.title ++ " stage compiled (handle ".toList ++ ofInt handle ++ [')'])
    return true
  else
    Act.outside (c.delete handle)
    let count := (← shader k).diagnostics.length
    report .warning
      (k.title ++ " stage failed to compile (".toList ++ ofNat count ++ " diagnostic(s))".toList)
    return false

def attemptCompile (k : Stage) : Act (Studio W P × W) Bool := do
  let s ← shader k
  if allBlank s.code then return true
  match s.compiler with
  | none => throw (.noCompiler k s.handle)
  | some c =>
    match ← (expandMacros k s.code).attempt with
    | .error fault =>
      if fault.family = .expansion then
        explain k fault.explanation
        report .warning (k.title ++ " stage: macro expansion failed".toList)
        return false
      else throw fault
    | .ok source =>
      if allBlank source then
        explain k "Macro expansion produced no source".toList
        return false
      else compileWith call c k source

def compile (k : Stage) : Act (Studio W P × W) Bool := do
  let s ← shader k
  if s.handle ≠ 0 then return s.diagnostics.isEmpty
  match s.verdict with
  | some compiled => return compiled
  | none =>
    changeShader k fun s => { s with diagnostics := [] }
    let compiled ← attemptCompile call k
    changeShader k fun s => { s with verdict := some compiled }
    return compiled

def toLegacy (k : Stage) : Act (Studio W P × W) Text := do
  let s ← shader k
  let i ← interface k
  Act.outside (Legacy.convertAndExpand s.settings k (some i) s.resolver s.code)

end

end ShaderPipeline.Studio
