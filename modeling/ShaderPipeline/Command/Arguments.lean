import ShaderPipeline.Text.Blank
import ShaderPipeline.Text.Digits
import ShaderPipeline.Text.Quoted

namespace ShaderPipeline.Command

open Text

inductive Effect where
  | help
  | flag
  | value
  deriving DecidableEq, Repr

structure Switch where
  names : List Text
  effect : Effect
  deriving DecidableEq, Repr

def joined (mark : Text) : List Text → Text
  | [] => []
  | [t] => t
  | t :: ts => t ++ mark ++ joined mark ts

def Switch.label (s : Switch) : Text := joined ['/'] s.names

/-- `takesRest` tells whether the positional argument takes everything after it. -/
structure Grammar where
  program : Text
  switches : List Switch
  positional : Text
  takesRest : Bool
  deriving DecidableEq, Repr

inductive Usage where
  | help (program : Text)
  | wrong (program message : Text)
  deriving DecidableEq, Repr

def Usage.status : Usage → Nat
  | .help _ => 0
  | .wrong _ _ => 2

def Usage.help? : Usage → Option Text
  | .help program => some ("usage: ".toList ++ program ++ ['\n'])
  | .wrong _ _ => none

def Usage.complaint : Usage → Text
  | .help _ => []
  | .wrong program message => program ++ ": error: ".toList ++ message ++ ['\n']

structure Given where
  switch : Switch
  name : Text
  attached : Option Text
  deriving DecidableEq, Repr

inductive Item where
  | dashes
  | plain (t : Text)
  | unknown (t : Text)
  | given (raw : Text) (g : Given)
  deriving DecidableEq, Repr

def Item.raw : Item → Text
  | .dashes => ['-', '-']
  | .plain t => t
  | .unknown t => t
  | .given raw _ => raw

namespace Grammar

def named? (g : Grammar) (name : Text) : Option Switch := g.switches.find? (·.names.elem name)

def candidates (g : Grammar) (arg : Text) : List Given :=
  g.switches.flatMap fun s => s.names.filterMap fun name =>
    match arg with
    | '-' :: '-' :: _ =>
      match cut? ['='] arg with
      | some (start, value) =>
        if start.isPrefixOf name then some ⟨s, name, some value⟩ else none
      | none => if arg.isPrefixOf name then some ⟨s, name, none⟩ else none
    | _ =>
      if name = arg.take 2 then some ⟨s, name, some (arg.drop 2)⟩
      else if arg.isPrefixOf name then some ⟨s, name, none⟩
      else none

/-- Digits after a hyphen, perhaps with a point before the last of them; one line feed may
follow. -/
def looksNegative (arg : Text) : Bool :=
  let digits (t : Text) : Bool := t != [] && t.all isDigit
  match arg with
  | '-' :: t =>
    let t := if t.getLast? == some '\n' then t.dropLast else t
    match cut? ['.'] t with
    | none => digits t
    | some (whole, part) => whole.all isDigit && digits part
  | _ => false

def classify (g : Grammar) (arg : Text) : Except Usage Item :=
  match arg with
  | [] => .ok (.plain arg)
  | [_] => .ok (.plain arg)
  | c :: _ =>
    if c ≠ '-' then .ok (.plain arg)
    else match g.named? arg with
      | some s => .ok (.given arg ⟨s, arg, none⟩)
      | none =>
        let exact := (cut? ['='] arg).bind fun (name, value) =>
          (g.named? name).map fun s => (⟨s, name, some value⟩ : Given)
        match exact, g.candidates arg with
        | some given, _ => .ok (.given arg given)
        | none, [given] => .ok (.given arg given)
        | none, given :: more =>
          .error (.wrong g.program ("ambiguous option: ".toList ++ arg ++ " could match ".toList
            ++ joined [',', ' '] ((given :: more).map (·.name))))
        | none, [] =>
          if looksNegative arg || arg.elem ' ' then .ok (.plain arg) else .ok (.unknown arg)

/-- After two dashes nothing is a switch. -/
def items (g : Grammar) : List Text → Except Usage (List Item)
  | [] => .ok []
  | arg :: args =>
    if arg = ['-', '-'] then .ok (.dashes :: args.map .plain)
    else do
      let item ← g.classify arg
      let rest ← g.items args
      return item :: rest

def fail {α : Type} (g : Grammar) (s : Switch) (message : Text) : Except Usage α :=
  .error (.wrong g.program ("argument ".toList ++ s.label ++ ": ".toList ++ message))

def ignored {α : Type} (g : Grammar) (s : Switch) (value : Text) : Except Usage α :=
  g.fail s ("ignored explicit argument ".toList ++ quoted value)

end Grammar

structure Parsed where
  switches : List (Switch × Option Text) := []
  positional : Option (List Text) := none
  extras : List Text := []
  deriving DecidableEq, Repr

/-- Several one-letter switches in one argument: those taken, and the last one if nothing is
attached to it. -/
structure Cluster where
  taken : List (Switch × Option Text) := []
  bare : Option Switch := none
  deriving DecidableEq, Repr

namespace Grammar

def cluster (g : Grammar) (s : Switch) (short : Bool) : Text → Except Usage Cluster
  | [] => if s.effect = .value then .ok { taken := [(s, some [])] } else g.ignored s []
  | c :: more =>
    if s.effect = .value then .ok { taken := [(s, some (c :: more))] }
    else if !short then g.ignored s (c :: more)
    else match g.named? ['-', c] with
      | none => g.ignored s (c :: more)
      | some next =>
        match more with
        | [] => .ok { taken := [(s, none)], bare := some next }
        | more => do
          let rest ← g.cluster next true more
          return { rest with taken := (s, none) :: rest.taken }

def isShort (name : Text) : Bool := (name.drop 1).head?.all (· != '-')

def ofGiven (g : Grammar) (given : Given) : Except Usage Cluster :=
  match given.attached with
  | none => .ok { bare := some given.switch }
  | some value => g.cluster given.switch (isShort given.name) value

def takeUp (g : Grammar) (taken : List (Switch × Option Text)) (p : Parsed) :
    Except Usage Parsed :=
  if taken.any (·.1.effect == .help) then .error (.help g.program)
  else .ok { p with switches := p.switches ++ taken }

def setPositional (values : List Text) (p : Parsed) : Parsed := { p with positional := some values }

def addExtras (ts : List Text) (p : Parsed) : Parsed := { p with extras := p.extras ++ ts }

/-- What the argument read last leaves open: two dashes after the positional argument are passed
over with it, and a switch may still be without its value. -/
inductive Open where
  | nothing
  | dashes
  | value (c : Cluster) (s : Switch)
  deriving DecidableEq, Repr

def noValue {α : Type} (g : Grammar) (s : Switch) : Except Usage α :=
  g.fail s "expected one argument".toList

def walk (g : Grammar) (p : Parsed) : Open → List Item → Except Usage Parsed
  | .value _ s, [] => g.noValue s
  | _, [] => .ok p
  | .value c s, .plain value :: rest => do
    g.walk (← g.takeUp (c.taken ++ [(s, some value)]) p) .nothing rest
  | .value _ s, _ :: _ => g.noValue s
  | .dashes, .dashes :: rest => g.walk p .nothing rest
  | _, .dashes :: rest =>
    if p.positional.isSome || rest.isEmpty then
      .ok (addExtras (['-', '-'] :: rest.map Item.raw) p)
    else if g.takesRest then .ok (setPositional (['-', '-'] :: rest.map Item.raw) p)
    else g.walk p .nothing rest
  | _, .plain t :: rest =>
    if p.positional.isSome then g.walk (addExtras [t] p) .nothing rest
    else if g.takesRest then .ok (setPositional (t :: rest.map Item.raw) p)
    else g.walk (setPositional [t] p) .dashes rest
  | _, .unknown t :: rest => g.walk (addExtras [t] p) .nothing rest
  | _, .given _ given :: rest => do
    let c ← g.ofGiven given
    match c.bare with
    | none => g.walk (← g.takeUp c.taken p) .nothing rest
    | some s =>
      if s.effect = .value then g.walk p (.value c s) rest
      else g.walk (← g.takeUp (c.taken ++ [(s, none)]) p) .nothing rest

def parse (g : Grammar) (args : List Text) : Except Usage Parsed := do
  let is ← g.items args
  let p ← g.walk {} .nothing is
  if p.positional.isNone then
    .error (.wrong g.program ("the following arguments are required: ".toList ++ g.positional))
  else return p

end Grammar

end ShaderPipeline.Command
