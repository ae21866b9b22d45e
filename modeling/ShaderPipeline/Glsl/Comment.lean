import ShaderPipeline.Text.Blank

namespace ShaderPipeline.Glsl

open Text

def lineMark : Text := ['/', '/']
def openMark : Text := ['/', '*']
def closeMark : Text := ['*', '/']

/-- How many characters of the text a block comment takes that is already open at its start,
its closing mark counted; none if it does not close on this line. -/
def closedWithin? : Text → Option Nat
  | [] => none
  | c :: t =>
    if c = '\n' then none
    else match after? closeMark (c :: t) with
      | some _ => some 2
      | none => (closedWithin? t).map (· + 1)

/-- Put one space for each block comment that closes on its line; `skip` characters of a comment
already replaced are still to be passed over. -/
def dropBlocksFrom : (skip : Nat) → Text → Text
  | _, [] => []
  | skip + 1, _ :: t => dropBlocksFrom skip t
  | 0, c :: t =>
    match (after? openMark (c :: t)).bind closedWithin? with
    | some n => ' ' :: dropBlocksFrom (n + 1) t
    | none => c :: dropBlocksFrom 0 t

def dropBlocks (t : Text) : Text := dropBlocksFrom 0 t

def stripLine (line : Text) : Text := before lineMark (dropBlocks line)

/-- The live part of a line that starts outside a comment, and whether a block is open at its
end. -/
def liveLine (line : Text) : Text × Bool :=
  match cut? openMark (stripLine line) with
  | some (head, _) => (trim head, true)
  | none => (trim (stripLine line), false)

/-- The live parts of the lines, and whether a block is open after the last. A line that is
comment from end to end has none. -/
def liveFrom : (inBlock : Bool) → List Text → List Text × Bool
  | inBlock, [] => ([], inBlock)
  | false, line :: rest =>
    let (live, inBlock) := liveLine line
    let (lives, inBlock) := liveFrom inBlock rest
    (live :: lives, inBlock)
  | true, line :: rest =>
    match cut? closeMark line with
    | none => liveFrom true rest
    | some (_, line) =>
      let (live, inBlock) := liveLine line
      let (lives, inBlock) := liveFrom inBlock rest
      (live :: lives, inBlock)

def liveLines (source : Text) : List Text := (liveFrom false (lines source)).1

def leavesBlockOpen (source : Text) : Bool := (liveFrom false (lines source)).2

end ShaderPipeline.Glsl
