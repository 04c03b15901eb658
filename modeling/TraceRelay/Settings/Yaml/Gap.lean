import TraceRelay.Settings.Yaml.Glyph
/-! Blanks and line breaks between two words of a scalar. On one line they stand as they are; a single line feed
folds into a space, and of several breaks the first is left out if it is a line feed. -/
namespace TraceRelay.Settings.Yaml

structure Gap where
  blanks : List Char := []
  broken : Bool := false
  first : Option Char := none
  later : List Char := []
  deriving DecidableEq, Repr

namespace Gap

def isEmpty (g : Gap) : Bool := g.blanks.isEmpty && !g.broken

def joined : Gap := { broken := true }

def add (c : Char) (g : Gap) : Gap :=
  if isBreak c then
    if g.broken then { g with later := c :: g.later } else { broken := true, first := some c }
  else if g.broken then g
  else { g with blanks := c :: g.blanks }

def folded (g : Gap) : List Char :=
  if g.broken then
    match g.first with
    | some '\n' => if g.later.isEmpty then [' '] else g.later
    | some b => g.later ++ [b]
    | none => g.later
  else g.blanks

end Gap

end TraceRelay.Settings.Yaml
