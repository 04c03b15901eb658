import TraceRelay.Settings.Yaml.Gap
/-! Scalars without quotes. They end where their indentation does, at a colon that ends its word, at a comment, at a
document mark, and inside brackets at the marks of those. -/
namespace TraceRelay.Settings.Yaml

structure PlainScalar where
  text : String
  endedLine : Bool
  rest : List Glyph
  deriving DecidableEq, Repr

def startsPlain (flow : Bool) (gs : List Glyph) : Bool :=
  let c := charAt gs 0
  let next := charAt gs 1
  if c == '-' then !isBlank next
  else if c == '?' || c == ':' then !flow && !endsWord next
  else !(endsWord c || isFlowMark c || "#&*!|>'\"%@\x60".toList.contains c)

def overAfterGap (flow : Bool) (least : Nat) (g : Glyph) (r : List Glyph) : Bool :=
  (!flow && g.column < least) || g.char == '#' || startsDocumentMark (g :: r)

def strayColon (flow : Bool) (c next : Char) : Bool :=
  flow && c == ':' && (isFlowMark next || next == '?')

/-- Lines after the first start at column `least` or behind it; outside brackets, what stands before it is no
longer part of the scalar. -/
def plainFrom? (flow : Bool) (least : Nat) (text : List Char) (gap : Gap) :
    List Glyph → Option PlainScalar
  | [] => none
  | g :: r =>
    let c := g.char
    if isBlank c || isBreak c then
      if gap.broken && c == '\t' && g.column < least then none
      else plainFrom? flow least text (gap.add c) r
    else
      let next := charAt r 0
      if c == ending || (!gap.isEmpty && overAfterGap flow least g r) then
        some ⟨String.ofList text.reverse, gap.broken, g :: r⟩
      else if strayColon flow c next then none
      else if (c == ':' && endsWord next) || (flow && isFlowMark c) then
        some ⟨String.ofList text.reverse, gap.broken, g :: r⟩
      else plainFrom? flow least (c :: (gap.folded ++ text)) {} r

def plain? (flow : Bool) (least : Nat) (gs : List Glyph) : Option PlainScalar :=
  if startsPlain flow gs then plainFrom? flow least [] {} gs else none

end TraceRelay.Settings.Yaml
