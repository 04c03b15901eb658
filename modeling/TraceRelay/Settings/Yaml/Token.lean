import TraceRelay.Settings.Yaml.Tag
/-! What the pieces of a YAML text say, one after the other: where collections begin and end, what is a key and what
a value, and the scalars themselves. -/
namespace TraceRelay.Settings.Yaml

inductive Token
  | directive (d : Directive)
  | documentStart
  | documentEnd
  | blockList
  | blockTable
  | blockEnd
  | flowList
  | flowListEnd
  | flowTable
  | flowTableEnd
  | dash
  | comma
  | key
  | value
  | anchor (name : String)
  | reference (name : String)
  | tag (t : Tag)
  | scalar (plain : Bool) (text : String)
  deriving DecidableEq, Repr

end TraceRelay.Settings.Yaml
