import TraceRelay.Text.Quoted
import TraceRelay.Decimal.Integer
/-! Lines of the log: when, how grave, which component, the spans it happened in, and the event. -/
namespace TraceRelay.Log

inductive Level
  | trace | debug | info | warn | error
  deriving DecidableEq, Repr

namespace Level

def name : Level → String
  | trace => "TRACE"
  | debug => "DEBUG"
  | info => "INFO"
  | warn => "WARN"
  | error => "ERROR"

def depth : Level → Nat
  | error => 1
  | warn => 2
  | info => 3
  | debug => 4
  | trace => 5

def ofName? (s : String) : Option Level :=
  [trace, debug, info, warn, error].find? (·.name = s)

end Level

inductive Value
  | text (s : String)
  | number (i : Int)
  | flag (b : Bool)
  deriving DecidableEq, Repr

structure Field where
  name : String
  value : Value
  deriving DecidableEq, Repr

structure Span where
  name : String
  fields : List Field
  deriving DecidableEq, Repr

structure Event where
  level : Level
  target : String
  message : String
  fields : List Field := []
  spans : List Span := []
  deriving DecidableEq, Repr

/-- What stands after the last `::`, written backwards on both sides. -/
def lastSegment : List Char → List Char
  | ':' :: ':' :: _ => []
  | c :: r => c :: lastSegment r
  | [] => []

def component (target : String) : String :=
  String.ofList (lastSegment target.toList.reverse).reverse

def harmless (c : Char) : List Char :=
  let n := c.toNat
  if n = 0x1B ∨ n = 0x07 ∨ n = 0x08 ∨ n = 0x0C ∨ n = 0x7F then '\\' :: 'x' :: Text.hexByte c.toNat.toUInt8
  else if 0x80 ≤ n ∧ n ≤ 0x9F then ['\\', 'u', '\x7b'] ++ Text.hexDigits n ++ ['\x7d']
  else [c]

def harmlessText (s : String) : String := String.ofList (s.toList.flatMap harmless)

def Value.plain : Value → String
  | text s => s
  | number i => Decimal.int i
  | flag b => if b then "true" else "false"

def Value.shown : Value → String
  | text s => Text.quoted s
  | v => v.plain

section

variable (escape : String → String)

def Field.shown? (f : Field) : Option String :=
  if f.name.startsWith "log." then none
  else if f.name = "message" then some (escape f.value.plain)
  else if f.name.startsWith "r#" then
    some (String.ofList (f.name.toList.drop 2) ++ "=" ++ f.value.shown)
  else some (f.name ++ "=" ++ f.value.shown)

def showFields (fs : List Field) : String := String.intercalate " " (fs.filterMap (Field.shown? escape))

def Span.shown (s : Span) : String :=
  let fields := showFields escape s.fields
  s.name ++ (if fields = "" then "" else "\x7b" ++ fields ++ "\x7d") ++ ": "

/-- A line in which `escape` says how messages are shown. -/
def Event.lineBy (time : String) (e : Event) : String :=
  "CAT_AGENT | " ++ time ++ " | " ++ e.level.name ++ " | " ++ component e.target ++ " | " ++
    String.join (e.spans.map (Span.shown escape)) ++
    showFields escape (⟨"message", .text e.message⟩ :: e.fields) ++ "\n"

end

def Event.line (time : String) (e : Event) : String := e.lineBy harmlessText time

end TraceRelay.Log
