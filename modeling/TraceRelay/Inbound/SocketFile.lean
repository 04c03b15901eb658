import TraceRelay.Inbound.Place
import TraceRelay.Text.Split
import TraceRelay.Text.Utf8
/-! Whether a socket file can be put at a path. What is there already is removed first, which works for a file and
not for a folder; then the file needs a folder to stand in and a path that is short enough. -/
namespace TraceRelay.Inbound.SocketFile
open Text (utf8 splitOn)

inductive Entry
  | folder
  | file
  deriving DecidableEq, Repr

abbrev Surroundings := List String → Option Entry

inductive Obstacle
  | zeroByte
  | isFolder
  | notFolder
  | missing
  | longName
  | longPath
  deriving DecidableEq, Repr

def Obstacle.cause : Obstacle → String
  | zeroByte => "file name contained an unexpected NUL byte"
  | isFolder => "Is a directory (os error 21)"
  | notFolder => "Not a directory (os error 20)"
  | missing => "No such file or directory (os error 2)"
  | longName => "File name too long (os error 36)"
  | longPath => "path must be shorter than SUN_LEN"

/-- Bytes of one name in a path. -/
def longestName : Nat := 255

/-- Bytes of any path. -/
def longestLookup : Nat := 4095

/-- Bytes of the path of a socket file. -/
def longestPath : Nat := 107

def steps (path : String) : List String :=
  let names := ((splitOn '/' path.toList).map String.ofList).filter fun s => s ≠ "" ∧ s ≠ "."
  if path.startsWith "/" then "/" :: names else names

def onTheWay (around : Surroundings) (before : List String) : List String → Option Obstacle
  | [] => none
  | name :: rest =>
    if longestName < (utf8 name).length then some .longName
    else if rest = [] then none
    else match around (before ++ [name]) with
      | none => some .missing
      | some .file => some .notFolder
      | some .folder => onTheWay around (before ++ [name]) rest

def endsAsFolder (path : String) : Bool :=
  ["", ".", ".."].contains (String.ofList (((splitOn '/' path.toList).getLast?).getD []))

def atTheEnd (around : Surroundings) (path : String) : Option Obstacle :=
  match around (steps path) with
  | some .folder => some .isFolder
  | some .file => if endsAsFolder path then some .notFolder else none
  | none => if endsAsFolder path then some .missing else none

def obstacle? (around : Surroundings) (path : String) : Option Obstacle :=
  let length := (utf8 path).length
  if '\x00' ∈ path.toList then some .zeroByte
  else if path = "" then none
  else if longestLookup < length then some .longName
  else
    let found := (onTheWay around [] (steps path)).orElse fun _ => atTheEnd around path
    let missing := found.isNone || found == some .missing
    if missing && longestPath < length then some .longPath else found

end TraceRelay.Inbound.SocketFile
