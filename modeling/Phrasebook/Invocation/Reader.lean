import Phrasebook.Invocation
import Phrasebook.Text.WhiteSpace

/-! Reading invocations. A name runs to the first colon or closing brace. Arguments are set apart by
white space: a parenthesised group stands for what is inside it, a double-quoted string keeps its
quotes, braces hold another invocation, and anything else is a word. -/
namespace Phrasebook

open Text

inductive Fault where
  | notOpened (found : Option Char)
  | braceInName
  | nameless
  | notClosed
  | openGroup
  | openString
  | tooDeep
  | trailingText
deriving DecidableEq, Repr

def Fault.reason : Fault → String
  | .notOpened (some c) => "expected '\x7b', found '" ++ c.toString ++ "'"
  | .notOpened none => "expected '\x7b', found the end"
  | .braceInName => "unexpected '\x7b' in a command name"
  | .nameless => "a command needs a name"
  | .notClosed => "missing closing brace"
  | .openGroup => "unbalanced parentheses"
  | .openString => "unterminated string"
  | .tooDeep => s!"nesting exceeds {Invocation.maxNesting} levels"
  | .trailingText => "unexpected text after the closing brace"

structure Malformed where
  text : String
  fault : Fault
deriving DecidableEq, Repr

namespace Reader

abbrev Piece := Except Fault (List Char × List Char)

def Piece.cons (c : Char) (p : Piece) : Piece :=
  p.map fun (piece, rest) => (c :: piece, rest)

def readName : List Char → Piece
  | [] => .error .notClosed
  | c :: cs =>
    if c = ':' || c = '\x7d' then .ok ([], c :: cs)
    else if c = '\x7b' then .error .braceInName
    else Piece.cons c (readName cs)

def readGroup : (inner : Nat) → List Char → Piece
  | _, [] => .error .openGroup
  | inner, c :: cs =>
    if c = ')' then
      match inner with
      | 0 => .ok ([], cs)
      | inner + 1 => Piece.cons c (readGroup inner cs)
    else if c = '(' then Piece.cons c (readGroup (inner + 1) cs)
    else Piece.cons c (readGroup inner cs)

def readString : List Char → Piece
  | [] => .error .openString
  | '"' :: cs => .ok (['"'], cs)
  | ['\\'] => .error .openString
  | '\\' :: c :: cs => Piece.cons '\\' (Piece.cons c (readString cs))
  | c :: cs => Piece.cons c (readString cs)

def isWordChar (c : Char) : Bool :=
  !isWhiteSpace c && c ≠ '\x7d' && c ≠ '\x7b'

def readWord (cs : List Char) : List Char × List Char :=
  (cs.takeWhile isWordChar, cs.dropWhile isWordChar)

def literalOf (p : List Char × List Char) : Argument × List Char :=
  (.literal (String.ofList p.1), p.2)

def readArgument (invocation : List Char → Except Fault (Invocation × List Char)) :
    List Char → Except Fault (Argument × List Char)
  | '\x7b' :: cs => do
    let (i, rest) ← invocation ('\x7b' :: cs)
    return (i.asArgument, rest)
  | '(' :: cs => (readGroup 0 cs).map literalOf
  | '"' :: cs => (Piece.cons '"' (readString cs)).map literalOf
  | cs => .ok (literalOf (readWord cs))

/-- The arguments up to and over the closing brace. Every argument takes a character, so that a
`fuel` greater than the length of the text is enough. -/
def readArguments (invocation : List Char → Except Fault (Invocation × List Char)) :
    (fuel : Nat) → List Char → Except Fault (List Argument × List Char)
  | 0, _ => .error .notClosed
  | fuel + 1, cs =>
    match skipWhiteSpace cs with
    | [] => .error .notClosed
    | '\x7d' :: rest => .ok ([], rest)
    | c :: rest => do
      let (a, rest) ← readArgument invocation (c :: rest)
      let (as, rest) ← readArguments invocation fuel rest
      return (a :: as, rest)

def readInvocation : (levels : Nat) → List Char → Except Fault (Invocation × List Char)
  | 0, _ => .error .tooDeep
  | _ + 1, [] => .error (.notOpened none)
  | levels + 1, c :: cs =>
    if c = '\x7b' then do
      let (name, rest) ← readName cs
      if trimmed name = [] then .error .nameless
      else
        match rest with
        | ':' :: rest => do
          let (arguments, rest) ← readArguments (readInvocation levels) (rest.length + 1) rest
          return (⟨String.ofList (trimmed name), arguments⟩, rest)
        | _ => return (⟨String.ofList (trimmed name), []⟩, rest.tail)
    else .error (.notOpened (some c))

def readWhole (cs : List Char) : Except Fault Invocation := do
  let (i, rest) ← readInvocation Invocation.maxNesting cs
  if skipWhiteSpace rest = [] then return i else .error .trailingText

end Reader

def Invocation.parse (text : String) : Except Malformed Invocation :=
  match Reader.readWhole (Text.trimmed text.toList) with
  | .ok i => .ok i
  | .error fault => .error ⟨Text.trim text, fault⟩

/-- A raw argument in braces is a nested invocation; any other stands for itself, untrimmed. -/
def Argument.ofRaw (raw : String) : Except Malformed Argument :=
  let cs := Text.trimmed raw.toList
  if cs.head? = some '\x7b' && cs.getLast? = some '\x7d' then
    (Invocation.parse raw).map Invocation.asArgument
  else .ok (.literal raw)

def Invocation.ofRaw : List String → Except Malformed Invocation
  | [] => .error ⟨"", .nameless⟩
  | name :: raw =>
    if Text.trim name = "" then .error ⟨"", .nameless⟩
    else do
      let arguments ← raw.mapM Argument.ofRaw
      return ⟨Text.trim name, arguments⟩

end Phrasebook
