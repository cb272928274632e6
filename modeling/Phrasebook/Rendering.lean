import Phrasebook.Signature

/-! Renderings: the lines a command turns into. Every line carries a change of indentation for
what comes after it. -/
namespace Phrasebook

open Text

structure Line where
  text : String
  -- What is added to the level of the lines after this one.
  delta : Int
deriving DecidableEq, Repr

/-- A marker changes the level and writes nothing. -/
def Line.isMarker (l : Line) : Bool :=
  l.text = "" && l.delta ≠ 0

structure Rendering where
  lines : List Line
  -- Whether the last line is to be ended as the language ends statements.
  isStatement : Bool
deriving DecidableEq, Repr

namespace Rendering

def empty (isStatement : Bool) : Rendering :=
  ⟨[], isStatement⟩

def single (text : String) (delta : Int) : Rendering :=
  ⟨[⟨text, delta⟩], false⟩

def line (text : String) : Rendering :=
  single text 0

def statement (text : String) : Rendering :=
  ⟨[⟨text, 0⟩], true⟩

def push (r : Rendering) (text : String) (delta : Int) : Rendering :=
  { r with lines := r.lines ++ [⟨text, delta⟩] }

def marker (r : Rendering) (delta : Int) : Rendering :=
  r.push "" delta

def linesOf (delta : Int) : List String → List Line
  | [] => []
  | [text] => [⟨text, delta⟩]
  | text :: next :: rest => ⟨text, 0⟩ :: linesOf delta (next :: rest)

def pushText (r : Rendering) (text : String) (delta : Int) : Rendering :=
  { r with lines := r.lines ++ linesOf delta (splitLines text) }

def appendLast (text : String) : List Line → List Line
  | [] => [⟨text, 0⟩]
  | [l] => [⟨l.text ++ text, l.delta⟩]
  | l :: next :: rest => l :: appendLast text (next :: rest)

def append (r : Rendering) (text : String) : Rendering :=
  { r with lines := appendLast text r.lines }

def shiftLast (delta : Int) : List Line → List Line
  | [] => [⟨"", delta⟩]
  | [l] => [⟨l.text, l.delta + delta⟩]
  | l :: next :: rest => l :: shiftLast delta (next :: rest)

def appendText (text : String) (lines : List Line) : List Line :=
  match splitLines text with
  | [] => lines
  | first :: rest => appendLast first lines ++ rest.map fun segment => ⟨segment, 0⟩

def close (r : Rendering) (ender : String) (delta : Int) : Rendering :=
  { r with lines := shiftLast delta (appendText ender r.lines) }

/-- The text of the first line that is written, which is what stands in an expression. -/
def firstText (r : Rendering) : String :=
  match r.lines.find? (!·.isMarker) with
  | some l => l.text
  | none => ""

def net (r : Rendering) : Int :=
  total (r.lines.map (·.delta))

def lineCount (r : Rendering) : Nat :=
  (r.lines.filter (!·.isMarker)).length

end Rendering

end Phrasebook
