import Phrasebook.Toml.Scalar
import Phrasebook.Toml.Tree

/-! Reading TOML documents. -/
namespace Phrasebook.Toml

abbrev ValueReader := List Char → Option (Value × List Char)

def maxDepth : Nat := 80

def readItems (value : ValueReader) : (fuel : Nat) → List Char → Option (List Value × List Char)
  | 0, _ => none
  | fuel + 1, cs => do
    match ← skipFiller false cs with
    | ']' :: rest => return ([], rest)
    | cs =>
      let (v, rest) ← value cs
      match ← skipFiller false rest with
      | ',' :: rest => do
        let (vs, rest) ← readItems value fuel rest
        return (v :: vs, rest)
      | ']' :: rest => return ([v], rest)
      | _ => none

def readPair (value : ValueReader) (cs : List Char) :
    Option (List String × Value × List Char) := do
  let (keys, rest) ← readKey cs
  match skipBlanks rest with
  | '=' :: rest => do
    let (v, rest) ← value (skipBlanks rest)
    return (keys, v, rest)
  | _ => none

def readPairs (value : ValueReader) (es : Entries) :
    (fuel : Nat) → List Char → Option (Entries × List Char)
  | 0, _ => none
  | fuel + 1, cs => do
    let (keys, v, rest) ← readPair value (skipBlanks cs)
    let es ← assign v true keys es
    match skipBlanks rest with
    | ',' :: rest => readPairs value es fuel rest
    | '\x7d' :: rest => return (es, rest)
    | _ => none

def readValue : (depth : Nat) → ValueReader
  | depth, '[' :: cs =>
    match depth with
    | 0 => none
    | depth + 1 => do
      let (vs, rest) ← readItems (readValue depth) (cs.length + 1) cs
      return (.array vs, rest)
  | depth, '\x7b' :: cs =>
    match depth with
    | 0 => none
    | depth + 1 =>
      match skipBlanks cs with
      | '\x7d' :: rest => return (.table [], rest)
      | _ => do
        let (es, rest) ← readPairs (readValue depth) [] (cs.length + 1) cs
        return (.table (tableOf es), rest)
  | _, '"' :: cs => (readString ('"' :: cs)).map fun (s, rest) => (.string s, rest)
  | _, '\'' :: cs => (readString ('\'' :: cs)).map fun (s, rest) => (.string s, rest)
  | _, cs => readScalar cs

def readHeader (closing : List Char) (cs : List Char) : Option (List String × List Char) := do
  let (keys, rest) ← readKey (skipBlanks cs)
  let rest := skipBlanks rest
  if closing.isPrefixOf rest then return (keys, rest.drop closing.length) else none

/-- The lines of a document, given what has been read and the table that is being read. Every line
takes a character, so that a `fuel` greater than the length of the text is enough. -/
def readLines : (fuel : Nat) → Entries → (table : List String) → List Char → Option Entries
  | 0, _, _, _ => none
  | fuel + 1, es, table, cs => do
    match ← skipFiller false cs with
    | [] => return es
    | '[' :: '[' :: cs => do
      let (path, rest) ← readHeader [']', ']'] cs
      readLines fuel (← startSeries path es) path (← lineEnd? rest)
    | '[' :: cs => do
      let (path, rest) ← readHeader [']'] cs
      readLines fuel (← startTable path es) path (← lineEnd? rest)
    | cs => do
      let (keys, v, rest) ← readPair (readValue maxDepth) cs
      readLines fuel (← assignIn table keys v es) table (← lineEnd? rest)

def dateKey : String := "$__toml_private_datetime"

/-- What spells a date, if it is a date that the table stands for: its first key says so, and the
keys after that do not count. -/
def dateSpelling? : Table → Option Value
  | [] => none
  | (key, v) :: _ => if key = dateKey then some v else none

mutual

def Value.withDates : Value → Option Value
  | .array items => (allWithDates items).map .array
  | .table entries =>
    match dateSpelling? entries with
    | some (.string text) => (datetime? text.toList).map .datetime
    | some _ => none
    | none => (entriesWithDates entries).map .table
  | v => some v

def allWithDates : List Value → Option (List Value)
  | [] => some []
  | v :: vs => do return (← v.withDates) :: (← allWithDates vs)

def entriesWithDates : List (String × Value) → Option (List (String × Value))
  | [] => some []
  | (key, v) :: rest => do return (key, ← v.withDates) :: (← entriesWithDates rest)

end

def parse (text : String) : Option Table :=
  let cs :=
    match text.toList with
    | '\ufeff' :: cs => cs
    | cs => cs
  (readLines (cs.length + 1) [] [] cs).bind (entriesWithDates <| tableOf ·)

end Phrasebook.Toml
