/-! Lists of lists of strings in strict JSON: no trailing commas, no raw control characters in
strings, and no surrogate escape without its partner. -/
namespace Phrasebook.Json

def isBlank (c : Char) : Bool :=
  c = ' ' || c = '\t' || c = '\n' || c = '\r'

def skipBlanks (cs : List Char) : List Char :=
  cs.dropWhile isBlank

def hexDigit? (c : Char) : Option Nat :=
  if '0' ≤ c ∧ c ≤ '9' then some (c.toNat - '0'.toNat)
  else if 'a' ≤ c ∧ c ≤ 'f' then some (c.toNat - 'a'.toNat + 10)
  else if 'A' ≤ c ∧ c ≤ 'F' then some (c.toNat - 'A'.toNat + 10)
  else none

def hexValue? (digits : List Char) : Option Nat :=
  digits.foldlM (fun n c => (hexDigit? c).map (16 * n + ·)) 0

def simpleEscape? : Char → Option Char
  | '"' => some '"'
  | '\\' => some '\\'
  | '/' => some '/'
  | 'b' => some '\x08'
  | 'f' => some '\x0c'
  | 'n' => some '\n'
  | 'r' => some '\r'
  | 't' => some '\t'
  | _ => none

def isHighSurrogate (n : Nat) : Bool := 0xD800 ≤ n && n < 0xDC00

def isLowSurrogate (n : Nat) : Bool := 0xDC00 ≤ n && n < 0xE000

def pairSurrogates (high low : Nat) : Char :=
  Char.ofNat (0x10000 + (high - 0xD800) * 0x400 + (low - 0xDC00))

def readString (waiting : Option Nat) : List Char → Option (List Char × List Char)
  | [] => none
  | c :: cs =>
    if c = '\\' then
      match cs with
      | 'u' :: a :: b :: d :: e :: cs => do
        let unit ← hexValue? [a, b, d, e]
        match waiting with
        | some high =>
          if isLowSurrogate unit then
            (readString none cs).map fun (s, rest) => (pairSurrogates high unit :: s, rest)
          else none
        | none =>
          if isHighSurrogate unit then readString (some unit) cs
          else if isLowSurrogate unit then none
          else (readString none cs).map fun (s, rest) => (Char.ofNat unit :: s, rest)
      | e :: cs =>
        match waiting, simpleEscape? e with
        | none, some c => (readString none cs).map fun (s, rest) => (c :: s, rest)
        | _, _ => none
      | [] => none
    else if waiting.isSome then none
    else if c = '"' then some ([], cs)
    else if c.toNat < 0x20 then none
    else (readString none cs).map fun (s, rest) => (c :: s, rest)

def readText : List Char → Option (String × List Char)
  | '"' :: cs => (readString none cs).map fun (s, rest) => (String.ofList s, rest)
  | _ => none

def readMore {α : Type} (item : List Char → Option (α × List Char)) :
    (fuel : Nat) → List Char → Option (List α × List Char)
  | 0, _ => none
  | fuel + 1, cs =>
    match skipBlanks cs with
    | ']' :: rest => some ([], rest)
    | ',' :: rest => do
      let (x, rest) ← item (skipBlanks rest)
      let (xs, rest) ← readMore item fuel rest
      return (x :: xs, rest)
    | _ => none

def readList {α : Type} (fuel : Nat) (item : List Char → Option (α × List Char)) :
    List Char → Option (List α × List Char)
  | '[' :: cs =>
    match skipBlanks cs with
    | ']' :: rest => some ([], rest)
    | cs => do
      let (x, rest) ← item cs
      let (xs, rest) ← readMore item fuel rest
      return (x :: xs, rest)
  | _ => none

def parseRows (text : String) : Option (List (List String)) := do
  let cs := text.toList
  let (rows, rest) ← readList cs.length (readList cs.length readText) (skipBlanks cs)
  if skipBlanks rest = [] then return rows else none

end Phrasebook.Json
