import Phrasebook.Stream.Json

/-! Text inside TOML documents: blanks and comments, the four kinds of strings, and keys. Every
reader gives what it read and the rest, or nothing if the text is not as it should be. -/
namespace Phrasebook.Toml

open Json (hexValue?)

def isBlank (c : Char) : Bool :=
  c = ' ' || c = '\t'

def skipBlanks (cs : List Char) : List Char :=
  cs.dropWhile isBlank

def isPlain (c : Char) : Bool :=
  c = '\t' || (0x20 ≤ c.toNat && c.toNat ≠ 0x7F)

def newline? : List Char → Option (List Char)
  | '\n' :: cs => some cs
  | '\r' :: '\n' :: cs => some cs
  | _ => none

def skipComment (cs : List Char) : List Char :=
  cs.dropWhile isPlain

def lineEnd? (cs : List Char) : Option (List Char) :=
  let rest :=
    match skipBlanks cs with
    | '#' :: cs => skipComment cs
    | cs => cs
  match rest with
  | [] => some []
  | rest => newline? rest

def skipFiller (comment : Bool) : List Char → Option (List Char)
  | [] => some []
  | c :: cs =>
    if c = '\n' then skipFiller false cs
    else if c = '\r' then
      match cs with
      | '\n' :: cs => skipFiller false cs
      | _ => none
    else if comment then
      if isPlain c then skipFiller true cs else none
    else if isBlank c then skipFiller false cs
    else if c = '#' then skipFiller true cs
    else some (c :: cs)

def simpleEscape? : Char → Option Char
  | 'b' => some '\x08'
  | 't' => some '\t'
  | 'n' => some '\n'
  | 'f' => some '\x0c'
  | 'r' => some '\r'
  | '"' => some '"'
  | '\\' => some '\\'
  | _ => none

def scalar? (n : Nat) : Option Char :=
  if n < 0xD800 || (0xDFFF < n && n < 0x110000) then some (Char.ofNat n) else none

abbrev Piece := Option (List Char × List Char)

def Piece.cons (c : Char) (p : Piece) : Piece :=
  p.map fun (piece, rest) => (c :: piece, rest)

def readBasic : List Char → Piece
  | [] => none
  | c :: cs =>
    if c = '"' then some ([], cs)
    else if c = '\\' then
      match cs with
      | 'u' :: a :: b :: d :: e :: cs => do
        Piece.cons (← scalar? (← hexValue? [a, b, d, e])) (readBasic cs)
      | 'U' :: a :: b :: d :: e :: f :: g :: h :: i :: cs => do
        Piece.cons (← scalar? (← hexValue? [a, b, d, e, f, g, h, i])) (readBasic cs)
      | e :: cs => do Piece.cons (← simpleEscape? e) (readBasic cs)
      | [] => none
    else if isPlain c then Piece.cons c (readBasic cs)
    else none

def readLiteral : List Char → Piece
  | [] => none
  | c :: cs =>
    if c = '\'' then some ([], cs)
    else if isPlain c then Piece.cons c (readLiteral cs)
    else none

def endsLine (cs : List Char) : Bool :=
  (newline? (skipBlanks cs)).isSome

def readMultiBasic (skipping : Bool) : List Char → Piece
  | [] => none
  | c :: cs =>
    if skipping && (isBlank c || c = '\n') then readMultiBasic true cs
    else if c = '\r' then
      match cs with
      | '\n' :: cs =>
        if skipping then readMultiBasic true cs
        else Piece.cons '\r' (Piece.cons '\n' (readMultiBasic false cs))
      | _ => none
    else if c = '"' then
      match cs with
      | '"' :: '"' :: '"' :: '"' :: cs => some (['"', '"'], cs)
      | '"' :: '"' :: '"' :: cs => some (['"'], cs)
      | '"' :: '"' :: cs => some ([], cs)
      | cs => Piece.cons '"' (readMultiBasic false cs)
    else if c = '\\' then
      if endsLine cs then readMultiBasic true cs
      else
        match cs with
        | 'u' :: a :: b :: d :: e :: cs => do
          Piece.cons (← scalar? (← hexValue? [a, b, d, e])) (readMultiBasic false cs)
        | 'U' :: a :: b :: d :: e :: f :: g :: h :: i :: cs => do
          Piece.cons (← scalar? (← hexValue? [a, b, d, e, f, g, h, i])) (readMultiBasic false cs)
        | e :: cs => do Piece.cons (← simpleEscape? e) (readMultiBasic false cs)
        | [] => none
    else if c = '\n' || isPlain c then Piece.cons c (readMultiBasic false cs)
    else none

def readMultiLiteral : List Char → Piece
  | [] => none
  | c :: cs =>
    if c = '\r' then
      match cs with
      | '\n' :: cs => Piece.cons '\r' (Piece.cons '\n' (readMultiLiteral cs))
      | _ => none
    else if c = '\'' then
      match cs with
      | '\'' :: '\'' :: '\'' :: '\'' :: cs => some (['\'', '\''], cs)
      | '\'' :: '\'' :: '\'' :: cs => some (['\''], cs)
      | '\'' :: '\'' :: cs => some ([], cs)
      | cs => Piece.cons '\'' (readMultiLiteral cs)
    else if c = '\n' || isPlain c then Piece.cons c (readMultiLiteral cs)
    else none

def dropNewline (cs : List Char) : List Char :=
  (newline? cs).getD cs

def Piece.asString (p : Piece) : Option (String × List Char) :=
  p.map fun (piece, rest) => (String.ofList piece, rest)

def readString : List Char → Option (String × List Char)
  | '"' :: '"' :: '"' :: cs => (readMultiBasic false (dropNewline cs)).asString
  | '\'' :: '\'' :: '\'' :: cs => (readMultiLiteral (dropNewline cs)).asString
  | '"' :: cs => (readBasic cs).asString
  | '\'' :: cs => (readLiteral cs).asString
  | _ => none

def isBare (c : Char) : Bool :=
  c.isAlphanum || c = '_' || c = '-'

def readKeyPart : List Char → Option (String × List Char)
  | '"' :: cs => (readBasic cs).asString
  | '\'' :: cs => (readLiteral cs).asString
  | cs =>
    match cs.takeWhile isBare with
    | [] => none
    | part => some (String.ofList part, cs.dropWhile isBare)

def readParts : (most : Nat) → List Char → Option (List String × List Char)
  | 0, _ => none
  | most + 1, cs => do
    let (part, rest) ← readKeyPart cs
    match skipBlanks rest with
    | '.' :: rest => do
      let (parts, rest) ← readParts most (skipBlanks rest)
      return (part :: parts, rest)
    | _ => return ([part], rest)

def maxParts : Nat := 80

def readKey (cs : List Char) : Option (List String × List Char) :=
  readParts maxParts cs

end Phrasebook.Toml
