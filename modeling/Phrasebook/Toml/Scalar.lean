import Phrasebook.Toml.Text
import Phrasebook.Toml.Value

/-! Values of TOML documents that are written without quotes or brackets: truth values, whole
numbers, floating-point numbers, dates and times. -/
namespace Phrasebook.Toml

def isScalarChar (c : Char) : Bool :=
  c.isAlphanum || c = '_' || c = '-' || c = '+' || c = '.' || c = ':'

def isDecimal (c : Char) : Bool :=
  c.isDigit

def digits? (isDigit : Char → Bool) : List Char → Option (List Char)
  | [] => none
  | [c] => if isDigit c then some [c] else none
  | c :: '_' :: cs => if isDigit c then (digits? isDigit cs).map (c :: ·) else none
  | c :: cs => if isDigit c then (digits? isDigit cs).map (c :: ·) else none

def decimalValue (cs : List Char) : Nat :=
  cs.foldl (fun n c => 10 * n + (c.toNat - '0'.toNat)) 0

def wholeDigits? (cs : List Char) : Option (List Char) := do
  match ← digits? isDecimal cs with
  | '0' :: _ :: _ => none
  | ds => some ds

def splitSign : List Char → Bool × List Char
  | '-' :: cs => (true, cs)
  | '+' :: cs => (false, cs)
  | cs => (false, cs)

def int64? (n : Int) : Option Int :=
  if -(Int.pow 2 63) ≤ n ∧ n < Int.pow 2 63 then some n else none

def radixInteger? (base : Nat) (isDigit : Char → Bool) (cs : List Char) : Option Int := do
  let ds ← digits? isDigit cs
  let n ← ds.foldlM (fun n c => (Json.hexDigit? c).map (base * n + ·)) 0
  int64? n

def integer? : List Char → Option Int
  | '0' :: 'x' :: cs => radixInteger? 16 (fun c => (Json.hexDigit? c).isSome) cs
  | '0' :: 'o' :: cs => radixInteger? 8 (fun c => '0' ≤ c && c ≤ '7') cs
  | '0' :: 'b' :: cs => radixInteger? 2 (fun c => c = '0' || c = '1') cs
  | cs => do
    let (negative, cs) := splitSign cs
    let n := decimalValue (← wholeDigits? cs)
    int64? (if negative then -(n : Int) else n)

def isExponentMark (c : Char) : Bool :=
  c = 'e' || c = 'E'

def exponent? : List Char → Option Int
  | [] => some 0
  | _ :: cs => do
    let (negative, cs) := splitSign cs
    let n := decimalValue (← digits? isDecimal cs)
    return if negative then -(n : Int) else n

def fraction? : List Char → Option (List Char)
  | [] => some []
  | _ :: cs => digits? isDecimal cs

def float? (cs : List Char) : Option Binary64 := do
  let (negative, cs) := splitSign cs
  if cs = ['i', 'n', 'f'] then return .infinity negative
  else if cs = ['n', 'a', 'n'] then return .nan
  else
    let number := cs.takeWhile (!isExponentMark ·)
    let mark := cs.dropWhile (!isExponentMark ·)
    let whole := number.takeWhile (· ≠ '.')
    let point := number.dropWhile (· ≠ '.')
    if mark = [] && point = [] then none
    else
      let whole ← wholeDigits? whole
      let fraction ← fraction? point
      let exponent ← exponent? mark
      Binary64.ofDecimal negative (decimalValue (whole ++ fraction)) (exponent - fraction.length)

def twoDigits? (low high : Nat) (a b : Char) : Option Nat :=
  let n := decimalValue [a, b]
  if a.isDigit && b.isDigit && low ≤ n && n ≤ high then some n else none

def isLeapYear (year : Nat) : Bool :=
  year % 4 = 0 && (year % 100 ≠ 0 || year % 400 = 0)

def daysIn (year month : Nat) : Nat :=
  if month = 2 then if isLeapYear year then 29 else 28
  else if month = 4 || month = 6 || month = 9 || month = 11 then 30
  else 31

def readDate : List Char → Piece
  | y₁ :: y₂ :: y₃ :: y₄ :: '-' :: m₁ :: m₂ :: '-' :: d₁ :: d₂ :: rest => do
    let year := [y₁, y₂, y₃, y₄]
    if year.all isDecimal then
      let month ← twoDigits? 1 12 m₁ m₂
      let _ ← twoDigits? 1 (daysIn (decimalValue year) month) d₁ d₂
      return ([y₁, y₂, y₃, y₄, '-', m₁, m₂, '-', d₁, d₂], rest)
    else none
  | _ => none

def fractionText (ds : List Char) : List Char :=
  match ((ds.take 9).reverse.dropWhile (· = '0')).reverse with
  | [] => []
  | ds => '.' :: ds

def readTime : List Char → Piece
  | h₁ :: h₂ :: ':' :: m₁ :: m₂ :: ':' :: s₁ :: s₂ :: rest => do
    let _ ← twoDigits? 0 23 h₁ h₂
    let _ ← twoDigits? 0 59 m₁ m₂
    let _ ← twoDigits? 0 60 s₁ s₂
    let clock := [h₁, h₂, ':', m₁, m₂, ':', s₁, s₂]
    match rest with
    | '.' :: rest =>
      match rest.takeWhile isDecimal with
      | [] => none
      | ds => return (clock ++ fractionText ds, rest.dropWhile isDecimal)
    | rest => return (clock, rest)
  | _ => none

def offset? : List Char → Option (List Char)
  | [] => some []
  | ['Z'] | ['z'] => some ['Z']
  | [sign, h₁, h₂, ':', m₁, m₂] => do
    let hour ← twoDigits? 0 23 h₁ h₂
    let minute ← twoDigits? 0 59 m₁ m₂
    if sign = '-' && (hour, minute) ≠ (0, 0) then return ['-', h₁, h₂, ':', m₁, m₂]
    else if sign = '+' || sign = '-' then return ['+', h₁, h₂, ':', m₁, m₂]
    else none
  | _ => none

def datetime? (cs : List Char) : Option String := do
  match readDate cs with
  | some (date, []) => return String.ofList date
  | some (date, mark :: rest) =>
    if mark = 'T' || mark = 't' || mark = ' ' then
      let (time, rest) ← readTime rest
      return String.ofList (date ++ 'T' :: time ++ (← offset? rest))
    else none
  | none =>
    match readTime cs with
    | some (time, []) => return String.ofList time
    | _ => none

def scalarOf? (cs : List Char) : Option Value :=
  if cs = "true".toList then some (.boolean true)
  else if cs = "false".toList then some (.boolean false)
  else
    (integer? cs).map .integer <|> (float? cs).map .float <|> (datetime? cs).map .datetime

def readScalar (cs : List Char) : Option (Value × List Char) := do
  let word := cs.takeWhile isScalarChar
  let rest := cs.dropWhile isScalarChar
  match readDate word, rest with
  | some (_, []), ' ' :: c :: more =>
    if c.isDigit then
      let time := (c :: more).takeWhile isScalarChar
      return (← scalarOf? (word ++ ' ' :: time), (c :: more).dropWhile isScalarChar)
    else return (← scalarOf? word, rest)
  | _, _ => return (← scalarOf? word, rest)

end Phrasebook.Toml
