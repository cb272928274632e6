import Phrasebook.Invocation
import Phrasebook.Text.WhiteSpace

/-! The written form of an invocation, `{ name : argument ... }`. -/
namespace Phrasebook

open Text

def isQuoted (cs : List Char) : Bool :=
  cs.head? = some '"' && cs.getLast? = some '"' && 1 < cs.length

def isSpecial (c : Char) : Bool :=
  isWhiteSpace c || c = '\x7b' || c = '\x7d' || c = '(' || c = ')' || c = '"'

def writeLiteral (cs : List Char) : List Char :=
  if isQuoted cs then cs
  else if cs = [] || cs.any isSpecial then '(' :: cs ++ [')']
  else cs

def writeCall (name arguments : List Char) : List Char :=
  ['\x7b', ' '] ++ name ++ (if arguments = [] then [] else [' ', ':'] ++ arguments) ++ [' ', '\x7d']

mutual

def Argument.write : Argument → List Char
  | .literal text => writeLiteral text.toList
  | .nested name arguments => writeCall name.toList (writeAll arguments)

def writeAll : List Argument → List Char
  | [] => []
  | a :: as => ' ' :: a.write ++ writeAll as

end

def Argument.display (a : Argument) : String :=
  String.ofList a.write

def Invocation.write (i : Invocation) : List Char :=
  writeCall i.name.toList (writeAll i.arguments)

def Invocation.display (i : Invocation) : String :=
  String.ofList i.write

end Phrasebook
