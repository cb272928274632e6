import Phrasebook.Text.CaseTables

/-! Upper and lower case of text by the full Unicode mappings, which may turn one character into
several, and by the rule for the sigma at the end of a word. -/
namespace Phrasebook.Text

def shifted (runs : List CaseRun) (c : Char) : Char :=
  match runs.find? (·.covers c) with
  | some r => Char.ofNat (c.toNat + r.shift).toNat
  | none => c

def mapped (special : List (Nat × List Nat)) (runs : List CaseRun) (c : Char) : List Char :=
  match special.lookup c.toNat with
  | some ns => ns.map Char.ofNat
  | none => [shifted runs c]

def lowerChar (c : Char) : List Char :=
  mapped lowerSpecial lowerRuns c

def upperChar (c : Char) : List Char :=
  mapped upperSpecial upperRuns c

def meetsCased (cs : List Char) : Bool :=
  match cs.dropWhile (inRanges caseIgnorableRanges) with
  | c :: _ => inRanges casedRanges c
  | [] => false

def lowerSigma (before after : List Char) : Char :=
  if meetsCased before && !meetsCased after then 'ς' else 'σ'

/-- Lower case of the second list, where the first is the text before it, last character first. -/
def lowerFrom : List Char → List Char → List Char
  | _, [] => []
  | before, c :: after =>
    (if c = 'Σ' then [lowerSigma before after] else lowerChar c) ++ lowerFrom (c :: before) after

def lowercase (text : String) : String :=
  String.ofList (lowerFrom [] text.toList)

def uppercase (text : String) : String :=
  String.ofList (text.toList.flatMap upperChar)

def capitalize (text : String) : String :=
  match text.toList with
  | [] => ""
  | c :: cs => String.ofList (upperChar c ++ lowerFrom [] cs)

end Phrasebook.Text
