import Phrasebook.Text.CodeRange

/-! White space, which is the Unicode property of that name, and trimming by it. -/
namespace Phrasebook.Text

def whiteSpaceRanges : List CodeRange :=
  [⟨0x9, 0xD⟩, ⟨0x20, 0x20⟩, ⟨0x85, 0x85⟩, ⟨0xA0, 0xA0⟩, ⟨0x1680, 0x1680⟩, ⟨0x2000, 0x200A⟩,
   ⟨0x2028, 0x2029⟩, ⟨0x202F, 0x202F⟩, ⟨0x205F, 0x205F⟩, ⟨0x3000, 0x3000⟩]

def isWhiteSpace (c : Char) : Bool :=
  inRanges whiteSpaceRanges c

def skipWhiteSpace (cs : List Char) : List Char :=
  cs.dropWhile isWhiteSpace

def dropTrailing (cs : List Char) : List Char :=
  (skipWhiteSpace cs.reverse).reverse

def trimmed (cs : List Char) : List Char :=
  dropTrailing (skipWhiteSpace cs)

def trim (text : String) : String :=
  String.ofList (trimmed text.toList)

def trimEnd (text : String) : String :=
  String.ofList (dropTrailing text.toList)

theorem toList_trim (text : String) : (trim text).toList = trimmed text.toList := by
  simp [trim]

theorem toList_trimEnd (text : String) : (trimEnd text).toList = dropTrailing text.toList := by
  simp [trimEnd]

end Phrasebook.Text
