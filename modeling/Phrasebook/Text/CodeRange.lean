/-! Ranges of Unicode code points, in which the character classes are written down. -/
namespace Phrasebook.Text

structure CodeRange where
  first : Nat
  last : Nat
deriving DecidableEq, Repr

def CodeRange.contains (r : CodeRange) (c : Char) : Bool :=
  r.first ≤ c.toNat && c.toNat ≤ r.last

def inRanges (rs : List CodeRange) (c : Char) : Bool :=
  rs.any (·.contains c)

end Phrasebook.Text
