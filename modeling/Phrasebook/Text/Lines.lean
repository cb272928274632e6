/-! Text as physical lines: splitting at newlines, joining with a separator, repeating a unit. -/
namespace Phrasebook.Text

def segments : List Char → List (List Char)
  | [] => [[]]
  | c :: cs =>
    if c = '\n' then [] :: segments cs
    else
      match segments cs with
      | [] => [[c]]
      | s :: ss => (c :: s) :: ss

theorem segments_ne_nil (cs : List Char) : segments cs ≠ [] := by
  cases cs with
  | nil => simp [segments]
  | cons c cs =>
    rw [segments]
    split
    · simp
    · split <;> simp

def splitLines (text : String) : List String :=
  (segments text.toList).map String.ofList

theorem splitLines_ne_nil (text : String) : splitLines text ≠ [] := by
  simp [splitLines, segments_ne_nil]

def join (separator : String) : List String → String
  | [] => ""
  | [text] => text
  | text :: next :: rest => text ++ separator ++ join separator (next :: rest)

@[simp] theorem join_nil (separator : String) : join separator [] = "" := rfl

@[simp] theorem join_singleton (separator text : String) : join separator [text] = text := rfl

theorem join_cons_cons (separator text next : String) (rest : List String) :
    join separator (text :: next :: rest) = text ++ separator ++ join separator (next :: rest) :=
  rfl

def repeated (unit : String) : Nat → String
  | 0 => ""
  | n + 1 => unit ++ repeated unit n

theorem repeated_add (unit : String) (m n : Nat) :
    repeated unit (m + n) = repeated unit m ++ repeated unit n := by
  induction m with
  | zero => simp [repeated]
  | succ m ih => rw [Nat.succ_add, repeated, ih, repeated, String.append_assoc]

end Phrasebook.Text
