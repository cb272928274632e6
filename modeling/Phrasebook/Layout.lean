import Phrasebook.Resolve

/-! Layout of a unit: the lines of its invocations one after another, each indented by what the
lines before it add up to. -/
namespace Phrasebook

open Text

def terminate (ending : String) : List Line → List Line
  | [] => []
  | l :: ls =>
    if l.isMarker || ls.any (!·.isMarker) then l :: terminate ending ls
    else ⟨l.text ++ ending, l.delta⟩ :: ls

def indented (unit : String) (level : Int) (text : String) : String :=
  if text = "" then "" else repeated unit level.toNat ++ text

structure Page where
  lines : List String
  level : Int

namespace Page

def start : Page :=
  ⟨[], 0⟩

def place (unit : String) (page : Page) (l : Line) : Except RenderError Page :=
  let lines :=
    if l.isMarker then page.lines else page.lines ++ [indented unit page.level l.text]
  if page.level + l.delta < 0 then .error (.unbalanced lines.length)
  else .ok ⟨lines, page.level + l.delta⟩

end Page

/-- What ends a rendering's last line. The invocation is blamed by its name as it was written. -/
def terminator (l : Language) (i : Invocation) (r : Rendering) : Except RenderError String :=
  if r.isStatement then
    match l.fragment .styleSemicolon with
    | some ending => .ok ending
    | none => .error (.incomplete l.name i.name (.fragment .styleSemicolon))
  else .ok ""

def Page.add (l : Language) (unit : String) (page : Page) (i : Invocation) :
    Except RenderError Page := do
  let r ← i.render l
  let ending ← terminator l i r
  (terminate ending r.lines).foldlM (Page.place unit) page

def renderUnit (l : Language) (unit : List Invocation) : Except RenderError (List String) :=
  match l.fragment .generalIndentation with
  | none => .error (.incomplete l.name "render unit" (.fragment .generalIndentation))
  | some indentation => do
    let page ← unit.foldlM (Page.add l indentation) Page.start
    return page.lines

def renderSource (l : Language) (unit : List Invocation) : Except RenderError String :=
  (renderUnit l unit).map (join "\n")

end Phrasebook
