import Phrasebook.Run

/-! Resolving invocations. Nested invocations become text from the inside out, then the command
runs on plain text. -/
namespace Phrasebook

def perform (l : Language) (depth : Nat) (name : String)
    (resolved : Command → Except RenderError (List String)) : Except RenderError Rendering :=
  if Invocation.maxNesting < depth then .error (.malformed ⟨name, .tooDeep⟩)
  else do
    let c ← Command.named name
    c.run l (← resolved c)

mutual

def Argument.resolve (l : Language) (depth : Nat) : Argument → Except RenderError String
  | .literal text => .ok text
  | .nested name arguments =>
    (perform l depth name fun c => resolveAll l (depth + 1) c 0 arguments).map
      Rendering.firstText

def resolveAll (l : Language) (depth : Nat) (c : Command) (position : Nat) :
    List Argument → Except RenderError (List String)
  | [] => .ok []
  | a :: as => do
    let text ← (a.resolve l depth).mapError (.nested c position)
    return text :: (← resolveAll l depth c (position + 1) as)

end

namespace Invocation

def render (l : Language) (i : Invocation) : Except RenderError Rendering :=
  perform l 0 i.name fun c => resolveAll l 1 c 0 i.arguments

def inline (l : Language) (i : Invocation) : Except RenderError String :=
  (i.render l).map Rendering.firstText

end Invocation

end Phrasebook
