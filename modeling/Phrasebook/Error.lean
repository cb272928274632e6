import Phrasebook.Invocation.Reader
import Phrasebook.Vocabulary

/-! Why a rendering fails, with the words for it. -/
namespace Phrasebook

inductive RenderError where
  | arity (error : ArityError)
  | unknownCommand (name : String)
  | incomplete (language reader : String) (property : Property)
  | nested (command : Command) (position : Nat) (cause : RenderError)
  | invalidValue (vocabulary : Vocabulary) (value : String)
  | malformed (error : Malformed)
  | invalidStream
  | unbalanced (line : Nat)
deriving DecidableEq

namespace RenderError

def message : RenderError → String
  | .arity e => e.message
  | .unknownCommand name => s!"unknown command '{name}'"
  | .incomplete language reader p =>
    s!"command '{reader}' needs property '{p.path}', which language '{language}' does not define"
  | .nested command position _ =>
    s!"failed to resolve argument {position} of command '{command.name}'"
  | .invalidValue v value =>
    s!"invalid value '{value}' for parameter '{v.parameter}' of command '{v.command.name}'"
  | .malformed m => s!"malformed command invocation '{m.text}': {m.fault.reason}"
  | .invalidStream => "failed to decode command stream"
  | .unbalanced line => s!"indentation drops below zero at line {line}"

def code : RenderError → String
  | .arity _ => "glossa::parameter_arity"
  | .unknownCommand _ => "glossa::unknown_command"
  | .incomplete _ _ _ => "glossa::incomplete_language"
  | .nested _ _ _ => "glossa::nested_command"
  | .invalidValue _ _ => "glossa::invalid_value"
  | .malformed _ => "glossa::malformed_invocation"
  | .invalidStream => "glossa::invalid_stream"
  | .unbalanced _ => "glossa::unbalanced"

def help : RenderError → Option String
  | .arity e => some s!"usage: {e.signature.usage}"
  | .unknownCommand _ => none
  | .incomplete language _ p =>
    some s!"define '{p.field}' in the [{p.groupPath}] table of the '{language}' definition"
  | .nested _ _ _ => none
  | .invalidValue v _ => some s!"expected {v.expected}"
  | .malformed _ => some "nested commands are written as '\x7b name : argument ... \x7d'"
  | .invalidStream =>
    some ("a command stream is a JSON array of string arrays, " ++
      "each starting with a command name")
  | .unbalanced _ => some "a block is closed that was never opened"

def rootCause : RenderError → RenderError
  | .nested _ _ cause => cause.rootCause
  | e => e

def chain : RenderError → List (Command × Nat)
  | .nested command position cause => (command, position) :: cause.chain
  | _ => []

def chainMessages : RenderError → List String
  | e@(.nested _ _ cause) => e.message :: cause.chainMessages
  | _ => []

end RenderError

def Command.named (name : String) : Except RenderError Command :=
  match Command.ofName? name with
  | some c => .ok c
  | none => .error (.unknownCommand (Text.trim name))

end Phrasebook
