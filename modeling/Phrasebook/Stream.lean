import Phrasebook.Error

/-! Command streams: the invocations of one unit in order, out of raw commands or a text that is
decoded to them. -/
namespace Phrasebook.Stream

def ofRaw (raw : List (List String)) : Except RenderError (List Invocation) :=
  (raw.mapM Invocation.ofRaw).mapError .malformed

def ofJson (decode : String → Option (List (List String))) (text : String) :
    Except RenderError (List Invocation) :=
  match decode text with
  | some raw => ofRaw raw
  | none => .error .invalidStream

end Phrasebook.Stream
