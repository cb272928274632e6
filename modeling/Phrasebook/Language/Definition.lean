import Phrasebook.Language.Error

/-! Languages from their definitions, which are TOML documents with one table for each group of
properties. A definition is read in steps, one for each group in the order of the schema. A step
decodes the group's own table, without the keys of the groups nested in it, to a record of the
group, and puts that in the place of whatever the language had for the group and for those nested
in it. -/
namespace Phrasebook

-- All fields that are not listed are unset, and so are those of the groups nested in this one.
structure GroupRecord where
  group : Group
  fields : List Setting

def Group.holds (g : Group) (p : Property) : Bool :=
  g.path.isPrefixOf p.group.path

namespace Language

def reset (l : Language) (g : Group) : Language where
  name := l.name
  fragment f := if g.holds (.fragment f) then none else l.fragment f
  policy p := if g.holds (.policy p) then none else l.policy p
  importStyle := if g.holds .importStyle then none else l.importStyle
  -- The table of spellings is a part of the record of the operators.
  spellings := if g = .operators then [] else l.spellings

def put (l : Language) (r : GroupRecord) : Language :=
  r.fields.foldr (fun s l => l.set s) (l.reset r.group)

end Language

namespace Definition

open Toml

/-- The table at the end of a path of keys: nothing if a key is absent on the way, and the value
that is in the way if it is no table. -/
def tableAt : List String → Table → Except Value (Option Table)
  | [], t => .ok (some t)
  | key :: keys, t =>
    match t.lookup key with
    | none => .ok none
    | some (.table t) => tableAt keys t
    | some v => .error v

def asText? : Value → Option String
  | .string text => some text
  | .datetime text => some text
  | _ => none

def asFlag? : Value → Option Bool
  | .boolean b => some b
  | _ => none

def styleNamed (name : String) : Except StyleFault CaseStyle :=
  match CaseStyle.ofName? name with
  | some style => .ok style
  | none => .error (.unknownName name)

def readStyle : Value → Except StyleFault CaseStyle
  | .string name => styleNamed name
  | .table [] => .error .noName
  | .table [(name, content)] => do
    let style ← styleNamed name
    match content with
    | .array [] | .table [] => .ok style
    | content => .error (.content content)
  | .table _ => .error .manyNames
  | _ => .error .notName

def decodeValue (p : Property) (v : Value) : Except DefinitionFault Setting :=
  match p with
  | .fragment f =>
    match asText? v with
    | some text => .ok (.fragment f (some text))
    | none => .error (.notText f v)
  | .policy q =>
    match asFlag? v with
    | some b => .ok (.policy q (some b))
    | none => .error (.notFlag q v)
  | .importStyle =>
    match readStyle v with
    | .ok style => .ok (.importStyle (some style))
    | .error fault => .error (.notStyle fault)

def fieldOf? (g : Group) (key : String) : Option Property :=
  g.properties.find? (·.field = key)

def decodeEntry (g : Group) (entry : String × Value) : Except DefinitionFault Setting :=
  match fieldOf? g entry.1 with
  | none => .error (.unknownField g entry.1)
  | some p => decodeValue p entry.2

def ownEntries (g : Group) (t : Table) : Table :=
  t.filter fun entry => !g.nested.contains entry.1

/-- The step for one group. A document without the group's table leaves all its fields unset. -/
def generate (document : Table) (g : Group) : Except DefinitionFault GroupRecord :=
  match tableAt g.path document with
  | .error v => .error (.notTable g v)
  | .ok none => .ok ⟨g, []⟩
  | .ok (some t) => do return ⟨g, ← (ownEntries g t).mapM (decodeEntry g)⟩

def generateAll (document : Table) : List Group → Language → Except DefinitionFault Language
  | [], l => .ok l
  | g :: gs, l => do
    let record ← generate document g
    generateAll document gs (l.put record)

def checkGroups (document : Table) : Except DefinitionFault Unit :=
  match document.find? fun entry => !Group.all.any (·.path = [entry.1]) with
  | some entry => .error (.unknownGroup entry.1)
  | none => .ok ()

def ofDocument (name : String) (document : Table) : Except LanguageError Language :=
  let generated := do
    checkGroups document
    generateAll document Group.all (.blank name)
  (generated.mapError (.invalidGroup name)).map .assemble

end Definition

def Language.ofToml (decode : String → Option Toml.Table) (name source : String) :
    Except LanguageError Language :=
  match decode source with
  | none => .error (.unreadable name)
  | some document => Definition.ofDocument name document

end Phrasebook
