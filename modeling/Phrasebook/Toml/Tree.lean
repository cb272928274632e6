import Phrasebook.Toml.Value

/-! The tables of a TOML document while it is read. How a table came to be decides who may add to
it: its header may come once, dotted keys add only to tables that dotted keys made, and values are
never added to. -/
namespace Phrasebook.Toml

inductive Origin where
  | header
  -- By the header of a table inside it.
  | implied
  | dotted
deriving DecidableEq, Repr

inductive Node where
  | value (v : Value)
  | table (origin : Origin) (entries : List (String × Node))
  | series (tables : List (List (String × Node)))

abbrev Entries := List (String × Node)

def put (key : String) (node : Node) : Entries → Entries
  | [] => [(key, node)]
  | (k, x) :: rest =>
    if k < key then (k, x) :: put key node rest
    else if k = key then (key, node) :: rest
    else (key, node) :: (k, x) :: rest

def changeLast (f : Entries → Option Entries) : List Entries → Option (List Entries)
  | [] => none
  | [t] => (f t).map ([·])
  | t :: ts => (changeLast f ts).map (t :: ·)

/-- A change to what is under the last of the keys, where tables on the way are entered or, if
there is nothing, made. -/
def reach (change : String → Entries → Option Entries) : List String → Entries → Option Entries
  | [], _ => none
  | [key], es => change key es
  | key :: keys, es =>
    match es.lookup key with
    | none => (reach change keys []).map fun t => put key (.table .implied t) es
    | some (.table o t) => (reach change keys t).map fun t => put key (.table o t) es
    | some (.series ts) => (changeLast (reach change keys) ts).map fun ts => put key (.series ts) es
    | some (.value _) => none

def startTable : List String → Entries → Option Entries :=
  reach fun key es =>
    match es.lookup key with
    | none => some (put key (.table .header []) es)
    | some (.table .implied t) => some (put key (.table .header t) es)
    | some _ => none

def startSeries : List String → Entries → Option Entries :=
  reach fun key es =>
    match es.lookup key with
    | none => some (put key (.series [[]]) es)
    | some (.series ts) => some (put key (.series (ts ++ [[]])) es)
    | some _ => none

def assign (value : Value) : (direct : Bool) → List String → Entries → Option Entries
  | _, [], _ => none
  | direct, [key], es =>
    if direct && (es.lookup key).isNone then some (put key (.value value) es) else none
  | _, key :: keys, es =>
    match es.lookup key with
    | none => (assign value true keys []).map fun t => put key (.table .dotted t) es
    | some (.table .header _) => none
    | some (.table o t) => (assign value (o = .dotted) keys t).map fun t => put key (.table o t) es
    | some (.series ts) =>
      (changeLast (assign value false keys) ts).map fun ts => put key (.series ts) es
    | some (.value _) => none

def assignIn (table : List String) (keys : List String) (value : Value) (es : Entries) :
    Option Entries :=
  match table with
  | [] => assign value true keys es
  | path =>
    reach (fun key es =>
      match es.lookup key with
      | some (.table o t) => (assign value true keys t).map fun t => put key (.table o t) es
      | some (.series ts) =>
        (changeLast (assign value true keys) ts).map fun ts => put key (.series ts) es
      | _ => none) path es

mutual

def Node.toValue : Node → Value
  | .value v => v
  | .table _ es => .table (tableOf es)
  | .series ts => .array (arrayOf ts)

def tableOf : List (String × Node) → List (String × Value)
  | [] => []
  | (key, node) :: rest => (key, node.toValue) :: tableOf rest

def arrayOf : List (List (String × Node)) → List Value
  | [] => []
  | t :: ts => .table (tableOf t) :: arrayOf ts

end

end Phrasebook.Toml
