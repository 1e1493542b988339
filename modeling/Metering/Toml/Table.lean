import Metering.Toml.Lexical

/-!
# Tables of TOML

A table comes into being by its own header, by the header of a table inside it, or by a dotted key.
Only one that a header inside it made may still get a header of its own, and only one that a dotted key
made may be entered by further dotted keys. Every other second definition is refused.
-/

namespace Metering.Toml

/-- How a table came into being. -/
inductive Origin
  | header
  | innerHeader
  | dottedKey
deriving DecidableEq

/-- What stands under a key. -/
inductive Item
  | value (v : Value)
  | table (origin : Origin) (entries : List (String × Item))
  /-- Tables with one header each; the last one is open. -/
  | tables (all : List (List (String × Item)))

/-- Items under their keys, in the order of their definition. -/
abbrev Entries := List (String × Item)

namespace Entries

/-- Replaces the item under a key. -/
def replace (es : Entries) (key : String) (item : Item) : Entries :=
  es.map fun entry => if entry.1 = key then (key, item) else entry

/-- Puts the value at the end of a key. The table it comes into must be made by dotted keys where the
key has dots, and must not be so where it has none. -/
def define (key : String) (value : Value) (hasDots : Bool) (isDotted : Bool) (es : Entries) :
    Option Entries :=
  if hasDots ≠ isDotted then none
  else if (es.lookup key).isSome then none
  else some (es ++ [(key, .value value)])

/-- Changes the table at the end of a path, and makes those on the way that do not exist. -/
def change (byDots : Bool) (f : Bool → Entries → Option Entries) :
    List String → Bool → Entries → Option Entries
  | [], isDotted, es => f isDotted es
  | key :: path, _, es =>
    match es.lookup key with
    | none => do
      let inner ← change byDots f path byDots []
      return es ++ [(key, .table (if byDots then .dottedKey else .innerHeader) inner)]
    | some (.value _) => none
    | some (.table origin inner) =>
      if byDots ∧ origin = .header then none
      else do
        let inner ← change byDots f path (origin = .dottedKey) inner
        return es.replace key (.table origin inner)
    | some (.tables all) => do
      let inner ← change byDots f path false (all.getLast?.getD [])
      return es.replace key (.tables (all.dropLast ++ [inner]))

/-- Puts a value under a key that may have dots. -/
def set (path : List String) (value : Value) (es : Entries) : Option Entries := do
  let key ← path.getLast?
  change true (define key value (1 < path.length)) path.dropLast false es

/-- Begins a table with a header. -/
def begin (path : List String) (es : Entries) : Option Entries := do
  let key ← path.getLast?
  change false (fun _ es =>
    match es.lookup key with
    | none => some (es ++ [(key, .table .header [])])
    | some (.table .innerHeader inner) => some (es.replace key (.table .header inner))
    | some _ => none) path.dropLast false es

/-- Begins one of several tables with the same header. -/
def beginNext (path : List String) (es : Entries) : Option Entries := do
  let key ← path.getLast?
  change false (fun _ es =>
    match es.lookup key with
    | none => some (es ++ [(key, .tables [[]])])
    | some (.tables all) => some (es.replace key (.tables (all ++ [[]])))
    | some _ => none) path.dropLast false es

/-- Puts a value into the table of a header. -/
def setIn (header path : List String) (value : Value) (es : Entries) : Option Entries :=
  change false (fun _ inner => set path value inner) header false es

end Entries

mutual

/-- The value of an item. -/
def Item.toValue : Item → Value
  | .value v => v
  | .table _ es => .table (entriesValues es)
  | .tables all => .list (tablesValues all)

/-- The values of items under their keys. -/
def entriesValues : List (String × Item) → List (String × Value)
  | [] => []
  | (key, item) :: rest => (key, item.toValue) :: entriesValues rest

/-- The values of several tables. -/
def tablesValues : List (List (String × Item)) → List Value
  | [] => []
  | es :: rest => .table (entriesValues es) :: tablesValues rest

end

end Metering.Toml
