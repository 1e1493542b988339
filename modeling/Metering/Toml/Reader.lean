import Metering.Toml.Table

/-!
# Reading TOML

A document is a sequence of lines, each with a header, a key and its value, a comment, or nothing. A
value may go over several lines only inside a list or a long string.
-/

namespace Metering.Toml

open Scan

/-! ## Values -/

/-- Further elements of a list, each after a comma; the last comma may have none after it. -/
def elements (value : Scan Value) : Nat → Scan (List Value)
  | 0 => fail
  | steps + 1 => do
    gap
    match ← peek with
    | some ']' => do
      char ']'
      return []
    | _ => do
      let v ← value
      gap
      match ← satisfy fun _ => true with
      | ',' => return v :: (← elements value steps)
      | ']' => return [v]
      | _ => fail

/-- The keys and values of a table on one line. -/
def members (value : Scan Value) : Nat → Entries → Scan Entries
  | 0, _ => fail
  | steps + 1, es => do
    let path ← key
    char '='
    spaces
    let v ← value
    spaces
    match Entries.set path v es with
    | none => fail
    | some es =>
      match ← satisfy fun _ => true with
      | ',' => members value steps es
      | '}' => return es
      | _ => fail

/-- A table on one line, after its opening brace. -/
def inlineTable (value : Scan Value) : Scan Value := do
  spaces
  match ← peek with
  | some '}' => do
    char '}'
    return .table []
  | _ => do
    let es ← fun cs => members value cs.length [] cs
    return .table (entriesValues es)

/-- A value in which lists and tables are nested at most `depth` deep. -/
def value (depth : Nat) : Scan Value := do
  match ← peek with
  | some '"' | some '\'' => return .text (← string)
  | some '[' =>
    match depth with
    | 0 => fail
    | depth + 1 => do
      char '['
      return .list (← fun cs => elements (value depth) cs.length cs)
  | some '{' =>
    match depth with
    | 0 => fail
    | depth + 1 => do
      char '{'
      inlineTable (value depth)
  | some 't' => do
    chars ['t', 'r', 'u', 'e']
    return .bool true
  | some 'f' => do
    chars ['f', 'a', 'l', 's', 'e']
    return .bool false
  | _ => dateOrNumber

/-! ## Documents -/

/-- What has been read of a document: all items, and the header of the open table. -/
structure Draft where
  entries : Entries := []
  header : List String := []

/-- A step that may be refused. -/
def allow {α : Type} (result : Option α) : Scan α := fun cs => result.map (·, cs)

/-- A line with a header. -/
def headerLine (d : Draft) : Scan Draft := do
  char '['
  match ← peek with
  | some '[' => do
    char '['
    let path ← key
    chars [']', ']']
    lineRest
    return ⟨← allow (d.entries.beginNext path), path⟩
  | _ => do
    let path ← key
    char ']'
    lineRest
    return ⟨← allow (d.entries.begin path), path⟩

/-- A line with a key and its value. -/
def valueLine (d : Draft) : Scan Draft := do
  let path ← key
  char '='
  spaces
  let v ← value maxDepth
  lineRest
  return { d with entries := ← allow (d.entries.setIn d.header path v) }

/-- The lines of a document; `lines` bounds their number. -/
def linesLoop : Nat → Draft → Scan Draft
  | 0, _ => fail
  | lines + 1, d => do
    spaces
    match ← peek with
    | none => return d
    | some '#' => do
      comment
      lineEnd
      linesLoop lines d
    | some '\n' | some '\r' => do
      newline
      linesLoop lines d
    | some '[' => do linesLoop lines (← headerLine d)
    | _ => do linesLoop lines (← valueLine d)

/-- The table that a document holds, if it is well formed. -/
def read? (text : String) : Option Value :=
  let cs := match text.toList with
    | '\uFEFF' :: rest => rest
    | cs => cs
  (linesLoop (cs.length + 1) {} cs).map fun (d, _) => .table (entriesValues d.entries)

end Metering.Toml
