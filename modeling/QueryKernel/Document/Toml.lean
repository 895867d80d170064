import QueryKernel.Document.Toml.Scalar
import QueryKernel.Document.Toml.Scan
import QueryKernel.Document.Toml.Tree

/-!
Contract: reading a TOML text.

Owns: values with lists and inline tables, the lines of a text, and the whole
document.
-/

namespace QueryKernel.Document.Toml

mutual

/-- A value of any kind, in which lists and inline tables may nest to a given
depth. -/
def value : Nat → Nat → Scan Document
  | _, 0 => failure
  | depth, fuel + 1 => do
      match ← get with
      | '"' :: _ | '\'' :: _ => return .text (← anyString fuel)
      | '[' :: rest =>
          set rest
          match depth with
          | 0 => failure
          | depth + 1 => return .list (← listItems depth fuel)
      | '\x7b' :: rest =>
          set rest
          match depth with
          | 0 => failure
          | depth + 1 => return (Node.table .dotted (← inlineEntries depth fuel [])).document
      | chars =>
          let (front, rest) := splitScalar false chars
          set rest
          match scalar? front with
          | some document => return document
          | none => failure

def listItems : Nat → Nat → Scan (List Document)
  | _, 0 => failure
  | depth, fuel + 1 => do
      skipLines fuel
      match ← get with
      | ']' :: rest =>
          set rest
          return []
      | _ =>
          let item ← value depth fuel
          skipLines fuel
          match ← get with
          | ',' :: rest =>
              set rest
              return item :: (← listItems depth fuel)
          | ']' :: rest =>
              set rest
              return [item]
          | _ => failure

/-- The entries of an inline table, after its brace or a comma. Lines may end
anywhere between its marks, also around the equals sign. -/
def inlineEntries : Nat → Nat → List (String × Node) → Scan (List (String × Node))
  | _, 0, _ => failure
  | depth, fuel + 1, entries => do
      skipLines fuel
      match ← get with
      | '\x7d' :: rest =>
          set rest
          return entries
      | _ =>
          let (first, more) ← key fuel
          skipLines fuel
          expect '='
          skipLines fuel
          let document ← value depth fuel
          let parts := first :: more
          match insertValue (parts.getLastD "") document entries parts.dropLast with
          | none => failure
          | some entries =>
              skipLines fuel
              match ← get with
              | ',' :: rest =>
                  set rest
                  inlineEntries depth fuel entries
              | '\x7d' :: rest =>
                  set rest
                  return entries
              | _ => failure

end

/-- The state between two lines: the whole tree, and the path of the open
table. -/
structure Progress where
  root : List (String × Node) := []
  path : List String := []

def header (fuel : Nat) (progress : Progress) : Scan Progress := do
  let isElement ← match ← get with
    | '[' :: rest => do set rest; pure true
    | _ => pure false
  let (first, more) ← key fuel
  expect ']'
  if isElement then expect ']'
  endOfLine
  let parts := first :: more
  let last := parts.getLastD ""
  let change := if isElement then openElement last else openTable last
  match changeAt change progress.root parts.dropLast with
  | some root => return ⟨root, parts⟩
  | none => failure

def assignment (fuel : Nat) (progress : Progress) : Scan Progress := do
  let (first, more) ← key fuel
  expect '='
  skipBlanks
  let document ← value maxDepth fuel
  endOfLine
  let parts := first :: more
  let insert := fun entries => insertValue (parts.getLastD "") document entries parts.dropLast
  match changeAt insert progress.root progress.path with
  | some root => return { progress with root }
  | none => failure

def allLines : Nat → Progress → Scan Progress
  | 0, _ => failure
  | fuel + 1, progress => do
      skipLines fuel
      match ← get with
      | [] => return progress
      | '[' :: rest =>
          set rest
          allLines fuel (← header fuel progress)
      | _ => allLines fuel (← assignment fuel progress)

/-- A bound on the steps of every loop over a text. A character is consumed by at
most one step of a loop, which may enter up to two inner loops first. -/
def stepBound (source : List Char) : Nat := 3 * source.length + 4

end Toml

/-- The document of a TOML text, if it is well formed. A byte order mark in
front is passed over. -/
def ofToml? (text : String) : Option Document :=
  let chars :=
    match text.toList with
    | '\ufeff' :: rest => rest
    | chars => chars
  (Toml.allLines (Toml.stepBound chars) {} chars).map fun (progress, _) =>
    (Toml.Node.table .header progress.root).document

end QueryKernel.Document
