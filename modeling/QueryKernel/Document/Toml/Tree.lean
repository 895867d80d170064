import QueryKernel.Document.Basic

/-!
Contract: how the keys and headers of a TOML text build one table.

A table may be opened once by a header, and may only be extended by the kind of
key that made it. The tree therefore remembers how each table came about. Entries
and elements are kept newest first, because a text mostly goes on where it is.

Owns: insertion of a value under a dotted key, the two kinds of header, and the
document that a finished tree stands for.
-/

namespace QueryKernel.Document.Toml

/-- How a table came about: as the ancestor of a header, by a dotted key, or by
its own header. -/
inductive Origin where
  | implied
  | dotted
  | header
deriving DecidableEq, Repr

/-- A table under construction, newest entries and elements first. Values, lists
and inline tables are closed. -/
inductive Node where
  | closed (document : Document)
  | table (origin : Origin) (entries : List (String × Node))
  | tables (elements : List Node)

mutual

def Node.document : Node → Document
  | .closed document => document
  | .table _ entries => .table (entryDocuments entries).reverse
  | .tables elements => .list (elementDocuments elements).reverse

def entryDocuments : List (String × Node) → List (String × Document)
  | [] => []
  | (key, node) :: rest => (key, node.document) :: entryDocuments rest

def elementDocuments : List Node → List Document
  | [] => []
  | node :: rest => node.document :: elementDocuments rest

end

def replaceNode (key : String) (node : Node) : List (String × Node) → List (String × Node)
  | [] => []
  | entry :: rest =>
      if entry.1 = key then (key, node) :: rest else entry :: replaceNode key node rest

/-- The origin of a table after a dotted key has led into it. A table with its own
header is not extended. An implied table is defined by the key from then on, so
that no header may open it later. -/
def extended? : Origin → Option Origin
  | .header => none
  | .implied => some .dotted
  | .dotted => some .dotted

def insertValue (key : String) (value : Document) (entries : List (String × Node)) :
    List String → Option (List (String × Node))
  | [] =>
      match entries.lookup key with
      | none => some ((key, .closed value) :: entries)
      | some _ => none
  | step :: path =>
      match entries.lookup step with
      | none => do
          let inner ← insertValue key value [] path
          return (step, .table .dotted inner) :: entries
      | some (.table origin inner) => do
          let origin ← extended? origin
          let inner ← insertValue key value inner path
          return replaceNode step (.table origin inner) entries
      | some (.tables (.table origin inner :: earlier)) => do
          if path.isEmpty then
            none
          else
            let inner ← insertValue key value inner path
            return replaceNode step (.tables (.table origin inner :: earlier)) entries
      | some _ => none

/-- Change the table that a header's path leads to. Missing ancestors are
implied, and an array of tables stands for its last table. -/
def changeAt (change : List (String × Node) → Option (List (String × Node)))
    (entries : List (String × Node)) : List String → Option (List (String × Node))
  | [] => change entries
  | step :: path =>
      match entries.lookup step with
      | none => do
          let inner ← changeAt change [] path
          return (step, .table .implied inner) :: entries
      | some (.table origin inner) => do
          let inner ← changeAt change inner path
          return replaceNode step (.table origin inner) entries
      | some (.tables (.table origin inner :: earlier)) => do
          let inner ← changeAt change inner path
          return replaceNode step (.tables (.table origin inner :: earlier)) entries
      | some _ => none

def openTable (key : String) (entries : List (String × Node)) : Option (List (String × Node)) :=
  match entries.lookup key with
  | none => some ((key, .table .header []) :: entries)
  | some (.table .implied inner) => some (replaceNode key (.table .header inner) entries)
  | _ => none

def openElement (key : String) (entries : List (String × Node)) :
    Option (List (String × Node)) :=
  match entries.lookup key with
  | none => some ((key, .tables [.table .header []]) :: entries)
  | some (.tables elements) =>
      some (replaceNode key (.tables (.table .header [] :: elements)) entries)
  | _ => none

end QueryKernel.Document.Toml
