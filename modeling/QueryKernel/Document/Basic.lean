import QueryKernel.Number.Word

/-!
Contract: structured documents and the reading of records from them.

A document is what a settings file or an interchange text says, before anyone
knows what it describes. Records are read from tables by field name, or from
lists by position; enumerations are read from the name of a member.

Owns:
- the document values;
- readers of scalars, enumerations, lists and records;
- the class of types that have a document form.

Does not own: the grammar of any text format.
-/

namespace QueryKernel

/-- A document value. No record has a field with a fraction or a moment, so the
values of those two are not kept. An unreadable value was written like a number
but denotes none: it does no harm where it is not looked at. -/
inductive Document where
  | null
  | bool (value : Bool)
  | int (value : Int)
  | fraction
  | moment
  | unreadable
  | text (value : String)
  | list (items : List Document)
  | table (entries : List (String × Document))
deriving Inhabited, Repr

namespace Document

/-- What differs between text formats: which values stand for no payload, and
whether a list that is read as a record may go on after its last field. -/
structure Dialect where
  isEmptyPayload : Document → Bool
  ignoresSurplus : Bool

/-- The dialect with a null value. Every item of a list has to be a field. -/
def Dialect.withNull : Dialect where
  isEmptyPayload
    | .null => true
    | _ => false
  ignoresSurplus := false

/-- The dialect without a null value: an empty list or table has to do. Items
after the last field are passed over, like unknown names in a table. -/
def Dialect.withoutNull : Dialect where
  isEmptyPayload
    | .list [] => true
    | .table [] => true
    | _ => false
  ignoresSurplus := true

def bool? : Document → Option Bool
  | .bool value => some value
  | _ => none

def text? : Document → Option String
  | .text value => some value
  | _ => none

def intBetween? (low high : Int) : Document → Option Int
  | .int value => if low ≤ value ∧ value ≤ high then some value else none
  | _ => none

/-- A count, which is below `2 ^ 64`. -/
def count? (document : Document) : Option Nat :=
  (document.intBetween? 0 (2 ^ 64 - 1)).map Int.toNat

def items? {α : Type} (read : Document → Option α) : Document → Option (List α)
  | .list items => items.mapM read
  | _ => none

def optional? {α : Type} (read : Document → Option α) : Document → Option (Option α)
  | .null => some none
  | document => (read document).map some

mutual

/-- Whether a value can be looked at as a whole. -/
def isReadable : Document → Bool
  | .unreadable => false
  | .list items => areItemsReadable items
  | .table entries => areEntriesReadable entries
  | _ => true

def areItemsReadable : List Document → Bool
  | [] => true
  | item :: rest => item.isReadable && areItemsReadable rest

def areEntriesReadable : List (String × Document) → Bool
  | [] => true
  | (_, document) :: rest => document.isReadable && areEntriesReadable rest

end

/-- The fields of a record, given their names in order of declaration. Unknown
fields are looked at and passed over. A list may be shorter than the record, and
longer where the dialect ignores the surplus, which is not looked at. A moment
counts as a table of no known field. -/
def fields? (dialect : Dialect) (names : List String) :
    Document → Option (List (String × Document))
  | .table entries =>
      if entries.all fun entry => names.contains entry.1 || entry.2.isReadable then some entries
      else none
  | .list items =>
      if dialect.ignoresSurplus || items.length ≤ names.length then some (names.zip items)
      else none
  | .moment => some []
  | _ => none

def required {α : Type} (fields : List (String × Document)) (name : String)
    (read : Document → Option α) : Option α :=
  (fields.lookup name).bind read

def withDefault {α : Type} (fields : List (String × Document)) (name : String)
    (default : α) (read : Document → Option α) : Option α :=
  match fields.lookup name with
  | some document => read document
  | none => some default

end Document

class Documented (α : Type) where
  write : α → Document
  read : Document.Dialect → Document → Option α

/-- Types with finitely many members, each known by a label. -/
class Enumeration (α : Type) where
  members : List α
  label : α → String

def Enumeration.ofLabel? {α : Type} [Enumeration α] (label : String) : Option α :=
  (Enumeration.members : List α).find? fun member => Enumeration.label member == label

/-- A member is read from its label, or from a table that holds its label with
an empty payload. -/
instance {α : Type} [Enumeration α] : Documented α where
  write member := .text (Enumeration.label member)
  read dialect
    | .text label => Enumeration.ofLabel? label
    | .table [(label, payload)] =>
        if dialect.isEmptyPayload payload then Enumeration.ofLabel? label else none
    | _ => none

end QueryKernel
