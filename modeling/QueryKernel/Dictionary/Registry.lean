import QueryKernel.Dictionary.Store

/-!
Contract: the dictionaries of a server, known by id and by handle.

A handle names a dictionary for ever, whereas an id can be bound anew. The
registry therefore keeps every dictionary it ever held, and the ids point into
that store.

Owns:
- binding, lookup and creation by id;
- insertion through a handle, which is seen through every handle to the same
  dictionary and through no other.
-/

namespace QueryKernel.Dictionary

/-- All dictionaries by handle, and the handle that each id is bound to, in
increasing order of ids. -/
structure Registry where
  dictionaries : Array Dictionary := #[]
  bindings : List (Int32 × Nat) := []
deriving DecidableEq, Repr

namespace Registry

/-- Bind an id in an ordered list of bindings. -/
def bind (id : Int32) (handle : Nat) : List (Int32 × Nat) → List (Int32 × Nat)
  | [] => [(id, handle)]
  | (other, bound) :: rest =>
      if id < other then (id, handle) :: (other, bound) :: rest
      else if id = other then (id, handle) :: rest
      else (other, bound) :: bind id handle rest

/-- Bind an id to a new dictionary. Handles to the old one stay valid. -/
def register (registry : Registry) (id : Int32) (dictionary : Dictionary) : Registry where
  dictionaries := registry.dictionaries.push dictionary
  bindings := bind id registry.dictionaries.size registry.bindings

/-- Bind an id to a dictionary that is already held, be it under other ids or under none.
A handle of no dictionary binds nothing. -/
def share (registry : Registry) (id : Int32) (handle : Nat) : Registry :=
  if handle < registry.dictionaries.size then
    { registry with bindings := bind id handle registry.bindings }
  else registry

def handle? (registry : Registry) (id : Int32) : Option Nat :=
  registry.bindings.lookup id

def find (registry : Registry) (id : Int32) : Except Error Nat :=
  match registry.handle? id with
  | some handle => .ok handle
  | none => .error (.noDictionary id)

/-- The handle bound to an id, which is bound to an empty dictionary if it was
free. -/
def findOrCreate (registry : Registry) (id : Int32) : Nat × Registry :=
  match registry.handle? id with
  | some handle => (handle, registry)
  | none => (registry.dictionaries.size, registry.register id {})

def dictionary (registry : Registry) (handle : Nat) : Dictionary :=
  registry.dictionaries[handle]?.getD {}

/-- The id of a null under an id. Without a dictionary it is the common one. -/
def nullId (registry : Registry) (id : Int32) : Int32 :=
  match registry.handle? id with
  | some handle => (registry.dictionary handle).nullId
  | none => Sql.nullId

/-- The id of a string in the dictionary of a handle, inserting it if it is
new. -/
def idOf (registry : Registry) (handle : Nat) (value : String) : Int32 × Registry :=
  let (id, changed) := (registry.dictionary handle).idOf value
  (id, { registry with dictionaries := registry.dictionaries.setIfInBounds handle changed })

def ids (registry : Registry) : List Int32 :=
  registry.bindings.map Prod.fst

def inspect (registry : Registry) : String :=
  Text.record "StringDictionaryRegistry"
    [("ids", Text.bracketed (registry.ids.map fun id => toString id.toInt))]

end Registry

end QueryKernel.Dictionary
