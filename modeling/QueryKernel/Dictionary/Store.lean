import QueryKernel.Sql.Storage

/-!
Contract: one string dictionary.

Strings are numbered from zero in the order of their first insertion, and keep
their number. The number is carried as a 32-bit id.

Owns: insertion, decoding and size of a dictionary, and the id of its nulls.
-/

namespace QueryKernel

/-- Strings in the order of their ids. -/
structure Dictionary where
  strings : Array String := #[]
deriving DecidableEq, Repr

namespace Dictionary

def size (dictionary : Dictionary) : Nat := dictionary.strings.size

/-- The id of a string, which is inserted if it is new. -/
def idOf (dictionary : Dictionary) (value : String) : Int32 × Dictionary :=
  match dictionary.strings.findIdx? (· == value) with
  | some place => (Int32.ofNat place, dictionary)
  | none => (Int32.ofNat dictionary.size, ⟨dictionary.strings.push value⟩)

/-- The string of an id. Negative ids name no string. -/
def string? (dictionary : Dictionary) (id : Int32) : Option String :=
  if id < 0 then none else dictionary.strings[id.toInt.toNat]?

/-- The id that stands for a null. It is the common one, which no dictionary has
replaced by an id of its own. -/
def nullId (_ : Dictionary) : Int32 := Sql.nullId

def ofList (values : List String) : Dictionary :=
  values.foldl (fun dictionary value => (dictionary.idOf value).2) {}

end Dictionary

end QueryKernel
