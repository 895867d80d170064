import QueryKernel.Proofs.Attempt
import QueryKernel.Sql.Storage

/-!
Contract: constants that no reader of types and payloads can tell apart.

Owns:
- alike types, which differ at most in fields that their kind does not use;
- alike constants, whose payloads read alike in every way.

Does not own: the texts of alike constants, or the code generated for them.
-/

namespace QueryKernel.Sql

/-- Types that differ at most in a decimal shape outside decimals and in a dictionary that is
not used. -/
structure DataType.Alike (left right : DataType) : Prop where
  kind : left.kind = right.kind
  storage : left.storage = right.storage
  notNull : left.notNull = right.notNull
  encoding : left.encoding = right.encoding
  dictionary : left.encoding = .dictionary → left.parameter = right.parameter

/-- Constants whose payloads read alike in every way, under alike types. -/
structure Constant.Alike (left right : Constant) : Prop where
  type : left.type.Alike right.type
  isNull : left.isNull = right.isNull
  bool : ∀ value, left.boolValue = .ok value ↔ right.boolValue = .ok value
  integer : ∀ value, left.intValue = .ok value ↔ right.intValue = .ok value
  float : ∀ value, left.floatValue = .ok value ↔ right.floatValue = .ok value
  double : ∀ value, left.doubleValue = .ok value ↔ right.doubleValue = .ok value
  string : ∀ value, left.stringValue = .ok value ↔ right.stringValue = .ok value

theorem Constant.Alike.refl (constant : Constant) : constant.Alike constant where
  type := ⟨rfl, rfl, rfl, rfl, fun _ => rfl⟩
  isNull := rfl
  bool _ := Iff.rfl
  integer _ := Iff.rfl
  float _ := Iff.rfl
  double _ := Iff.rfl
  string _ := Iff.rfl

section Types

variable {left right : DataType}

theorem DataType.Alike.bitWidth (alike : left.Alike right) :
    left.bitWidth = right.bitWidth := by
  rw [DataType.bitWidth, DataType.bitWidth, alike.storage]

theorem DataType.Alike.nullInteger (alike : left.Alike right) :
    left.nullInteger = right.nullInteger := by
  rw [DataType.nullInteger, DataType.nullInteger, alike.storage, alike.encoding]

theorem DataType.Alike.fitInteger (alike : left.Alike right) (value : Int64) :
    left.fitInteger value = right.fitInteger value := by
  rw [DataType.fitInteger, DataType.fitInteger, DataType.fits, DataType.fits, alike.storage]

end Types

theorem Constant.Alike.storedInteger {left right : Constant} (alike : left.Alike right)
    {value : Int64} (stored : left.storedInteger = .ok value) :
    right.storedInteger = .ok value := by
  unfold Constant.storedInteger at stored ⊢
  rw [← alike.isNull]
  split at stored
  · rename_i isNull
    rw [if_pos isNull, ← alike.type.nullInteger, stored]
  · rename_i given
    obtain ⟨payload, payloadEq, fitted⟩ := bind_eq_ok.mp stored
    rw [if_neg given]
    exact bind_eq_ok.mpr ⟨payload, (alike.integer payload).mp payloadEq,
      alike.type.fitInteger payload ▸ fitted⟩

end QueryKernel.Sql
