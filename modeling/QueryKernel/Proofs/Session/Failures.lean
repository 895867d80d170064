import QueryKernel.Session.Immediate

/-!
Contract: how code generation can fail.

Owns:
- the internal failures that tell of a session in disorder;
- computations that cannot fail so, among them everything that only looks at one constant.

Does not own: why a whole call cannot fail so either.
-/

namespace QueryKernel

open QueryKernel.Sql (Constant DataType)
open QueryKernel.Dictionary (Registry)

/-- The failures that tell of devices, table or globals that no longer belong together. -/
def Breach.isDisorder : Breach → Bool
  | .offsetDisagreement _ _ _ | .neverMaterialized _ | .shapeMismatch _ | .materializedTwice _
  | .globalDefinedTwice _ => true
  | _ => false

/-- A computation that does not fail in disorder. -/
def Orderly {α : Type} (computed : Except Error α) : Prop :=
  ∀ cause, computed = .error (.breach cause) → cause.isDisorder = false

section Orderly

variable {α β : Type}

theorem orderly_ok (value : α) : Orderly (.ok value) := by
  intro cause failed
  contradiction

theorem Orderly.bind {first : Except Error α} {next : α → Except Error β}
    (firstOrderly : Orderly first) (nextOrderly : ∀ value, Orderly (next value)) :
    Orderly (first >>= next) := by
  intro cause failed
  cases first with
  | error failure =>
      refine firstOrderly cause ?_
      cases failed
      rfl
  | ok value => exact nextOrderly value cause failed

theorem orderly_of_not_breach {failure : Error} (other : ∀ cause, failure ≠ .breach cause) :
    Orderly (.error failure : Except Error α) := by
  intro cause failed
  cases failed
  exact absurd rfl (other cause)

theorem orderly_breach {cause : Breach} (order : cause.isDisorder = false) :
    Orderly (.error (.breach cause) : Except Error α) := by
  intro other failed
  cases failed
  exact order

theorem Orderly.ite {condition : Prop} [Decidable condition] {left right : Except Error α}
    (leftOrderly : Orderly left) (rightOrderly : Orderly right) :
    Orderly (if condition then left else right) := by
  split
  · exact leftOrderly
  · exact rightOrderly

theorem orderly_payload (constant : Constant) :
    Orderly constant.boolValue ∧ Orderly constant.intValue ∧ Orderly constant.floatValue ∧
      Orderly constant.doubleValue ∧ Orderly constant.stringValue := by
  unfold Constant.boolValue Constant.intValue Constant.floatValue Constant.doubleValue
    Constant.stringValue
  cases constant.datum <;> refine ⟨?_, ?_, ?_, ?_, ?_⟩ <;>
    first | exact orderly_ok _ | exact orderly_breach rfl

theorem orderly_bitWidth (type : DataType) : Orderly type.bitWidth := by
  unfold DataType.bitWidth
  split <;> first | exact orderly_ok _ | exact orderly_breach rfl

theorem orderly_nullInteger (type : DataType) : Orderly type.nullInteger := by
  unfold DataType.nullInteger
  split <;> first | exact orderly_ok _ | exact orderly_breach rfl

theorem orderly_storedInteger (constant : Constant) : Orderly constant.storedInteger := by
  unfold Constant.storedInteger
  split
  · exact orderly_nullInteger constant.type
  · refine (orderly_payload constant).2.1.bind fun value => ?_
    unfold DataType.fitInteger
    split
    · exact orderly_ok value
    · exact orderly_breach rfl

theorem orderly_find (registry : Registry) (id : Int32) : Orderly (registry.find id) := by
  unfold Registry.find
  split
  · exact orderly_ok _
  · exact orderly_of_not_breach (by simp)

theorem orderly_stringLiteral (constant : Constant) (encoding : StringEncoding)
    (registry : Registry) : Orderly (stringLiteral constant encoding registry) := by
  have payload := (orderly_payload constant).2.2.2.2
  unfold stringLiteral
  split
  · split
    · exact orderly_ok _
    · exact (orderly_find registry encoding.dictionary).bind fun handle =>
        payload.bind fun value => orderly_ok _
  · split
    · exact orderly_ok _
    · refine payload.bind fun value => ?_
      split
      · exact orderly_of_not_breach (by simp)
      · exact orderly_ok _

theorem orderly_literalOf (constant : Constant) (encoding : StringEncoding)
    (registry : Registry) : Orderly (literalOf constant encoding registry) := by
  obtain ⟨bool, -, float, double, -⟩ := orderly_payload constant
  have stored := orderly_storedInteger constant
  unfold literalOf
  cases constant.type.storage
  case boolean =>
    refine Orderly.bind ?_ fun literal => orderly_ok _
    unfold booleanLiteral
    split
    · exact (orderly_nullInteger constant.type).bind fun value => orderly_ok _
    · exact bool.bind fun value => orderly_ok _
  case float =>
    refine Orderly.ite (orderly_ok _) (float.bind fun value => orderly_ok _)
  case double =>
    refine Orderly.ite (orderly_ok _) (double.bind fun value => orderly_ok _)
  case char | varchar | text => exact orderly_stringLiteral constant encoding registry
  case array | point | decimal => exact orderly_breach rfl
  all_goals exact stored.bind fun value => orderly_ok _

theorem orderly_immediate (workspace : Workspace) (constant : Constant)
    (encoding : StringEncoding) : Orderly (Session.immediate workspace constant encoding) := by
  obtain ⟨bool, -, float, double, string⟩ := orderly_payload constant
  have stored := orderly_storedInteger constant
  have null := orderly_nullInteger constant.type
  have integer : Orderly (Session.immediateInteger constant) :=
    (orderly_bitWidth constant.type).bind fun bits => stored.bind fun value => orderly_ok _
  have boolean : Orderly (Session.immediateBoolean constant) :=
    Orderly.ite (null.bind fun value => orderly_ok _) (bool.bind fun value => orderly_ok _)
  have text : Orderly (Session.immediateString workspace constant encoding) := by
    unfold Session.immediateString
    split
    · exact Orderly.ite (orderly_ok _) (string.bind fun value =>
        (orderly_find _ _).bind fun handle => orderly_ok _)
    · exact Orderly.ite (orderly_ok _) (string.bind fun value =>
        Orderly.ite (orderly_of_not_breach (by simp)) (orderly_ok _))
  unfold Session.immediate
  cases constant.type.storage
  case boolean => exact boolean.bind fun operand => orderly_ok _
  case float => exact Orderly.ite (orderly_ok _) (float.bind fun value => orderly_ok _)
  case double => exact Orderly.ite (orderly_ok _) (double.bind fun value => orderly_ok _)
  case char | varchar | text => exact text
  case array | point | decimal => exact orderly_breach rfl
  all_goals exact integer.bind fun operand => orderly_ok _

end Orderly

end QueryKernel
