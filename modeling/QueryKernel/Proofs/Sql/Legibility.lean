import QueryKernel.Proofs.Sql.Ranges
import QueryKernel.Proofs.Sql.Spelling

/-!
Contract: which constants are known from their texts.

Owns:
- the families of payloads, which their texts show;
- legible constants: strings without quotes, and numbers of the family of their type;
- the main statement: legible constants of equal texts are alike.

Does not own: the places of constants in a plan.
-/

namespace QueryKernel.Sql

open QueryKernel.Number

/-! ### Families -/

/-- What the text of a payload shows of the payload. -/
inductive Family where
  | null
  | truth
  | number
  | text
deriving DecidableEq

def Datum.family : Datum → Family
  | .null => .null
  | .bool _ => .truth
  | .text _ => .text
  | _ => .number

/-- The family that a text is read as. -/
def readFamily (text : List Char) : Family :=
  if text.head? = some '\'' then .text
  else if text = "NULL".toList then .null
  else if text = ['t'] ∨ text = ['f'] then .truth
  else .number

theorem readFamily_number {text : List Char}
    (chars : ∀ c ∈ text, isMagnitudeChar c = true ∨ c = '-') : readFamily text = .number := by
  have refused : ['\'', 'N', 't', 'f'].all (fun c => !isMagnitudeChar c && c != '-') = true := by
    decide
  have refuses : ∀ c ∈ ['\'', 'N', 't', 'f'], c ∉ text := by
    intro c member inside
    have other := List.all_eq_true.mp refused c member
    rcases chars c inside with magnitude | sign
    · simp [magnitude] at other
    · simp [sign] at other
  have quote : text.head? ≠ some '\'' := fun head =>
    refuses '\'' (by decide) (List.mem_of_mem_head? head)
  have null : text ≠ "NULL".toList := by
    rintro rfl
    exact refuses 'N' (by decide) (by decide)
  have truth : ¬ (text = ['t'] ∨ text = ['f']) := by
    rintro (rfl | rfl)
    · exact refuses 't' (by decide) (by decide)
    · exact refuses 'f' (by decide) (by decide)
  rw [readFamily, if_neg quote, if_neg null, if_neg truth]

theorem readFamily_real (value : RealValue) :
    readFamily (value.text .plain).toList = .number := by
  cases value with
  | nan => decide
  | infinite negative => cases negative <;> decide
  | finite negative significand exponent lowest =>
      exact readFamily_number fun c member => RealValue.text_finite_chars member

/-- The text of a payload shows its family. -/
theorem Datum.readFamily_render (datum : Datum) :
    readFamily datum.render.toList = datum.family := by
  have integer : ∀ value : Int, readFamily (toString value).toList = .number := by
    intro value
    apply readFamily_number
    intro c member
    rcases integer_chars member with digit | sign
    · exact .inl (by simp [isMagnitudeChar, digit])
    · exact .inr sign
  cases datum with
  | null => decide
  | bool value => cases value <;> decide
  | smallInt value => exact integer value.toInt
  | int value => exact integer value.toInt
  | bigInt value => exact integer value.toInt
  | time value => exact integer value.toInt
  | float value => exact readFamily_real _
  | double value => exact readFamily_real _
  | text value =>
      rw [Datum.toList_render_text]
      rfl

/-! ### Legible constants -/

/-- Whether the text of a float tells it apart: every NaN has the text of the first quiet one. -/
def isLegibleFloat (value : Real32) : Bool :=
  RealLayout.single.decode value.bits.toNat != .nan || value == ⟨0x7fc00000⟩

/-- Whether the text of a double tells it apart. -/
def isLegibleDouble (value : Real64) : Bool :=
  RealLayout.wide.decode value.bits.toNat != .nan || value == ⟨0x7ff8000000000000⟩

/-- Whether a constant is known from its text: a string has no quote inside, and a number is of
the family of its type. -/
def Constant.isLegible (constant : Constant) : Bool :=
  match constant.datum with
  | .null | .bool _ => true
  | .text value => !value.toList.contains '\''
  | .float value => constant.type.storage == .float && isLegibleFloat value
  | .double value => constant.type.storage == .double && isLegibleDouble value
  | _ => constant.type.storage != .float && constant.type.storage != .double

theorem Constant.isQuoteFree_of_isLegible {constant : Constant}
    (legible : constant.isLegible = true) : constant.datum.isQuoteFree = true := by
  unfold isLegible at legible
  unfold Datum.isQuoteFree
  split
  · rename_i value datum
    rw [datum] at legible
    exact legible
  · rfl

theorem float_unique {left right : Real32} (leftLegible : isLegibleFloat left = true)
    (rightLegible : isLegibleFloat right = true) (same : left.text = right.text) :
    left = right := by
  by_cases leftNan : RealLayout.single.decode left.bits.toNat = .nan
  · by_cases rightNan : RealLayout.single.decode right.bits.toNat = .nan
    · simp only [isLegibleFloat, leftNan, rightNan, bne_self_eq_false, Bool.false_or,
        beq_iff_eq] at leftLegible rightLegible
      rw [leftLegible, rightLegible]
    · exact (Real32.text_injective same.symm rightNan).symm
  · exact Real32.text_injective same leftNan

theorem double_unique {left right : Real64} (leftLegible : isLegibleDouble left = true)
    (rightLegible : isLegibleDouble right = true) (same : left.text = right.text) :
    left = right := by
  by_cases leftNan : RealLayout.wide.decode left.bits.toNat = .nan
  · by_cases rightNan : RealLayout.wide.decode right.bits.toNat = .nan
    · simp only [isLegibleDouble, leftNan, rightNan, bne_self_eq_false, Bool.false_or,
        beq_iff_eq] at leftLegible rightLegible
      rw [leftLegible, rightLegible]
    · exact (Real64.text_injective same.symm rightNan).symm
  · exact Real64.text_injective same leftNan

theorem Datum.render_of_integer {datum : Datum} {value : Int64}
    (integer : datum.integer? = some value) : datum.render = toString value.toInt := by
  cases datum with
  | smallInt stored =>
      cases integer
      rw [Int16.toInt_toInt64]
      rfl
  | int stored =>
      cases integer
      rw [Int32.toInt_toInt64]
      rfl
  | bigInt stored =>
      cases integer
      rfl
  | time stored =>
      cases integer
      rfl
  | _ => contradiction

theorem Datum.family_of_integer {datum : Datum} {value : Int64}
    (integer : datum.integer? = some value) : datum.family = .number := by
  cases datum <;> first | rfl | contradiction

section Legible

variable {left right : Constant}

theorem Constant.storage_of_integer {constant : Constant} {value : Int64}
    (legible : constant.isLegible = true) (integer : constant.datum.integer? = some value) :
    constant.type.storage ≠ .float ∧ constant.type.storage ≠ .double := by
  unfold isLegible at legible
  cases datum : constant.datum <;> rw [datum] at legible integer <;>
    first
      | contradiction
      | simpa using legible

/-- A legible number that is not an integer is a float or a double of its type. -/
theorem Constant.real_of_legible {constant : Constant} (legible : constant.isLegible = true)
    (number : constant.datum.family = .number) (noInteger : constant.datum.integer? = none) :
    (∃ value, constant.datum = .float value ∧ constant.type.storage = .float ∧
      isLegibleFloat value = true) ∨
    ∃ value, constant.datum = .double value ∧ constant.type.storage = .double ∧
      isLegibleDouble value = true := by
  unfold isLegible at legible
  cases datum : constant.datum <;> rw [datum] at legible number noInteger <;>
    first
      | contradiction
      | skip
  · exact .inl ⟨_, rfl, by simpa using legible⟩
  · exact .inr ⟨_, rfl, by simpa using legible⟩

/-- An integer and another number do not share a text, if they are legible. -/
theorem not_integer_and_real {value : Int64} (leftLegible : left.isLegible = true)
    (rightLegible : right.isLegible = true) (storage : left.type.storage = right.type.storage)
    (family : left.datum.family = right.datum.family)
    (leftInteger : left.datum.integer? = some value) : right.datum.integer? ≠ none := by
  intro noInteger
  rw [Datum.family_of_integer leftInteger] at family
  have integral := Constant.storage_of_integer leftLegible leftInteger
  rcases Constant.real_of_legible rightLegible family.symm noInteger with
    ⟨_, -, float, -⟩ | ⟨_, -, double, -⟩
  · exact integral.1 (storage.trans float)
  · exact integral.2 (storage.trans double)

theorem integer_of_render {datum other : Datum} {value otherValue : Int64}
    (integer : datum.integer? = some value) (otherInteger : other.integer? = some otherValue)
    (same : datum.render = other.render) : value = otherValue := by
  rw [Datum.render_of_integer integer, Datum.render_of_integer otherInteger] at same
  have texts : (toString value.toInt).toList ++ [] = (toString otherValue.toInt).toList ++ [] := by
    rw [same]
  exact Int64.toInt_inj.mp
    (Text.integer_unique (Text.stops_nil _) (Text.stops_nil _) texts).1

/-- Floats and doubles of one text are equal, if they are legible. -/
theorem real_of_render (leftLegible : left.isLegible = true)
    (rightLegible : right.isLegible = true) (storage : left.type.storage = right.type.storage)
    (leftNumber : left.datum.family = .number) (rightNumber : right.datum.family = .number)
    (leftReal : left.datum.integer? = none) (rightReal : right.datum.integer? = none)
    (same : left.datum.render = right.datum.render) : left.datum = right.datum := by
  rcases Constant.real_of_legible leftLegible leftNumber leftReal with
    ⟨leftValue, leftDatum, leftStorage, leftTold⟩ |
    ⟨leftValue, leftDatum, leftStorage, leftTold⟩ <;>
  rcases Constant.real_of_legible rightLegible rightNumber rightReal with
    ⟨rightValue, rightDatum, rightStorage, rightTold⟩ |
    ⟨rightValue, rightDatum, rightStorage, rightTold⟩
  · rw [leftDatum, rightDatum] at same ⊢
    rw [float_unique leftTold rightTold same]
  · rw [leftStorage, rightStorage] at storage
    contradiction
  · rw [leftStorage, rightStorage] at storage
    contradiction
  · rw [leftDatum, rightDatum] at same ⊢
    rw [double_unique leftTold rightTold same]

/-- Payloads of one text that are no numbers are equal. -/
theorem word_of_render {datum other : Datum} (noNumber : datum.family ≠ .number)
    (same : datum.render = other.render) : datum = other := by
  have family : datum.family = other.family := by
    rw [← Datum.readFamily_render, ← Datum.readFamily_render, same]
  cases datum with
  | null => cases other <;> first | rfl | contradiction
  | bool value =>
      cases other with
      | bool otherValue =>
          revert same
          cases value <;> cases otherValue <;> decide
      | _ => contradiction
  | text value =>
      cases other with
      | text otherValue =>
          have texts := congrArg String.toList same
          rw [Datum.toList_render_text, Datum.toList_render_text] at texts
          rw [String.toList_inj.mp (List.append_cancel_right (List.cons.inj texts).2)]
      | _ => contradiction
  | _ => exact absurd rfl noNumber

/-- Payloads with one text are equal or hold one integer, if they are legible. -/
theorem datum_of_render (leftLegible : left.isLegible = true)
    (rightLegible : right.isLegible = true) (storage : left.type.storage = right.type.storage)
    (same : left.datum.render = right.datum.render) :
    left.datum = right.datum ∨
      ∃ value, left.datum.integer? = some value ∧ right.datum.integer? = some value := by
  have family : left.datum.family = right.datum.family := by
    rw [← Datum.readFamily_render, ← Datum.readFamily_render, same]
  by_cases number : left.datum.family = .number
  · cases leftInteger : left.datum.integer? with
    | some leftValue =>
        cases rightInteger : right.datum.integer? with
        | some rightValue =>
            exact .inr ⟨rightValue, by rw [integer_of_render leftInteger rightInteger same], rfl⟩
        | none =>
            exact absurd rightInteger
              (not_integer_and_real leftLegible rightLegible storage family leftInteger)
    | none =>
        cases rightInteger : right.datum.integer? with
        | some rightValue =>
            exact absurd leftInteger
              (not_integer_and_real rightLegible leftLegible storage.symm family.symm rightInteger)
        | none =>
            exact .inl (real_of_render leftLegible rightLegible storage number
              (family ▸ number) leftInteger rightInteger same)
  · exact .inl (word_of_render number same)

theorem alike_of_datum (types : left.type.Alike right.type)
    (datum : left.datum = right.datum) : left.Alike right where
  type := types
  isNull := by rw [Constant.isNull, Constant.isNull, datum]
  bool value := by
    unfold Constant.boolValue
    rw [← datum]
    split <;> simp
  integer value := by
    unfold Constant.intValue
    rw [← datum]
    split <;> simp
  float value := by
    unfold Constant.floatValue
    rw [← datum]
    split <;> simp
  double value := by
    unfold Constant.doubleValue
    rw [← datum]
    split <;> simp
  string value := by
    unfold Constant.stringValue
    rw [← datum]
    split <;> simp

/-- An integer payload is read as an integer only. -/
theorem Constant.only_integer {constant : Constant} {value : Int64}
    (integer : constant.datum.integer? = some value) :
    constant.isNull = false ∧ (∀ other, constant.boolValue ≠ .ok other) ∧
      (∀ other, constant.floatValue ≠ .ok other) ∧ (∀ other, constant.doubleValue ≠ .ok other) ∧
      ∀ other, constant.stringValue ≠ .ok other := by
  unfold Constant.isNull Constant.boolValue Constant.floatValue Constant.doubleValue
    Constant.stringValue
  cases datum : constant.datum <;> rw [datum] at integer <;> first | contradiction | simp

theorem alike_of_integer {value : Int64}
    (types : left.type.Alike right.type) (leftInteger : left.datum.integer? = some value)
    (rightInteger : right.datum.integer? = some value) : left.Alike right := by
  rcases Constant.only_integer leftInteger with
    ⟨leftNull, leftBool, leftFloat, leftDouble, leftText⟩
  rcases Constant.only_integer rightInteger with
    ⟨rightNull, rightBool, rightFloat, rightDouble, rightText⟩
  refine ⟨types, leftNull.trans rightNull.symm, ?_, ?_, ?_, ?_, ?_⟩
  · exact fun other => iff_of_false (leftBool other) (rightBool other)
  · rw [Constant.intValue_of_integer leftInteger, Constant.intValue_of_integer rightInteger]
    exact fun _ => Iff.rfl
  · exact fun other => iff_of_false (leftFloat other) (rightFloat other)
  · exact fun other => iff_of_false (leftDouble other) (rightDouble other)
  · exact fun other => iff_of_false (leftText other) (rightText other)

/-- Legible constants of equal texts are alike. -/
theorem alike_of_texts (leftLegible : left.isLegible = true)
    (rightLegible : right.isLegible = true) (types : left.type.render = right.type.render)
    (payloads : left.datum.render = right.datum.render) : left.Alike right := by
  have alike := DataType.alike_of_render types
  rcases datum_of_render leftLegible rightLegible alike.storage payloads with
    datum | ⟨value, leftInteger, rightInteger⟩
  · exact alike_of_datum alike datum
  · exact alike_of_integer alike leftInteger rightInteger

end Legible

end QueryKernel.Sql
