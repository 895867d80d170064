import QueryKernel.Proofs.Number.Spelling
import QueryKernel.Proofs.Sql.Likeness

/-!
Contract: what the texts of types and payloads tell apart.

Owns:
- the text of a type, which is read off uniquely in front of a parenthesis, and which only
  alike types share;
- the text of a payload, which is read off uniquely in front of a blank, if it has no quote.

Does not own: which payloads a text can stand for.
-/

namespace QueryKernel.Sql

open QueryKernel.Number
open QueryKernel.Text (Stops)

/-! ### Types -/

/-- A character of the name of a kind. -/
def isNameChar (c : Char) : Bool := c.isUpper || c == '_'

theorem Kind.name_chars (kind : Kind) : ∀ c ∈ kind.name.toList, isNameChar c = true := by
  apply List.all_eq_true.mp
  cases kind <;> decide

theorem Kind.name_injective {left right : Kind} (same : left.name.toList = right.name.toList) :
    left = right := by
  revert same
  cases left <;> cases right <;> decide

namespace DataType

def shapeText (type : DataType) : List Char :=
  if type.isDecimal then
    '(' :: ((toString type.precision.toNat).toList ++ ',' ::
      ((toString type.scale.toNat).toList ++ [')']))
  else []

def encodingText (type : DataType) : List Char :=
  match type.encoding with
  | .plain => []
  | .dictionary => " ENCODING DICT(".toList ++ ((toString type.parameter.toInt).toList ++ [')'])

def constraintText (type : DataType) : List Char :=
  if type.notNull then " NOT NULL".toList else []

theorem toList_render (type : DataType) :
    type.render.toList =
      type.kind.name.toList ++ (type.shapeText ++ (type.encodingText ++ type.constraintText)) := by
  have kind : type.isDecimal = true → type.kind = .decimal := by
    intro decimal
    simpa [isDecimal] using decimal
  unfold render shapeText encodingText constraintText
  by_cases decimal : type.isDecimal
  · rw [kind decimal]
    cases type.encoding <;> cases type.notNull <;> simp [decimal, Kind.name]
  · cases type.encoding <;> cases type.notNull <;> simp [decimal]

end DataType

section Types

variable {left right : DataType} {leftRest rightRest : List Char}

theorem constraint_unique
    (same : left.constraintText ++ ')' :: leftRest = right.constraintText ++ ')' :: rightRest) :
    left.notNull = right.notNull ∧ leftRest = rightRest := by
  unfold DataType.constraintText at same
  cases leftBound : left.notNull <;> cases rightBound : right.notNull
  · simpa [leftBound, rightBound] using same
  · simp [leftBound, rightBound] at same
  · simp [leftBound, rightBound] at same
  · simpa [leftBound, rightBound] using same

/-- A constraint does not begin like an encoding. -/
theorem constraint_ne_encoding {other : List Char} :
    left.constraintText ++ ')' :: leftRest ≠ " ENCODING DICT(".toList ++ other := by
  unfold DataType.constraintText
  cases left.notNull <;> simp

theorem stops_close (rest : List Char) : Stops Char.isDigit (')' :: rest) :=
  Text.stops_cons rest (by decide)

theorem encoding_unique
    (same : left.encodingText ++ (left.constraintText ++ ')' :: leftRest) =
      right.encodingText ++ (right.constraintText ++ ')' :: rightRest)) :
    left.encoding = right.encoding ∧
      (left.encoding = .dictionary → left.parameter = right.parameter) ∧
      left.constraintText ++ ')' :: leftRest = right.constraintText ++ ')' :: rightRest := by
  unfold DataType.encodingText at same
  cases leftMode : left.encoding with
  | plain =>
      cases rightMode : right.encoding with
      | plain =>
          simp only [leftMode, rightMode, List.nil_append] at same
          exact ⟨rfl, fun impossible => by contradiction, same⟩
      | dictionary =>
          simp only [leftMode, rightMode, List.nil_append, List.append_assoc] at same
          exact absurd same constraint_ne_encoding
  | dictionary =>
      cases rightMode : right.encoding with
      | plain =>
          simp only [leftMode, rightMode, List.nil_append, List.append_assoc] at same
          exact absurd same.symm constraint_ne_encoding
      | dictionary =>
          simp only [leftMode, rightMode, List.append_assoc] at same
          rcases Text.integer_unique (stops_close _) (stops_close _)
            (List.append_cancel_left same) with ⟨parameters, rests⟩
          exact ⟨rfl, fun _ => Int32.toInt_inj.mp parameters, (List.cons.inj rests).2⟩

theorem shape_unique (kind : left.kind = right.kind)
    (same : left.shapeText ++ leftRest = right.shapeText ++ rightRest) :
    left.storage = right.storage ∧ leftRest = rightRest := by
  have decimal : right.isDecimal = left.isDecimal := by
    rw [DataType.isDecimal, DataType.isDecimal, kind]
  unfold DataType.shapeText at same
  unfold DataType.storage
  rw [decimal] at same ⊢
  by_cases isDecimal : left.isDecimal
  · rw [if_pos isDecimal, if_pos isDecimal] at same
    rw [if_pos isDecimal, if_pos isDecimal, DataType.decimalStorage, DataType.decimalStorage]
    simp only [List.cons_append, List.append_assoc] at same
    have comma : ∀ rest, Stops Char.isDigit (',' :: rest) := fun rest =>
      Text.stops_cons rest (by decide)
    rcases Text.numeral_unique (comma _) (comma _) (List.cons.inj same).2 with
      ⟨precisions, behind⟩
    rcases Text.numeral_unique (stops_close _) (stops_close _) (List.cons.inj behind).2 with
      ⟨-, rests⟩
    rw [UInt8.toNat_inj.mp precisions]
    exact ⟨rfl, (List.cons.inj rests).2⟩
  · rw [if_neg isDecimal, if_neg isDecimal] at same
    rw [if_neg isDecimal, if_neg isDecimal]
    exact ⟨kind, same⟩

/-- What follows the name of a kind does not continue it. -/
theorem stops_name (type : DataType) (rest : List Char) :
    Stops isNameChar
      (type.shapeText ++ (type.encodingText ++ (type.constraintText ++ ')' :: rest))) := by
  unfold DataType.shapeText DataType.encodingText DataType.constraintText
  by_cases decimal : type.isDecimal
  · rw [if_pos decimal]
    exact Text.stops_cons _ (by decide)
  · rw [if_neg decimal]
    cases type.encoding with
    | dictionary => exact Text.stops_cons _ (by decide)
    | plain =>
        cases type.notNull with
        | false => exact Text.stops_cons _ (by decide)
        | true => exact Text.stops_cons _ (by decide)

/-- In front of a parenthesis the text of a type is read off uniquely. -/
theorem type_unique
    (same : left.render.toList ++ ')' :: leftRest = right.render.toList ++ ')' :: rightRest) :
    left.Alike right ∧ left.render = right.render ∧ leftRest = rightRest := by
  have texts := same
  rw [DataType.toList_render, DataType.toList_render] at texts
  simp only [List.append_assoc] at texts
  rcases Text.token_unique left.kind.name_chars right.kind.name_chars (stops_name left leftRest)
    (stops_name right rightRest) texts with ⟨names, afterName⟩
  have kind := Kind.name_injective names
  rcases shape_unique kind afterName with ⟨storage, afterShape⟩
  rcases encoding_unique afterShape with ⟨encoding, dictionary, afterEncoding⟩
  rcases constraint_unique afterEncoding with ⟨notNull, rests⟩
  subst rests
  exact ⟨⟨kind, storage, notNull, encoding, dictionary⟩,
    String.toList_inj.mp (List.append_cancel_right same), rfl⟩

/-- Only alike types share a text. -/
theorem DataType.alike_of_render (same : left.render = right.render) : left.Alike right := by
  have texts : left.render.toList ++ [')'] = right.render.toList ++ [')'] := by rw [same]
  exact (type_unique texts).1

end Types

/-! ### Payloads -/

/-- Whether a payload has no quote inside. -/
def Datum.isQuoteFree : Datum → Bool
  | .text value => !value.toList.contains '\''
  | _ => true

/-- The characters of the text of a payload that is not a string. -/
def isPlainChar (c : Char) : Bool := c.isAlphanum || c == '.' || c == '-'

theorem isPlainChar_of_isDigit {c : Char} (digit : c.isDigit = true) : isPlainChar c = true := by
  simp [isPlainChar, Char.isAlphanum, digit]

theorem isPlainChar_of_isMagnitudeChar {c : Char} (magnitude : isMagnitudeChar c = true) :
    isPlainChar c = true := by
  unfold isMagnitudeChar at magnitude
  rcases Bool.or_eq_true_iff.mp magnitude with digit | point
  · exact isPlainChar_of_isDigit digit
  · simp [isPlainChar, point]

theorem integer_chars {value : Int} {c : Char} (member : c ∈ (toString value).toList) :
    c.isDigit = true ∨ c = '-' := by
  rw [Text.toList_toString_int] at member
  split at member
  · rcases List.mem_cons.mp member with sign | digit
    · exact .inr sign
    · exact .inl (Text.isDigit_of_mem_numeral digit)
  · exact .inl (Text.isDigit_of_mem_numeral member)

theorem real_chars {value : RealValue} {c : Char} (member : c ∈ (value.text .plain).toList) :
    isPlainChar c = true := by
  cases value with
  | nan => exact List.all_eq_true.mp (by decide) c member
  | infinite negative =>
      revert member
      apply List.all_eq_true.mp
      cases negative <;> decide
  | finite negative significand exponent lowest =>
      rcases RealValue.text_finite_chars member with magnitude | rfl
      · exact isPlainChar_of_isMagnitudeChar magnitude
      · decide

theorem Datum.plain_chars {datum : Datum} (noText : ∀ value, datum ≠ .text value) :
    ∀ c ∈ datum.render.toList, isPlainChar c = true := by
  have integer : ∀ value : Int, ∀ c ∈ (toString value).toList, isPlainChar c = true := by
    intro value c member
    rcases integer_chars member with digit | rfl
    · exact isPlainChar_of_isDigit digit
    · decide
  cases datum with
  | null => exact List.all_eq_true.mp (by decide)
  | bool value =>
      apply List.all_eq_true.mp
      cases value <;> decide
  | smallInt value => exact integer value.toInt
  | int value => exact integer value.toInt
  | bigInt value => exact integer value.toInt
  | time value => exact integer value.toInt
  | float value => exact fun c member => real_chars member
  | double value => exact fun c member => real_chars member
  | text value => exact absurd rfl (noText value)

theorem Datum.toList_render_text (value : String) :
    (Datum.text value).render.toList = '\'' :: (value.toList ++ ['\'']) := by
  simp [Datum.render]

/-- In front of a blank the text of a payload without quotes is read off uniquely. -/
theorem datum_unique {left right : Datum} {leftRest rightRest : List Char}
    (leftFree : left.isQuoteFree = true) (rightFree : right.isQuoteFree = true)
    (same : left.render.toList ++ ' ' :: leftRest = right.render.toList ++ ' ' :: rightRest) :
    left.render = right.render ∧ leftRest = rightRest := by
  -- Only strings begin with a quote.
  have unquoted : ∀ {datum : Datum} {rest other : List Char},
      (∀ value, datum ≠ .text value) → datum.render.toList ++ ' ' :: rest ≠ '\'' :: other := by
    intro datum rest other noText begins
    cases text : datum.render.toList with
    | nil =>
        rw [text] at begins
        exact absurd (List.cons.inj begins).1 (by decide)
    | cons c tail =>
        have plain := Datum.plain_chars noText c (by rw [text]; exact List.mem_cons_self)
        rw [text] at begins
        rw [(List.cons.inj begins).1] at plain
        contradiction
  have blank : ∀ {datum : Datum}, (∀ value, datum ≠ .text value) → ' ' ∉ datum.render.toList := by
    intro datum noText member
    have plain := Datum.plain_chars noText ' ' member
    contradiction
  by_cases leftText : ∃ value, left = .text value
  · rcases leftText with ⟨leftValue, rfl⟩
    by_cases rightText : ∃ value, right = .text value
    · rcases rightText with ⟨rightValue, rfl⟩
      rw [Datum.toList_render_text, Datum.toList_render_text] at same
      simp only [List.cons_append, List.append_assoc, List.nil_append] at same
      simp only [Datum.isQuoteFree, Bool.not_eq_true', List.contains_eq_mem,
        decide_eq_false_iff_not] at leftFree rightFree
      rcases Text.separated_unique leftFree rightFree (List.cons.inj same).2 with ⟨values, rests⟩
      rw [String.toList_inj.mp values]
      exact ⟨rfl, (List.cons.inj rests).2⟩
    · rw [Datum.toList_render_text] at same
      exact absurd same.symm (unquoted (not_exists.mp rightText))
  · by_cases rightText : ∃ value, right = .text value
    · rcases rightText with ⟨rightValue, rfl⟩
      rw [Datum.toList_render_text] at same
      exact absurd same (unquoted (not_exists.mp leftText))
    · rcases Text.separated_unique (blank (not_exists.mp leftText))
        (blank (not_exists.mp rightText)) same with ⟨texts, rests⟩
      exact ⟨String.toList_inj.mp texts, rests⟩

end QueryKernel.Sql
