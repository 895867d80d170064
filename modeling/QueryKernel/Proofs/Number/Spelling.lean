import QueryKernel.Proofs.Number.Shortest

/-!
Contract: the plain text of a floating word determines the word.

Owns:
- the decoded form of a finite word, and that the word is known from it;
- no number rounds to two finite words;
- the characters of a plain text;
- the main statement, for every word that is not a NaN.

Does not own: the marked text, in which messages show words.
-/

namespace QueryKernel.Number

/-! ### Decoded words -/

/-- The least exponent of a layout, which the words without an implicit bit have. -/
def RealLayout.leastExponent (layout : RealLayout) : ℤ :=
  1 - (2 ^ (layout.exponentBits - 1) - 1 + layout.fractionBits)

/-- The decoded form of a finite word. -/
structure RealLayout.Decodes (layout : RealLayout) (significand : Nat) (exponent : ℤ)
    (lowest : Bool) : Prop where
  bounded : significand < 2 ^ (layout.fractionBits + 1)
  least : layout.leastExponent ≤ exponent
  normal : layout.leastExponent < exponent → 2 ^ layout.fractionBits ≤ significand
  lowest : lowest = true ↔
    significand = 2 ^ layout.fractionBits ∧ layout.leastExponent < exponent

theorem RealLayout.decode_finite {layout : RealLayout} {word : Nat} {negative lowest : Bool}
    {significand : Nat} {exponent : ℤ}
    (decoded : layout.decode word = .finite negative significand exponent lowest) :
    layout.Decodes significand exponent lowest := by
  have bounded : word % 2 ^ layout.fractionBits < 2 ^ layout.fractionBits :=
    Nat.mod_lt _ (Nat.pow_pos (by decide))
  have double := Nat.pow_succ (n := 2) (m := layout.fractionBits)
  unfold decode at decoded
  generalize word % 2 ^ layout.fractionBits = fraction at bounded decoded
  generalize word / 2 ^ layout.fractionBits % 2 ^ layout.exponentBits = biased at decoded
  dsimp only at decoded
  split at decoded
  · split at decoded
    · contradiction
    · contradiction
  · split at decoded
    · cases decoded
      refine ⟨by omega, Int.le_refl _, fun impossible => ?_, ?_⟩
      · exact absurd impossible (lt_irrefl _)
      · simp [leastExponent]
    · cases decoded
      refine ⟨by omega, ?_, fun _ => Nat.le_add_right _ _, ?_⟩ <;> unfold leastExponent
      · omega
      simp only [Bool.and_eq_true, beq_iff_eq, decide_eq_true_eq]
      omega

/-- A word is put together from its fields. -/
theorem RealLayout.word_eq {layout : RealLayout} {word : Nat}
    (bound : word < 2 ^ (layout.fractionBits + layout.exponentBits + 1)) :
    word = word % 2 ^ layout.fractionBits + 2 ^ layout.fractionBits *
      (word / 2 ^ layout.fractionBits % 2 ^ layout.exponentBits + 2 ^ layout.exponentBits *
        (word / 2 ^ (layout.fractionBits + layout.exponentBits) % 2)) := by
  have sign : word / 2 ^ (layout.fractionBits + layout.exponentBits) < 2 := by
    apply Nat.div_lt_of_lt_mul
    rw [← Nat.pow_succ]
    exact bound
  rw [Nat.mod_eq_of_lt sign, Nat.pow_add, ← Nat.div_div_eq_div_mul, Nat.mod_add_div,
    Nat.mod_add_div]

/-- A word that is not a NaN is known from its decoded form. -/
theorem RealLayout.decode_injective {layout : RealLayout} {left right : Nat}
    (leftBound : left < 2 ^ (layout.fractionBits + layout.exponentBits + 1))
    (rightBound : right < 2 ^ (layout.fractionBits + layout.exponentBits + 1))
    (notNan : layout.decode left ≠ .nan) (same : layout.decode left = layout.decode right) :
    left = right := by
  rw [word_eq leftBound, word_eq rightBound]
  have leftSign := Nat.mod_lt (left / 2 ^ (layout.fractionBits + layout.exponentBits))
    (by decide : 0 < 2)
  have rightSign := Nat.mod_lt (right / 2 ^ (layout.fractionBits + layout.exponentBits))
    (by decide : 0 < 2)
  have leftFraction := Nat.mod_lt left (Nat.pow_pos (by decide) : 0 < 2 ^ layout.fractionBits)
  have rightFraction := Nat.mod_lt right (Nat.pow_pos (by decide) : 0 < 2 ^ layout.fractionBits)
  unfold decode at notNan same
  generalize left % 2 ^ layout.fractionBits = fraction at *
  generalize right % 2 ^ layout.fractionBits = otherFraction at *
  generalize left / 2 ^ layout.fractionBits % 2 ^ layout.exponentBits = biased at *
  generalize right / 2 ^ layout.fractionBits % 2 ^ layout.exponentBits = otherBiased at *
  generalize left / 2 ^ (layout.fractionBits + layout.exponentBits) % 2 = sign at *
  generalize right / 2 ^ (layout.fractionBits + layout.exponentBits) % 2 = otherSign at *
  have signs : (sign == 1) = (otherSign == 1) → sign = otherSign := by
    intro equal
    rw [Bool.eq_iff_iff, beq_iff_eq, beq_iff_eq] at equal
    omega
  dsimp only at notNan same
  have fields : fraction = otherFraction ∧ biased = otherBiased ∧ sign = otherSign := by
    split_ifs at same notNan
    any_goals exact absurd rfl notNan
    all_goals simp only [RealValue.infinite.injEq, RealValue.finite.injEq] at same
    · exact ⟨by omega, by omega, signs same⟩
    all_goals
      obtain ⟨signsSame, significands, exponents, -⟩ := same
      exact ⟨by omega, by omega, signs signsSame⟩
  rw [fields.1, fields.2.1, fields.2.2]

/-! ### Neighbourhoods of words -/

/-- How far a neighbourhood reaches below its word, in quarters of a step. -/
def reachBelow (lowest : Bool) : Nat := if lowest then 1 else 2

theorem two_zpow_mul_denominator (exponent : ℤ) :
    (2 : ℚ) ^ exponent * (2 ^ (-exponent).toNat : Nat) = (2 ^ exponent.toNat : Nat) := by
  push_cast
  rw [← zpow_natCast, ← zpow_natCast, ← zpow_add₀ (by norm_num)]
  congr 1
  omega

/-- Membership in the neighbourhood of a word. The ends belong to even significands. -/
theorem neighbourhood_contains {significand : Nat} {exponent : ℤ} {lowest : Bool} {number : ℚ}
    (positive : 0 < significand)
    (contains : (neighbourhood significand exponent lowest).Contains number) :
    (4 * significand - reachBelow lowest) * 2 ^ (exponent - 2) ≤ number ∧
      number ≤ (4 * significand + 2) * 2 ^ (exponent - 2) ∧
      (significand % 2 = 1 →
        (4 * significand - reachBelow lowest) * 2 ^ (exponent - 2) < number ∧
        number < (4 * significand + 2) * 2 ^ (exponent - 2)) := by
  have denominator : (0 : ℚ) < (2 ^ (-(exponent - 2)).toNat : Nat) := by positivity
  have power := two_zpow_mul_denominator (exponent - 2)
  have lower : ((4 * significand - reachBelow lowest) * 2 ^ (exponent - 2) : ℚ) *
      (2 ^ (-(exponent - 2)).toNat : Nat) =
      ((4 * significand - reachBelow lowest : Nat) * 2 ^ (exponent - 2).toNat : Nat) := by
    have reach : reachBelow lowest ≤ 4 * significand := by
      unfold reachBelow
      split <;> omega
    rw [mul_assoc, power]
    push_cast [reach]
    ring
  have upper : ((4 * significand + 2) * 2 ^ (exponent - 2) : ℚ) *
      (2 ^ (-(exponent - 2)).toNat : Nat) =
      ((4 * significand + 2 : Nat) * 2 ^ (exponent - 2).toNat : Nat) := by
    rw [mul_assoc, power]
    push_cast
    ring
  unfold Neighbourhood.Contains neighbourhood at contains
  dsimp only at contains
  rw [← reachBelow, ← lower, ← upper] at contains
  split at contains
  · rename_i even
    refine ⟨le_of_mul_le_mul_right contains.1 denominator,
      le_of_mul_le_mul_right contains.2 denominator, fun odd => ?_⟩
    rw [beq_iff_eq] at even
    omega
  · have below := lt_of_mul_lt_mul_right contains.1 denominator.le
    have above := lt_of_mul_lt_mul_right contains.2 denominator.le
    exact ⟨below.le, above.le, fun _ => ⟨below, above⟩⟩

section Disjoint

variable {layout : RealLayout} {leftSignificand rightSignificand : Nat}
  {leftExponent rightExponent : ℤ} {leftLowest rightLowest : Bool} {number : ℚ}

/-- Words of one exponent do not share a number. -/
theorem disjoint_of_lt_significand
    (left : layout.Decodes leftSignificand leftExponent leftLowest)
    (right : layout.Decodes rightSignificand leftExponent rightLowest)
    (leftPositive : 0 < leftSignificand) (less : leftSignificand < rightSignificand)
    (inLeft : (neighbourhood leftSignificand leftExponent leftLowest).Contains number)
    (inRight : (neighbourhood rightSignificand leftExponent rightLowest).Contains number) :
    False := by
  have unit : (0 : ℚ) < 2 ^ (leftExponent - 2) := by positivity
  have reach : reachBelow rightLowest = 2 := by
    cases first : rightLowest with
    | false => rfl
    | true =>
        have least := right.lowest.mp first
        have normal := left.normal least.2
        omega
  rcases neighbourhood_contains leftPositive inLeft with ⟨-, upper, leftOdd⟩
  rcases neighbourhood_contains (by omega) inRight with ⟨lower, -, rightOdd⟩
  rw [reach] at lower rightOdd
  have between := le_of_mul_le_mul_right (lower.trans upper) unit
  have adjacent : rightSignificand = leftSignificand + 1 := by
    have bound : (rightSignificand : ℚ) ≤ leftSignificand + 1 := by
      push_cast at between
      linarith
    have boundNat : rightSignificand ≤ leftSignificand + 1 := by exact_mod_cast bound
    omega
  -- One of two neighbours is odd, so that the number is not the end between them.
  have strict : ((4 * rightSignificand - (2 : Nat)) * 2 ^ (leftExponent - 2) : ℚ) <
      (4 * leftSignificand + 2) * 2 ^ (leftExponent - 2) := by
    by_cases odd : leftSignificand % 2 = 1
    · exact lt_of_le_of_lt lower (leftOdd odd).2
    · exact lt_of_lt_of_le (rightOdd (by omega)).1 upper
  have apart := lt_of_mul_lt_mul_right strict unit.le
  rw [adjacent] at apart
  push_cast at apart
  linarith

/-- Words of different exponents do not share a number. -/
theorem disjoint_of_lt_exponent
    (left : layout.Decodes leftSignificand leftExponent leftLowest)
    (right : layout.Decodes rightSignificand rightExponent rightLowest)
    (leftPositive : 0 < leftSignificand) (less : leftExponent < rightExponent)
    (inLeft : (neighbourhood leftSignificand leftExponent leftLowest).Contains number)
    (inRight : (neighbourhood rightSignificand rightExponent rightLowest).Contains number) :
    False := by
  have unit : (0 : ℚ) < 2 ^ (leftExponent - 2) := by positivity
  have above : layout.leastExponent < rightExponent := lt_of_le_of_lt left.least less
  have normal := right.normal above
  have bounded := left.bounded
  have implicit : 0 < 2 ^ layout.fractionBits := Nat.pow_pos (by decide)
  rw [Nat.pow_succ] at bounded
  rcases neighbourhood_contains leftPositive inLeft with ⟨-, upper, leftOdd⟩
  rcases neighbourhood_contains (by omega) inRight with ⟨lower, -, -⟩
  have reach : reachBelow rightLowest ≤ 2 := by
    unfold reachBelow
    split <;> omega
  -- A step of the greater exponent is at least two steps of the smaller one.
  have double : 2 * (2 : ℚ) ^ (leftExponent - 2) ≤ 2 ^ (rightExponent - 2) := by
    calc 2 * (2 : ℚ) ^ (leftExponent - 2) = 2 ^ (leftExponent - 2 + 1) := by
          rw [zpow_add₀ (by norm_num), zpow_one, mul_comm]
      _ ≤ 2 ^ (rightExponent - 2) := zpow_le_zpow_right₀ (by norm_num) (by omega)
  have nonnegative : (0 : ℚ) ≤ 4 * rightSignificand - reachBelow rightLowest := by
    have atLeast : reachBelow rightLowest ≤ 4 * rightSignificand := by omega
    have cast : (reachBelow rightLowest : ℚ) ≤ 4 * rightSignificand := by exact_mod_cast atLeast
    linarith
  have stretched := (mul_le_mul_of_nonneg_left double nonnegative).trans lower
  rw [← mul_assoc] at stretched
  have between := le_of_mul_le_mul_right (stretched.trans upper) unit
  have betweenNat :
      8 * rightSignificand ≤ 4 * leftSignificand + 2 + 2 * reachBelow rightLowest := by
    have rational : (8 * rightSignificand : ℚ) ≤
        4 * leftSignificand + 2 + 2 * reachBelow rightLowest := by linarith
    exact_mod_cast rational
  cases first : rightLowest with
  | false =>
      have different : rightSignificand ≠ 2 ^ layout.fractionBits := by
        intro same
        have lowest := right.lowest.mpr ⟨same, above⟩
        rw [first] at lowest
        contradiction
      omega
  | true =>
      have same := (right.lowest.mp first).1
      rw [first] at betweenNat stretched
      simp only [reachBelow, if_true] at betweenNat stretched
      have last : leftSignificand = 2 * 2 ^ layout.fractionBits - 1 := by omega
      have apart := lt_of_mul_lt_mul_right
        (lt_of_le_of_lt stretched (leftOdd (by omega)).2) unit.le
      have apartNat : 8 * rightSignificand < 4 * leftSignificand + 2 + 2 := by
        have rational : (8 * rightSignificand : ℚ) < 4 * leftSignificand + 2 + 2 := by
          push_cast at apart
          linarith
        exact_mod_cast rational
      omega

/-- No number rounds to two words. -/
theorem neighbourhood_unique
    (left : layout.Decodes leftSignificand leftExponent leftLowest)
    (right : layout.Decodes rightSignificand rightExponent rightLowest)
    (leftPositive : 0 < leftSignificand) (rightPositive : 0 < rightSignificand)
    (inLeft : (neighbourhood leftSignificand leftExponent leftLowest).Contains number)
    (inRight : (neighbourhood rightSignificand rightExponent rightLowest).Contains number) :
    leftSignificand = rightSignificand ∧ leftExponent = rightExponent ∧
      leftLowest = rightLowest := by
  rcases lt_trichotomy leftExponent rightExponent with less | rfl | greater
  · exact (disjoint_of_lt_exponent left right leftPositive less inLeft inRight).elim
  · rcases lt_trichotomy leftSignificand rightSignificand with less | rfl | greater
    · exact (disjoint_of_lt_significand left right leftPositive less inLeft inRight).elim
    · refine ⟨rfl, rfl, ?_⟩
      rw [Bool.eq_iff_iff, left.lowest, right.lowest]
    · exact (disjoint_of_lt_significand right left rightPositive greater inRight inLeft).elim
  · exact (disjoint_of_lt_exponent right left rightPositive greater inRight inLeft).elim

end Disjoint

/-! ### Texts -/

/-- The shortest decimal of a word rounds to the word. -/
theorem shortest_rounds {layout : RealLayout} {significand : Nat} {exponent : ℤ} {lowest : Bool}
    (decodes : layout.Decodes significand exponent lowest) (narrow : layout.fractionBits ≤ 52)
    (positive : 0 < significand) :
    (neighbourhood significand exponent lowest).Contains
      (neighbourhood significand exponent lowest).shortest.value := by
  have scale : 0 < 2 ^ (exponent - 2).toNat := Nat.pow_pos (by decide)
  have fraction : 2 ^ layout.fractionBits ≤ 2 ^ 52 := Nat.pow_le_pow_right (by decide) narrow
  have bounded := decodes.bounded
  rw [Nat.pow_succ] at bounded
  have reach : reachBelow lowest = 2 ∨
      reachBelow lowest = 1 ∧ significand = 2 ^ layout.fractionBits := by
    cases first : lowest with
    | false => exact .inl rfl
    | true => exact .inr ⟨rfl, (decodes.lowest.mp first).1⟩
  apply Neighbourhood.shortest_contains
  · unfold neighbourhood
    dsimp only
    rw [← reachBelow]
    exact Nat.mul_lt_mul_of_pos_right (by omega) scale
  · unfold neighbourhood
    dsimp only
    exact Nat.mul_lt_mul_of_pos_right (by omega) scale
  · exact Nat.pow_pos (by decide)
  · unfold neighbourhood
    dsimp only
    rw [← reachBelow, ← Nat.sub_mul, Nat.mul_right_comm _ _ (10 ^ (maximalDigits - 1))]
    apply Nat.mul_lt_mul_of_pos_right _ scale
    unfold maximalDigits
    omega

def magnitudeText (significand : Nat) (exponent : ℤ) (lowest : Bool) : List Char :=
  if significand = 0 then ['0']
  else ((neighbourhood significand exponent lowest).shortest.positionalText false).toList

def isMagnitudeChar (c : Char) : Bool := c.isDigit || c == '.'

theorem magnitudeText_chars {significand : Nat} {exponent : ℤ} {lowest : Bool} {c : Char}
    (member : c ∈ magnitudeText significand exponent lowest) : isMagnitudeChar c = true := by
  have digits : ∀ {value : Nat} {c : Char}, c ∈ Nat.toDigits 10 value →
      isMagnitudeChar c = true := by
    intro value c member
    rw [isMagnitudeChar, Nat.isDigit_of_mem_toDigits (by decide) (by decide) member]
    rfl
  have zeros : ∀ {count : Nat} {c : Char}, c ∈ List.replicate count '0' →
      isMagnitudeChar c = true := by
    intro count c member
    rw [List.eq_of_mem_replicate member]
    rfl
  unfold magnitudeText at member
  split at member
  · rw [List.mem_singleton.mp member]
    rfl
  · unfold Decimal.positionalText at member
    dsimp only at member
    split at member
    · simp only [String.toList_append, String.toList_ofList, List.mem_append] at member
      rcases member with (member | member) | member
      · exact digits member
      · exact zeros member
      · contradiction
    · split at member
      · simp only [String.toList_append, String.toList_ofList, List.mem_append] at member
        rcases member with (member | member) | member
        · exact digits (List.mem_of_mem_take member)
        · rw [List.mem_singleton.mp member]
          rfl
        · exact digits (List.mem_of_mem_drop member)
      · simp only [String.toList_append, String.toList_ofList, List.mem_append] at member
        rcases member with member | member | member
        · exact List.all_eq_true.mp (by decide) c member
        · exact zeros member
        · exact digits member

/-- A magnitude is known from its text. -/
theorem magnitudeText_injective {layout : RealLayout} (narrow : layout.fractionBits ≤ 52)
    {leftSignificand rightSignificand : Nat} {leftExponent rightExponent : ℤ}
    {leftLowest rightLowest : Bool}
    (left : layout.Decodes leftSignificand leftExponent leftLowest)
    (right : layout.Decodes rightSignificand rightExponent rightLowest)
    (same : magnitudeText leftSignificand leftExponent leftLowest =
      magnitudeText rightSignificand rightExponent rightLowest) :
    leftSignificand = rightSignificand ∧ leftExponent = rightExponent ∧
      leftLowest = rightLowest := by
  have implicit : 0 < 2 ^ layout.fractionBits := Nat.pow_pos (by decide)
  have zeroReads : readDecimal ['0'] = 0 := by
    rw [readDecimal_whole (by decide)]
    rfl
  -- The text of a nonzero word is read as a positive number, which rounds to the word.
  have reads : ∀ {significand exponent lowest}, layout.Decodes significand exponent lowest →
      significand ≠ 0 →
      (neighbourhood significand exponent lowest).Contains
          (readDecimal (magnitudeText significand exponent lowest)) ∧
        0 < readDecimal (magnitudeText significand exponent lowest) := by
    intro significand exponent lowest decodes nonzero
    have positive := Nat.pos_of_ne_zero nonzero
    have rounds := shortest_rounds decodes narrow positive
    rw [magnitudeText, if_neg nonzero, Decimal.readDecimal_positionalText]
    refine ⟨rounds, lt_of_lt_of_le ?_ (neighbourhood_contains positive rounds).1⟩
    have reach : reachBelow lowest < 4 * significand := by
      unfold reachBelow
      split <;> omega
    have cast : (reachBelow lowest : ℚ) < 4 * significand := by exact_mod_cast reach
    have unit : (0 : ℚ) < 2 ^ (exponent - 2) := by positivity
    exact mul_pos (by linarith) unit
  -- A zero has the least exponent.
  have zeroDecodes : ∀ {exponent lowest}, layout.Decodes 0 exponent lowest →
      exponent = layout.leastExponent ∧ lowest = false := by
    intro exponent lowest decodes
    have least := decodes.least
    have normal := decodes.normal
    constructor
    · by_contra different
      have impossible := normal (lt_of_le_of_ne least (Ne.symm different))
      omega
    · cases first : lowest with
      | false => rfl
      | true =>
          have impossible := (decodes.lowest.mp first).1
          omega
  by_cases leftZero : leftSignificand = 0
  · by_cases rightZero : rightSignificand = 0
    · subst leftZero rightZero
      rcases zeroDecodes left with ⟨rfl, rfl⟩
      rcases zeroDecodes right with ⟨rfl, rfl⟩
      exact ⟨rfl, rfl, rfl⟩
    · have positive := (reads right rightZero).2
      rw [← same, magnitudeText, if_pos leftZero, zeroReads] at positive
      exact absurd positive (lt_irrefl _)
  · by_cases rightZero : rightSignificand = 0
    · have positive := (reads left leftZero).2
      rw [same, magnitudeText, if_pos rightZero, zeroReads] at positive
      exact absurd positive (lt_irrefl _)
    · have inRight := (reads right rightZero).1
      rw [← same] at inRight
      exact neighbourhood_unique left right (Nat.pos_of_ne_zero leftZero)
        (Nat.pos_of_ne_zero rightZero) (reads left leftZero).1 inRight

theorem RealValue.toList_text_finite (negative : Bool) (significand : Nat) (exponent : ℤ)
    (lowest : Bool) :
    ((RealValue.finite negative significand exponent lowest).text .plain).toList =
      if negative then '-' :: magnitudeText significand exponent lowest
      else magnitudeText significand exponent lowest := by
  have magnitude : (if significand = 0 then "0"
      else (neighbourhood significand exponent lowest).shortest.positionalText false).toList =
      magnitudeText significand exponent lowest := by
    unfold magnitudeText
    split <;> rfl
  have text : (RealValue.finite negative significand exponent lowest).text .plain =
      (if negative then "-" else "") ++ (if significand = 0 then "0"
        else (neighbourhood significand exponent lowest).shortest.positionalText false) := rfl
  rw [text, String.toList_append, magnitude]
  cases negative <;> rfl

/-- The text of a finite word has digits, points and signs only. -/
theorem RealValue.text_finite_chars {negative lowest : Bool} {significand : Nat} {exponent : ℤ}
    {c : Char}
    (member : c ∈ ((RealValue.finite negative significand exponent lowest).text .plain).toList) :
    isMagnitudeChar c = true ∨ c = '-' := by
  rw [toList_text_finite] at member
  split at member
  · rcases List.mem_cons.mp member with sign | inside
    · exact .inr sign
    · exact .inl (magnitudeText_chars inside)
  · exact .inl (magnitudeText_chars member)

/-- The text of a finite word is none of the special texts. -/
theorem RealValue.text_finite_ne {negative lowest : Bool} {significand : Nat} {exponent : ℤ}
    {other : RealValue} (special : other = .nan ∨ ∃ sign, other = .infinite sign) :
    (RealValue.finite negative significand exponent lowest).text .plain ≠ other.text .plain := by
  intro same
  have chars : ∀ c ∈ (other.text .plain).toList, isMagnitudeChar c = true ∨ c = '-' := by
    rw [← same]
    exact fun c member => text_finite_chars member
  rcases special with rfl | ⟨sign, rfl⟩
  · have refused := chars 'N' (by decide)
    revert refused
    decide
  · have refused := chars 'n' (by cases sign <;> decide)
    revert refused
    decide

/-- Words of a layout with equal texts denote the same. -/
theorem RealLayout.text_injective {layout : RealLayout} (narrow : layout.fractionBits ≤ 52)
    {left right : Nat}
    (same : (layout.decode left).text .plain = (layout.decode right).text .plain) :
    layout.decode left = layout.decode right := by
  cases leftEq : layout.decode left with
  | nan =>
      cases rightEq : layout.decode right with
      | nan => rfl
      | infinite sign =>
          rw [leftEq, rightEq] at same
          revert same
          cases sign <;> decide
      | finite sign significand exponent lowest =>
          rw [leftEq, rightEq] at same
          exact absurd same.symm (RealValue.text_finite_ne (.inl rfl))
  | infinite negative =>
      cases rightEq : layout.decode right with
      | nan =>
          rw [leftEq, rightEq] at same
          revert same
          cases negative <;> decide
      | infinite sign =>
          rw [leftEq, rightEq] at same
          revert same
          cases negative <;> cases sign <;> decide
      | finite sign significand exponent lowest =>
          rw [leftEq, rightEq] at same
          exact absurd same.symm (RealValue.text_finite_ne (.inr ⟨negative, rfl⟩))
  | finite negative leftSignificand leftExponent leftLowest =>
      cases rightEq : layout.decode right with
      | nan =>
          rw [leftEq, rightEq] at same
          exact absurd same (RealValue.text_finite_ne (.inl rfl))
      | infinite sign =>
          rw [leftEq, rightEq] at same
          exact absurd same (RealValue.text_finite_ne (.inr ⟨sign, rfl⟩))
      | finite sign rightSignificand rightExponent rightLowest =>
          rw [leftEq, rightEq] at same
          have texts := congrArg String.toList same
          rw [RealValue.toList_text_finite, RealValue.toList_text_finite] at texts
          have unsigned : ∀ {significand exponent lowest} {rest : List Char},
              magnitudeText significand exponent lowest ≠ '-' :: rest := by
            intro significand exponent lowest rest begins
            have refused : isMagnitudeChar '-' = true :=
              @magnitudeText_chars significand exponent lowest '-' (by rw [begins]; simp)
            contradiction
          have parts : negative = sign ∧
              magnitudeText leftSignificand leftExponent leftLowest =
                magnitudeText rightSignificand rightExponent rightLowest := by
            cases negative <;> cases sign
            · exact ⟨rfl, texts⟩
            · exact absurd texts unsigned
            · exact absurd texts.symm unsigned
            · exact ⟨rfl, (List.cons.inj texts).2⟩
          rcases magnitudeText_injective narrow (decode_finite leftEq) (decode_finite rightEq)
            parts.2 with ⟨rfl, rfl, rfl⟩
          rw [parts.1]

/-- A float is known from its plain text, unless it is a NaN. -/
theorem Real32.text_injective {left right : Real32} (same : left.text = right.text)
    (notNan : RealLayout.single.decode left.bits.toNat ≠ .nan) : left = right := by
  have decoded := @RealLayout.text_injective .single (by decide) _ _ same
  have words := RealLayout.decode_injective left.bits.toNat_lt right.bits.toNat_lt notNan decoded
  cases left
  cases right
  exact congrArg Real32.mk (UInt32.toNat_inj.mp words)

/-- A double is known from its plain text, unless it is a NaN. -/
theorem Real64.text_injective {left right : Real64} (same : left.text = right.text)
    (notNan : RealLayout.wide.decode left.bits.toNat ≠ .nan) : left = right := by
  have decoded := @RealLayout.text_injective .wide (by decide) _ _ same
  have words := RealLayout.decode_injective left.bits.toNat_lt right.bits.toNat_lt notNan decoded
  cases left
  cases right
  exact congrArg Real64.mk (UInt64.toNat_inj.mp words)

end QueryKernel.Number
