import Mathlib.Data.List.Basic

/-!
Contract: tokens inside a text.

A token is read off the front of a text uniquely, if what follows it cannot continue it.

Owns:
- tokens over a set of characters, tokens in front of a separator, and rows of items;
- numerals of natural numbers and of integers.
-/

namespace QueryKernel.Text

/-! ### Tokens -/

/-- A text that does not continue a token of accepted characters. -/
def Stops (accepts : Char → Bool) (rest : List Char) : Prop :=
  ∀ c ∈ rest.head?, accepts c = false

section Tokens

variable {accepts : Char → Bool} {left right leftRest rightRest : List Char}

theorem stops_nil (accepts : Char → Bool) : Stops accepts [] := by
  intro c member
  cases member

theorem stops_cons {c : Char} (rest : List Char) (refused : accepts c = false) :
    Stops accepts (c :: rest) := by
  intro first member
  cases member
  exact refused

theorem stops_text {text : String} (rest : List Char)
    (refused : text.toList.head?.any (fun c => !accepts c) = true) :
    Stops accepts (text.toList ++ rest) := by
  cases characters : text.toList with
  | nil =>
      rw [characters] at refused
      contradiction
  | cons c tail =>
      rw [characters] at refused
      exact stops_cons _ (by simpa using refused)

theorem takeWhile_token (token : ∀ c ∈ left, accepts c = true) (stops : Stops accepts leftRest) :
    (left ++ leftRest).takeWhile accepts = left := by
  rw [List.takeWhile_append_of_pos token]
  cases leftRest with
  | nil => simp
  | cons c rest => simp [stops c rfl]

/-- A token ends where the accepted characters end. -/
theorem token_unique (leftToken : ∀ c ∈ left, accepts c = true)
    (rightToken : ∀ c ∈ right, accepts c = true) (leftStops : Stops accepts leftRest)
    (rightStops : Stops accepts rightRest) (same : left ++ leftRest = right ++ rightRest) :
    left = right ∧ leftRest = rightRest := by
  have tokens := congrArg (List.takeWhile accepts) same
  rw [takeWhile_token leftToken leftStops, takeWhile_token rightToken rightStops] at tokens
  subst tokens
  exact ⟨rfl, List.append_cancel_left same⟩

/-- A separator ends a token that does not contain it. -/
theorem separated_unique {separator : Char} (leftFree : separator ∉ left)
    (rightFree : separator ∉ right)
    (same : left ++ separator :: leftRest = right ++ separator :: rightRest) :
    left = right ∧ leftRest = rightRest := by
  have accepted : ∀ {token : List Char}, separator ∉ token →
      ∀ c ∈ token, (c != separator) = true := by
    intro token free c member
    apply bne_iff_ne.mpr
    rintro rfl
    exact free member
  have stops : ∀ rest, Stops (· != separator) (separator :: rest) := by
    intro rest
    apply stops_cons
    simp
  rcases token_unique (accepted leftFree) (accepted rightFree) (stops leftRest) (stops rightRest)
    same with ⟨tokens, rests⟩
  exact ⟨tokens, (List.cons.inj rests).2⟩

/-- A row of items is read off in front of what begins no item. -/
theorem row_unique {α β : Type} {text : α → List Char} {view : α → β} {begins : Char → Bool}
    (marked : ∀ item, ∃ c tail, text item = c :: tail ∧ begins c = true) {items others : List α}
    (readOff : ∀ item ∈ items, ∀ other ∈ others, ∀ front back,
      text item ++ front = text other ++ back → view item = view other ∧ front = back)
    (leftStops : Stops begins leftRest) (rightStops : Stops begins rightRest)
    (same : items.flatMap text ++ leftRest = others.flatMap text ++ rightRest) :
    items.map view = others.map view ∧ leftRest = rightRest := by
  -- What follows the row does not begin with an item.
  have ended : ∀ {rest front : List Char} {item : α}, Stops begins rest →
      rest ≠ text item ++ front := by
    intro rest front item stops impossible
    rcases marked item with ⟨c, tail, text, accepted⟩
    rw [impossible, text] at stops
    rw [stops c rfl] at accepted
    contradiction
  induction items generalizing others with
  | nil =>
      cases others with
      | nil => exact ⟨rfl, same⟩
      | cons other rest =>
          rw [List.flatMap_cons, List.append_assoc] at same
          exact absurd same (ended leftStops)
  | cons item rest inductionHypothesis =>
      cases others with
      | nil =>
          rw [List.flatMap_cons, List.append_assoc] at same
          exact absurd same.symm (ended rightStops)
      | cons other more =>
          rw [List.flatMap_cons, List.flatMap_cons, List.append_assoc, List.append_assoc] at same
          rcases readOff item List.mem_cons_self other List.mem_cons_self _ _ same with
            ⟨views, behind⟩
          rcases inductionHypothesis (fun first firstMember second secondMember =>
            readOff first (List.mem_cons_of_mem _ firstMember) second
              (List.mem_cons_of_mem _ secondMember)) behind with ⟨others, rests⟩
          rw [List.map_cons, List.map_cons, views, others]
          exact ⟨rfl, rests⟩

end Tokens

/-! ### Numerals -/

theorem toList_toString_nat (value : Nat) : (toString value).toList = Nat.toDigits 10 value :=
  Nat.toList_repr

theorem isDigit_of_mem_numeral {value : Nat} {c : Char} (member : c ∈ (toString value).toList) :
    c.isDigit = true := by
  rw [toList_toString_nat] at member
  exact Nat.isDigit_of_mem_toDigits (by decide) (by decide) member

theorem toString_nat_injective {left right : Nat}
    (same : (toString left).toList = (toString right).toList) : left = right := by
  rw [toList_toString_nat, toList_toString_nat] at same
  rw [← Nat.ofDigitChars_ten_toDigits (n := left), same, Nat.ofDigitChars_ten_toDigits]

/-- A numeral of a natural number ends where the digits end. -/
theorem numeral_unique {left right : Nat} {leftRest rightRest : List Char}
    (leftStops : Stops Char.isDigit leftRest) (rightStops : Stops Char.isDigit rightRest)
    (same : (toString left).toList ++ leftRest = (toString right).toList ++ rightRest) :
    left = right ∧ leftRest = rightRest := by
  rcases token_unique (fun c member => isDigit_of_mem_numeral member)
    (fun c member => isDigit_of_mem_numeral member) leftStops rightStops same with ⟨numerals, rests⟩
  exact ⟨toString_nat_injective numerals, rests⟩

/-- A numeral is read off in front of a text that does not begin with a digit. -/
theorem numeral_before {text : String} {left right : Nat} {leftRest rightRest : List Char}
    (refused : text.toList.head?.any (fun c => !c.isDigit) = true)
    (same : (toString left).toList ++ (text.toList ++ leftRest) =
      (toString right).toList ++ (text.toList ++ rightRest)) :
    left = right ∧ leftRest = rightRest := by
  rcases numeral_unique (stops_text leftRest refused) (stops_text rightRest refused) same with
    ⟨values, rests⟩
  exact ⟨values, List.append_cancel_left rests⟩

theorem toList_toString_int (value : Int) :
    (toString value).toList =
      if value < 0 then '-' :: (toString value.natAbs).toList
      else (toString value.natAbs).toList := by
  cases value with
  | ofNat magnitude =>
      rw [if_neg (by simp)]
      rfl
  | negSucc magnitude =>
      rw [if_pos (Int.negSucc_lt_zero magnitude)]
      show ("-" ++ (magnitude + 1).repr).toList = _
      simp

/-- A numeral of an integer ends where the digits end. -/
theorem integer_unique {left right : Int} {leftRest rightRest : List Char}
    (leftStops : Stops Char.isDigit leftRest) (rightStops : Stops Char.isDigit rightRest)
    (same : (toString left).toList ++ leftRest = (toString right).toList ++ rightRest) :
    left = right ∧ leftRest = rightRest := by
  -- A numeral of a natural number does not begin with the sign.
  have unsigned : ∀ {value : Nat} {rest other : List Char},
      (toString value).toList ++ rest ≠ '-' :: other := by
    intro value rest other impossible
    cases digits : (toString value).toList with
    | nil =>
        rw [toList_toString_nat] at digits
        exact Nat.toDigits_ne_nil digits
    | cons c tail =>
        rw [digits] at impossible
        have digit : c.isDigit = true := isDigit_of_mem_numeral (by rw [digits]; simp)
        rw [(List.cons.inj impossible).1] at digit
        contradiction
  rw [toList_toString_int, toList_toString_int] at same
  split at same
  · split at same
    · rcases numeral_unique leftStops rightStops (List.cons.inj same).2 with ⟨magnitudes, rests⟩
      exact ⟨by omega, rests⟩
    · exact absurd same.symm unsigned
  · split at same
    · exact absurd same unsigned
    · rcases numeral_unique leftStops rightStops same with ⟨magnitudes, rests⟩
      exact ⟨by omega, rests⟩

/-- A numeral is read off in front of a text that does not begin with a digit. -/
theorem integer_before {text : String} {left right : Int} {leftRest rightRest : List Char}
    (refused : text.toList.head?.any (fun c => !c.isDigit) = true)
    (same : (toString left).toList ++ (text.toList ++ leftRest) =
      (toString right).toList ++ (text.toList ++ rightRest)) :
    left = right ∧ leftRest = rightRest := by
  rcases integer_unique (stops_text leftRest refused) (stops_text rightRest refused) same with
    ⟨values, rests⟩
  exact ⟨values, List.append_cancel_left rests⟩

end QueryKernel.Text
