import Mathlib.Data.List.Dedup
import Mathlib.Data.List.Induction
import QueryKernel.Proofs.Dictionary.Growth

/-!
Contract: a dictionary numbers its strings from zero on, in the order of their first insertion.

An id has 32 bits and a sign, so it can number 2 ^ 31 strings and no more.

Owns:
- the ids that stand for places, and the strings that they decode to;
- calls on a dictionary, and the strings that they insert;
- a dictionary that looks its ids up in an index, and that the index always is the inverse of the
  numbering;
- the main statement: after any calls the ids are the places of the distinct strings, and an id
  that was given out keeps its string.

Does not own: dictionaries that are shared or bound to ids.
-/

namespace QueryKernel

namespace Dictionary

/-! ### Ids -/

section Ids

variable {dictionary : Dictionary} {value : String} {place : Nat} {id : Int32}

/-- An id that is not negative stands for a place. -/
theorem exists_ofNat (issued : 0 ≤ id.toInt) : ∃ place < 2 ^ 31, id = Int32.ofNat place := by
  have bound := id.toInt_lt
  refine ⟨id.toInt.toNat, by omega, ?_⟩
  apply Int32.toInt_inj.mp
  rw [Int32.toInt_ofNat_of_lt (by omega)]
  omega

theorem string?_of_negative (negative : id.toInt < 0) : dictionary.string? id = none := by
  rw [string?, if_pos]
  rw [Int32.lt_iff_toInt_lt]
  exact negative

theorem string?_ofNat (small : place < 2 ^ 31) :
    dictionary.string? (Int32.ofNat place) = dictionary.strings[place]? := by
  have number := Int32.toInt_ofNat_of_lt small
  rw [string?, if_neg, number, Int.toNat_natCast]
  rw [Int32.lt_iff_toInt_lt, number]
  exact Int.not_lt.mpr (Int.natCast_nonneg place)

/-- The strings that ids decode to are those at the first 2 ^ 31 places. -/
theorem string?_eq_some_iff : dictionary.string? id = some value ↔
    ∃ place < 2 ^ 31, id = Int32.ofNat place ∧ dictionary.strings[place]? = some value := by
  constructor
  · intro decoded
    rcases Int.lt_or_le id.toInt 0 with negative | issued
    · rw [string?_of_negative negative] at decoded
      contradiction
    · rcases exists_ofNat issued with ⟨place, small, rfl⟩
      exact ⟨place, small, rfl, string?_ofNat small ▸ decoded⟩
  · rintro ⟨place, small, rfl, stands⟩
    rw [string?_ofNat small, stands]

end Ids

/-! ### The strings in order -/

/-- The distinct strings among these, in the order of their first occurrence. -/
def firsts (values : List String) : List String := values.reverse.dedup.reverse

section Firsts

variable {values : List String} {value : String}

theorem mem_firsts : value ∈ firsts values ↔ value ∈ values := by
  rw [firsts, List.mem_reverse, List.mem_dedup, List.mem_reverse]

theorem firsts_nodup (values : List String) : (firsts values).Nodup :=
  List.nodup_reverse.mpr (List.nodup_dedup values.reverse)

theorem firsts_append_of_mem (known : value ∈ values) :
    firsts (values ++ [value]) = firsts values := by
  rw [firsts, List.reverse_append, List.reverse_singleton, List.singleton_append,
    List.dedup_cons_of_mem (List.mem_reverse.mpr known), firsts]

theorem firsts_append_of_notMem (new : value ∉ values) :
    firsts (values ++ [value]) = firsts values ++ [value] := by
  rw [firsts, List.reverse_append, List.reverse_singleton, List.singleton_append,
    List.dedup_cons_of_notMem (mt List.mem_reverse.mp new), List.reverse_cons, firsts]

end Firsts

/-- Insertion of one more string. -/
theorem ofList_append (values : List String) (value : String) :
    ofList (values ++ [value]) = ((ofList values).idOf value).2 := by
  rw [ofList, List.foldl_append, ofList]
  rfl

/-- A dictionary holds the distinct strings that it was asked for, in order. -/
theorem strings_ofList (values : List String) :
    (ofList values).strings.toList = firsts values := by
  induction values using List.reverseRecOn with
  | nil => rfl
  | append_singleton values value inductionHypothesis =>
      have member : value ∈ (ofList values).strings ↔ value ∈ values := by
        rw [← Array.mem_toList_iff, inductionHypothesis, mem_firsts]
      rw [ofList_append]
      cases found : (ofList values).place? value with
      | some place =>
          have known : value ∈ values := by
            apply member.mp
            exact Array.mem_of_getElem? (getElem?_of_place? found)
          rw [idOf_of_place? found, firsts_append_of_mem known]
          exact inductionHypothesis
      | none =>
          have new : value ∉ values := mt member.mpr (place?_eq_none_iff.mp found)
          rw [idOf_of_unplaced found, firsts_append_of_notMem new, ← inductionHypothesis]
          exact Array.toList_push

theorem ofList_distinct (values : List String) : (ofList values).Distinct := by
  rw [Distinct, strings_ofList]
  exact firsts_nodup values

/-- Further strings let the dictionary grow. -/
theorem ofList_grows (front back : List String) : Grows (ofList front) (ofList (front ++ back)) :=
  ⟨back, List.foldl_append⟩

/-! ### An index -/

/-- A dictionary that keeps the ids of its strings in an index, so that it need not search. -/
structure Indexed where
  strings : Array String := #[]
  index : List (String × Int32) := []

namespace Indexed

/-- The id of a string, which is inserted if the index does not list it. -/
def idOf (indexed : Indexed) (value : String) : Int32 × Indexed :=
  match indexed.index.lookup value with
  | some id => (id, indexed)
  | none =>
      let id := Int32.ofNat indexed.strings.size
      (id, ⟨indexed.strings.push value, (value, id) :: indexed.index⟩)

/-- The indexed dictionary of the given strings, inserted in order. -/
def ofList (values : List String) : Indexed :=
  values.foldl (fun indexed value => (indexed.idOf value).2) {}

theorem idOf_of_unlisted {indexed : Indexed} {value : String}
    (unlisted : indexed.index.lookup value = none) :
    indexed.idOf value = (Int32.ofNat indexed.strings.size,
      ⟨indexed.strings.push value,
        (value, Int32.ofNat indexed.strings.size) :: indexed.index⟩) := by
  rw [idOf, unlisted]

/-- The index lists the ids of the strings that a dictionary has. -/
structure Mirrors (indexed : Indexed) (dictionary : Dictionary) : Prop where
  strings : indexed.strings = dictionary.strings
  index : ∀ value, indexed.index.lookup value = (dictionary.place? value).map Int32.ofNat

theorem Mirrors.idOf {indexed : Indexed} {dictionary : Dictionary}
    (mirrors : indexed.Mirrors dictionary) (value : String) :
    (indexed.idOf value).1 = (dictionary.idOf value).1 ∧
      (indexed.idOf value).2.Mirrors (dictionary.idOf value).2 := by
  have listed := mirrors.index value
  cases found : dictionary.place? value with
  | some place =>
      rw [found] at listed
      rw [idOf_of_place? found, Indexed.idOf, listed]
      exact ⟨rfl, mirrors⟩
  | none =>
      rw [found] at listed
      rw [idOf_of_unplaced found, idOf_of_unlisted listed, mirrors.strings]
      refine ⟨rfl, rfl, ?_⟩
      intro other
      unfold place? at found ⊢
      rw [List.lookup_cons, Array.findIdx?_push]
      by_cases same : other = value
      · subst same
        simp [found]
      · rw [beq_eq_false_iff_ne.mpr same, mirrors.index other, place?]
        simp [beq_eq_false_iff_ne.mpr (Ne.symm same)]

theorem mirrors_ofList (values : List String) :
    (ofList values).Mirrors (Dictionary.ofList values) := by
  induction values using List.reverseRecOn with
  | nil => exact ⟨rfl, fun value => by simp [ofList, Dictionary.ofList, place?]⟩
  | append_singleton values value inductionHypothesis =>
      rw [ofList_append, ofList, List.foldl_append]
      exact (inductionHypothesis.idOf value).2

end Indexed

/-! ### The main statement -/

/-- The dictionary numbers these strings and no others, in this order. -/
structure Numbers (dictionary : Dictionary) (values : List String) : Prop where
  size : dictionary.size = values.length
  ids : ∀ (place : Nat) value, values[place]? = some value → ∃ id : Int32, id.toInt = place ∧
    dictionary.idOf value = (id, dictionary) ∧ dictionary.string? id = some value
  decoded : ∀ id value, dictionary.string? id = some value →
    dictionary.idOf value = (id, dictionary)
  injective : ∀ value other, value ∈ values → other ∈ values →
    (dictionary.idOf value).1 = (dictionary.idOf other).1 → value = other
  unissued : ∀ id : Int32, (∀ place < values.length, id.toInt ≠ place) →
    dictionary.string? id = none

section Numbers

variable {dictionary : Dictionary}

/-- An id that decodes is the id of its string, however many strings there are. -/
theorem Distinct.idOf_of_string? (distinct : dictionary.Distinct) {id : Int32} {value : String}
    (decoded : dictionary.string? id = some value) :
    dictionary.idOf value = (id, dictionary) := by
  rcases string?_eq_some_iff.mp decoded with ⟨place, -, rfl, stands⟩
  exact idOf_of_place? (distinct.place?_eq_some_iff.mpr stands)

/-- Of at most 2 ^ 31 strings, each has its place for an id. -/
theorem Distinct.numbers (distinct : dictionary.Distinct) (few : dictionary.size ≤ 2 ^ 31) :
    dictionary.Numbers dictionary.strings.toList := by
  have placed : ∀ {place value}, dictionary.strings.toList[place]? = some value →
      place < 2 ^ 31 ∧ dictionary.idOf value = (Int32.ofNat place, dictionary) ∧
        dictionary.string? (Int32.ofNat place) = some value := by
    intro place value stands
    rw [Array.getElem?_toList] at stands
    have inside : place < dictionary.size := (Array.getElem?_eq_some_iff.mp stands).1
    have small : place < 2 ^ 31 := by omega
    exact ⟨small, idOf_of_place? (distinct.place?_eq_some_iff.mpr stands),
      string?_ofNat small ▸ stands⟩
  constructor
  case size => exact Array.length_toList.symm
  case ids =>
    intro place value stands
    rcases placed stands with ⟨small, known, decoded⟩
    exact ⟨_, Int32.toInt_ofNat_of_lt small, known, decoded⟩
  case decoded =>
    intro id value decoded
    exact distinct.idOf_of_string? decoded
  case injective =>
    intro value other member otherMember same
    rcases List.mem_iff_getElem?.mp member with ⟨place, stands⟩
    rcases List.mem_iff_getElem?.mp otherMember with ⟨otherPlace, otherStands⟩
    rcases placed stands with ⟨-, known, decoded⟩
    rcases placed otherStands with ⟨-, otherKnown, otherDecoded⟩
    rw [known, otherKnown] at same
    change Int32.ofNat place = Int32.ofNat otherPlace at same
    rw [same, otherDecoded] at decoded
    exact (Option.some.inj decoded).symm
  case unissued =>
    intro id unissued
    cases decoded : dictionary.string? id with
    | none => rfl
    | some value =>
        rcases string?_eq_some_iff.mp decoded with ⟨place, small, rfl, stands⟩
        have inside : place < dictionary.size := (Array.getElem?_eq_some_iff.mp stands).1
        exact absurd (Int32.toInt_ofNat_of_lt small)
          (unissued place (by rw [Array.length_toList]; exact inside))

/-- Of at most 2 ^ 31 strings, a string has the id that decodes to it. -/
theorem Distinct.ofNat_place?_iff (distinct : dictionary.Distinct)
    (few : dictionary.size ≤ 2 ^ 31) {value : String} {id : Int32} :
    (dictionary.place? value).map Int32.ofNat = some id ↔ dictionary.string? id = some value := by
  rw [Option.map_eq_some_iff, string?_eq_some_iff]
  constructor
  · rintro ⟨place, found, rfl⟩
    have stands := getElem?_of_place? found
    have inside : place < dictionary.size := (Array.getElem?_eq_some_iff.mp stands).1
    exact ⟨place, by omega, rfl, stands⟩
  · rintro ⟨place, -, rfl, stands⟩
    exact ⟨place, distinct.place?_eq_some_iff.mpr stands, rfl⟩

end Numbers

/-- After any insertions of at most 2 ^ 31 distinct strings, the ids are the places of the strings
in the order of their first insertion, an index would be the inverse of the numbering, and every id
that was given out, at whatever point, still is the id of its string. -/
theorem ids_number_first_insertions (values : List String)
    (few : (firsts values).length ≤ 2 ^ 31) :
    (ofList values).Numbers (firsts values) ∧
    (ofList values).string? Sql.nullId = none ∧
    ((Indexed.ofList values).strings = (ofList values).strings ∧ ∀ value id,
      (Indexed.ofList values).index.lookup value = some id ↔
        (ofList values).string? id = some value) ∧
    ∀ front value back, values = front ++ value :: back →
      let id := ((ofList front).idOf value).1
      id.toInt = (firsts values).idxOf value ∧
      ((Indexed.ofList front).idOf value).1 = id ∧
      (value ∈ front → (ofList front).idOf value = (id, ofList front)) ∧
      ((ofList front).idOf value).2.string? id = some value ∧
      (ofList values).idOf value = (id, ofList values) ∧
      (ofList values).string? id = some value := by
  have strings := strings_ofList values
  have sized : (ofList values).size = (firsts values).length := by
    rw [← strings]
    exact Array.length_toList.symm
  have distinct := ofList_distinct values
  have numbers := distinct.numbers (sized ▸ few)
  have mirrors := Indexed.mirrors_ofList values
  refine ⟨strings ▸ numbers, string?_of_negative (by decide), ⟨mirrors.strings, ?_⟩, ?_⟩
  · intro value id
    rw [mirrors.index]
    exact distinct.ofNat_place?_iff (sized ▸ few)
  · intro front value back split id
    rcases (ofList front).exists_place value with ⟨place, found, issued⟩
    -- The dictionary behind the insertion is a prefix of the last one, so the place stays.
    have grows : Grows ((ofList front).idOf value).2 (ofList values) := by
      have further := ofList_grows (front ++ [value]) back
      rw [ofList_append, ← List.append_cons, ← split] at further
      exact further
    have later := grows.place? found
    have stands := getElem?_of_place? later
    have inside : place < (ofList values).size := (Array.getElem?_eq_some_iff.mp stands).1
    have small : place < 2 ^ 31 := by omega
    have number : id = Int32.ofNat place := issued
    have listed : (firsts values)[place]? = some value := by
      rw [← strings, Array.getElem?_toList, stands]
    have first : (firsts values).idxOf value = place := by
      rcases List.getElem?_eq_some_iff.mp listed with ⟨within, same⟩
      have found := (firsts_nodup values).idxOf_getElem place within
      rw [same] at found
      exact found
    have unchanged : value ∈ front → (ofList front).idOf value = (id, ofList front) := by
      intro asked
      have known : value ∈ (ofList front).strings := by
        rw [← Array.mem_toList_iff, strings_ofList, mem_firsts]
        exact asked
      cases before : (ofList front).place? value with
      | none => exact absurd known (place?_eq_none_iff.mp before)
      | some earlier =>
          refine Prod.ext rfl ?_
          rw [idOf_of_place? before]
    have atOnce : ((ofList front).idOf value).2.string? id = some value := by
      rw [number, string?_ofNat small]
      exact getElem?_of_place? found
    refine ⟨?_, ((Indexed.mirrors_ofList front).idOf value).1, unchanged, atOnce, ?_, ?_⟩
    · rw [number, first]
      exact Int32.toInt_ofNat_of_lt small
    · rw [number]
      exact idOf_of_place? later
    · rw [number, string?_ofNat small]
      exact stands

theorem ids_number_first_insertions_repeated :
    let values := ["b", "a", "b", "c"]
    (firsts values).length ≤ 2 ^ 31 ∧ (ofList values).Numbers ["b", "a", "c"] ∧
      (ofList ["b", "a"]).idOf "b" = (0, ofList ["b", "a"]) ∧
      (ofList values).string? 0 = some "b" := by
  intro values
  have distinct : firsts values = ["b", "a", "c"] := by decide
  have few : (firsts values).length ≤ 2 ^ 31 := by rw [distinct]; decide
  rcases ids_number_first_insertions values few with ⟨numbers, -, -, history⟩
  rcases history ["b", "a"] "b" ["c"] rfl with ⟨place, -, unchanged, -, -, decoded⟩
  have first : ((ofList ["b", "a"]).idOf "b").1 = 0 := by
    apply Int32.toInt_inj.mp
    rw [place, distinct]
    decide
  rw [first] at unchanged decoded
  exact ⟨few, distinct ▸ numbers, unchanged (by decide), decoded⟩

end Dictionary

end QueryKernel
