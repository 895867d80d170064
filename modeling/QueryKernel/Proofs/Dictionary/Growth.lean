import Mathlib.Data.List.Nodup
import QueryKernel.Dictionary.Registry

/-!
Contract: dictionaries grow, and what they have given out stays.

Owns:
- the place of a string in a dictionary, for which its id stands;
- growth of one dictionary and of all dictionaries of a registry;
- inserting a string is growth;
- the main statement: after any growth a string that was inserted has its old id, and
  asking for it again changes nothing.
-/

namespace QueryKernel

namespace Dictionary

/-! ### Places -/

/-- The place of a string among the others. -/
def place? (dictionary : Dictionary) (value : String) : Option Nat :=
  dictionary.strings.findIdx? (· == value)

/-- No string occurs twice. -/
def Distinct (dictionary : Dictionary) : Prop := dictionary.strings.toList.Nodup

section Places

variable {dictionary : Dictionary} {value : String} {place : Nat}

theorem place?_eq_none_iff : dictionary.place? value = none ↔ value ∉ dictionary.strings := by
  unfold place?
  rw [Array.findIdx?_eq_none_iff]
  constructor
  · intro absent member
    have different := absent value member
    simp at different
  · intro absent other member
    apply beq_eq_false_iff_ne.mpr
    rintro rfl
    exact absent member

/-- A string stands at its place. -/
theorem getElem?_of_place? (found : dictionary.place? value = some place) :
    dictionary.strings[place]? = some value := by
  obtain ⟨inside, same, -⟩ := Array.findIdx?_eq_some_iff_getElem.mp found
  rw [Array.getElem?_eq_getElem inside]
  exact congrArg some (eq_of_beq same)

/-- Without repetition a string has one place only. -/
theorem Distinct.place?_eq_some_iff (distinct : dictionary.Distinct) :
    dictionary.place? value = some place ↔ dictionary.strings[place]? = some value := by
  constructor
  · exact getElem?_of_place?
  · intro stands
    obtain ⟨inside, same⟩ := Array.getElem?_eq_some_iff.mp stands
    apply Array.findIdx?_eq_some_iff_getElem.mpr
    refine ⟨inside, beq_iff_eq.mpr same, ?_⟩
    intro earlier before equal
    have placeInside : place < dictionary.strings.toList.length := by simpa using inside
    have earlierInside := Nat.lt_trans before placeInside
    have repeated : dictionary.strings.toList[earlier] = dictionary.strings.toList[place] := by
      rw [Array.getElem_toList, Array.getElem_toList, same]
      exact eq_of_beq equal
    have places := (List.Nodup.getElem_inj_iff distinct).mp repeated
    omega

theorem idOf_of_place? (found : dictionary.place? value = some place) :
    dictionary.idOf value = (Int32.ofNat place, dictionary) := by
  unfold place? at found
  rw [idOf, found]

theorem idOf_of_unplaced (missing : dictionary.place? value = none) :
    dictionary.idOf value = (Int32.ofNat dictionary.size, ⟨dictionary.strings.push value⟩) := by
  unfold place? at missing
  rw [idOf, missing]

/-- Behind its insertion a string has a place, for which its id stands. -/
theorem exists_place (dictionary : Dictionary) (value : String) :
    ∃ place, (dictionary.idOf value).2.place? value = some place ∧
      (dictionary.idOf value).1 = Int32.ofNat place := by
  cases found : dictionary.place? value with
  | some place =>
      rw [idOf_of_place? found]
      exact ⟨place, found, rfl⟩
  | none =>
      rw [idOf_of_unplaced found]
      refine ⟨dictionary.size, ?_, rfl⟩
      unfold place? at found ⊢
      rw [Array.findIdx?_push, found]
      simp [size]

/-- A string that changes nothing was known. -/
theorem place?_of_idOf (unchanged : (dictionary.idOf value).2 = dictionary) :
    ∃ place, dictionary.place? value = some place ∧
      (dictionary.idOf value).1 = Int32.ofNat place := by
  have placed := dictionary.exists_place value
  rw [unchanged] at placed
  exact placed

theorem Distinct.idOf (distinct : dictionary.Distinct) (value : String) :
    (dictionary.idOf value).2.Distinct := by
  cases found : dictionary.place? value with
  | some place =>
      rw [idOf_of_place? found]
      exact distinct
  | none =>
      rw [idOf_of_unplaced found]
      have absent := place?_eq_none_iff.mp found
      show (dictionary.strings.push value).toList.Nodup
      rw [Array.toList_push, List.nodup_append]
      refine ⟨distinct, List.nodup_singleton value, ?_⟩
      intro old member new added
      rw [List.mem_singleton.mp added]
      rintro rfl
      exact absent (Array.mem_toList_iff.mp member)

end Places

/-! ### Growth -/

/-- The dictionary after strings were inserted, in order. -/
def insertAll (dictionary : Dictionary) (values : List String) : Dictionary :=
  values.foldl (fun dictionary value => (dictionary.idOf value).2) dictionary

/-- Nothing happened to the dictionary but insertions. -/
def Grows (before after : Dictionary) : Prop := ∃ values, after = before.insertAll values

theorem Grows.refl (dictionary : Dictionary) : Grows dictionary dictionary := ⟨[], rfl⟩

theorem Grows.trans {first second third : Dictionary} (front : Grows first second)
    (back : Grows second third) : Grows first third := by
  rcases front with ⟨values, rfl⟩
  rcases back with ⟨others, rfl⟩
  exact ⟨values ++ others, List.foldl_append.symm⟩

theorem idOf_grows (dictionary : Dictionary) (value : String) :
    Grows dictionary (dictionary.idOf value).2 := ⟨[value], rfl⟩

/-- Every dictionary comes from the empty one by insertions. -/
theorem ofList_grown (values : List String) : Grows {} (ofList values) := ⟨values, rfl⟩

/-- What no insertion breaks holds after growth. -/
theorem Grows.keeps {before after : Dictionary} {property : Dictionary → Prop}
    (grows : Grows before after)
    (kept : ∀ dictionary value, property dictionary → property (dictionary.idOf value).2)
    (holds : property before) : property after := by
  rcases grows with ⟨values, rfl⟩
  induction values generalizing before with
  | nil => exact holds
  | cons value rest inductionHypothesis =>
      exact inductionHypothesis (kept before value holds)

theorem Grows.distinct {before after : Dictionary} (grows : Grows before after)
    (distinct : before.Distinct) : after.Distinct :=
  grows.keeps (fun _ value known => Distinct.idOf known value) distinct

/-- A string keeps its place. -/
theorem Grows.place? {before after : Dictionary} (grows : Grows before after) {value : String}
    {place : Nat} (found : before.place? value = some place) : after.place? value = some place := by
  refine @Grows.keeps _ _ (·.place? value = some place) grows (fun dictionary other placed => ?_)
    found
  cases known : dictionary.place? other with
  | some _ =>
      rw [idOf_of_place? known]
      exact placed
  | none =>
      rw [idOf_of_unplaced known]
      unfold Dictionary.place? at placed ⊢
      rw [Array.findIdx?_push, placed]
      rfl

namespace Registry

/-- Bound or not, an id has the common id for its nulls. -/
@[simp] theorem nullId_eq (registry : Registry) (id : Int32) :
    registry.nullId id = Sql.nullId := by
  unfold nullId
  split <;> rfl

/-- The bindings stay, and every dictionary grows. -/
structure Grows (before after : Registry) : Prop where
  bindings : after.bindings = before.bindings
  size : after.dictionaries.size = before.dictionaries.size
  dictionary : ∀ handle, Dictionary.Grows (before.dictionary handle) (after.dictionary handle)

theorem Grows.refl (registry : Registry) : Grows registry registry :=
  ⟨rfl, rfl, fun handle => Dictionary.Grows.refl (registry.dictionary handle)⟩

theorem Grows.trans {first second third : Registry} (front : Grows first second)
    (back : Grows second third) : Grows first third :=
  ⟨back.bindings.trans front.bindings, back.size.trans front.size,
    fun handle => (front.dictionary handle).trans (back.dictionary handle)⟩

theorem Grows.find {before after : Registry} (grows : Grows before after) (id : Int32) :
    after.find id = before.find id := by
  simp only [Registry.find, handle?, grows.bindings]

/-- The dictionary of a handle that exists, after an insertion. -/
theorem idOf_dictionary {registry : Registry} {handle : Nat}
    (exists' : handle < registry.dictionaries.size) (value : String) :
    (registry.idOf handle value).2.dictionary handle =
      ((registry.dictionary handle).idOf value).2 := by
  simp [idOf, dictionary, exists']

theorem idOf_other (registry : Registry) {handle other : Nat} (different : handle ≠ other)
    (value : String) :
    (registry.idOf handle value).2.dictionary other = registry.dictionary other := by
  simp only [idOf, dictionary]
  rw [Array.getElem?_setIfInBounds_ne different]

/-- Without a dictionary there is nothing to change. -/
theorem idOf_missing {registry : Registry} {handle : Nat}
    (missing : registry.dictionaries.size ≤ handle) (value : String) :
    (registry.idOf handle value).2 = registry := by
  simp only [idOf]
  rw [Array.setIfInBounds_eq_of_size_le missing]

theorem idOf_grows (registry : Registry) (handle : Nat) (value : String) :
    Grows registry (registry.idOf handle value).2 := by
  refine ⟨rfl, Array.size_setIfInBounds, fun other => ?_⟩
  by_cases same : handle = other
  · subst same
    by_cases exists' : handle < registry.dictionaries.size
    · rw [idOf_dictionary exists']
      exact Dictionary.idOf_grows _ value
    · rw [idOf_missing (by omega)]
      exact Dictionary.Grows.refl _
  · rw [idOf_other registry same]
    exact Dictionary.Grows.refl _

/-- A string that is known has the id of its place, and asking for it changes nothing. -/
theorem idOf_of_place? {registry : Registry} {handle : Nat} {value : String} {place : Nat}
    (found : (registry.dictionary handle).place? value = some place) :
    registry.idOf handle value = (Int32.ofNat place, registry) := by
  have exists' : handle < registry.dictionaries.size := by
    apply Nat.lt_of_not_le
    intro missing
    have empty : registry.dictionary handle = {} := by simp [dictionary, missing]
    rw [empty] at found
    simp [place?] at found
  have itself : registry.dictionary handle = registry.dictionaries[handle] := by
    simp [dictionary, exists']
  rw [idOf, Dictionary.idOf_of_place? found]
  simp only
  rw [itself, Array.setIfInBounds_def, dif_pos exists', Array.set_getElem_self]

/-- A string that was inserted through a handle keeps its id while dictionaries grow, and
asking for it again changes nothing. -/
theorem idOf_stable {registry after : Registry} {handle : Nat} {value : String}
    (grows : Grows (registry.idOf handle value).2 after) :
    after.idOf handle value = ((registry.idOf handle value).1, after) := by
  by_cases exists' : handle < registry.dictionaries.size
  · rcases (registry.dictionary handle).exists_place value with ⟨place, found, issued⟩
    have within := grows.dictionary handle
    rw [idOf_dictionary exists'] at within
    rw [idOf_of_place? (within.place? found)]
    exact Prod.ext issued.symm rfl
  · have size : after.dictionaries.size = registry.dictionaries.size :=
      grows.size.trans Array.size_setIfInBounds
    have missing : after.dictionaries.size ≤ handle := by omega
    have emptyAfter : after.dictionary handle = {} := by
      simp [dictionary, missing]
    have emptyBefore : registry.dictionary handle = {} := by
      simp [dictionary, show registry.dictionaries.size ≤ handle by omega]
    refine Prod.ext ?_ (idOf_missing missing value)
    simp only [idOf, emptyAfter, emptyBefore]

end Registry

end Dictionary

end QueryKernel
