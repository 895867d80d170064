import QueryKernel.Proofs.Dictionary.Numbering

/-!
Contract: ids can be bound anew, and a string keeps its id where the binding stays.

Owns:
- what binding an id changes in a registry;
- valid registries, and registries of which one comes from the other: dictionaries evolve, and
  bindings may be kept;
- the id that the dictionary bound to an id has for a string, and the string of such an id;
- requests that are answered again: a known string has the same id later on.

Does not own: who binds, and when.
-/

namespace QueryKernel.Dictionary.Registry

/-! ### Bindings -/

/-- A binding shows under its own id and under no other. -/
theorem lookup_bind (id : Int32) (handle : Nat) (bindings : List (Int32 × Nat)) (other : Int32) :
    (bind id handle bindings).lookup other =
      if other = id then some handle else bindings.lookup other := by
  induction bindings with
  | nil =>
      show List.lookup other [(id, handle)] = _
      rw [List.lookup_cons, beq_eq_decide]
      by_cases same : other = id <;> simp [same]
  | cons binding rest inductionHypothesis =>
      rcases binding with ⟨listed, bound⟩
      unfold bind
      by_cases before : id < listed
      · rw [if_pos before, List.lookup_cons, beq_eq_decide]
        by_cases same : other = id <;> simp [same]
      · rw [if_neg before]
        by_cases equal : id = listed
        · subst equal
          rw [if_pos rfl, List.lookup_cons, List.lookup_cons, beq_eq_decide]
          by_cases same : other = id <;> simp [same]
        · rw [if_neg equal, List.lookup_cons, List.lookup_cons, inductionHypothesis]
          by_cases same : other = id
          · have different : (other == listed) = false := by
              rw [same]
              exact beq_eq_false_iff_ne.mpr equal
            rw [different, if_pos same]
          · rw [if_neg same, if_neg same]

section Operations

variable (registry : Registry) (id : Int32)

theorem handle?_register (dictionary : Dictionary) (other : Int32) :
    (registry.register id dictionary).handle? other =
      if other = id then some registry.dictionaries.size else registry.handle? other :=
  lookup_bind id registry.dictionaries.size registry.bindings other

theorem dictionary_register (dictionary : Dictionary) (handle : Nat) :
    (registry.register id dictionary).dictionary handle =
      if handle = registry.dictionaries.size then dictionary else registry.dictionary handle := by
  show ((registry.dictionaries.push dictionary)[handle]?).getD {} = _
  rw [Array.getElem?_push]
  by_cases new : handle = registry.dictionaries.size
  · rw [if_pos new, if_pos new]
    rfl
  · rw [if_neg new, if_neg new]
    rfl

theorem handle?_share {handle : Nat} (held : handle < registry.dictionaries.size) (other : Int32) :
    (registry.share id handle).handle? other =
      if other = id then some handle else registry.handle? other := by
  rw [share, if_pos held]
  exact lookup_bind id handle registry.bindings other

theorem dictionaries_share (handle : Nat) :
    (registry.share id handle).dictionaries = registry.dictionaries := by
  unfold share
  split <;> rfl

theorem find_eq_ok {registry : Registry} {id : Int32} {handle : Nat} :
    registry.find id = .ok handle ↔ registry.handle? id = some handle := by
  unfold find
  cases registry.handle? id with
  | none => simp
  | some bound => simp

end Operations

/-! ### Valid registries -/

/-- Every id is bound to a dictionary that exists, and no dictionary has a string twice. -/
structure Valid (registry : Registry) : Prop where
  bound : ∀ id handle, registry.handle? id = some handle → handle < registry.dictionaries.size
  distinct : ∀ handle, (registry.dictionary handle).Distinct

theorem Valid.empty : Valid {} where
  bound _ _ found := absurd found (by simp [handle?])
  distinct _ := List.nodup_nil

theorem Grows.valid {before after : Registry} (grows : before.Grows after) (valid : before.Valid) :
    after.Valid where
  bound id handle found := by
    rw [grows.size]
    apply valid.bound id handle
    rw [← find_eq_ok, ← grows.find, find_eq_ok]
    exact found
  distinct handle := (grows.dictionary handle).distinct (valid.distinct handle)

theorem Valid.register {registry : Registry} (valid : registry.Valid) (id : Int32)
    {dictionary : Dictionary} (distinct : dictionary.Distinct) :
    (registry.register id dictionary).Valid where
  bound other handle found := by
    have sized : (registry.register id dictionary).dictionaries.size =
        registry.dictionaries.size + 1 := Array.size_push _
    rw [handle?_register] at found
    by_cases same : other = id
    · rw [if_pos same] at found
      have new := Option.some.inj found
      omega
    · rw [if_neg same] at found
      have old := valid.bound other handle found
      omega
  distinct handle := by
    rw [dictionary_register]
    by_cases new : handle = registry.dictionaries.size
    · rw [if_pos new]
      exact distinct
    · rw [if_neg new]
      exact valid.distinct handle

theorem Valid.share {registry : Registry} (valid : registry.Valid) (id : Int32) (handle : Nat) :
    (registry.share id handle).Valid := by
  by_cases held : handle < registry.dictionaries.size
  · constructor
    · intro other bound found
      rw [dictionaries_share]
      rw [handle?_share registry id held] at found
      by_cases same : other = id
      · rw [if_pos same] at found
        exact Option.some.inj found ▸ held
      · rw [if_neg same] at found
        exact valid.bound other bound found
    · intro bound
      rw [dictionary, dictionaries_share]
      exact valid.distinct bound
  · rw [Registry.share, if_neg held]
    exact valid

/-! ### One registry out of another -/

/-- Dictionaries are added and grow, and ids may be bound anew. -/
structure Evolves (before after : Registry) : Prop where
  dictionary : ∀ handle, Dictionary.Grows (before.dictionary handle) (after.dictionary handle)

/-- Ids that are bound stay bound to the same dictionary. -/
def Keeps (before after : Registry) : Prop :=
  ∀ id handle, before.handle? id = some handle → after.handle? id = some handle

theorem Evolves.refl (registry : Registry) : Evolves registry registry :=
  ⟨fun handle => .refl (registry.dictionary handle)⟩

theorem Evolves.trans {first second third : Registry} (front : Evolves first second)
    (back : Evolves second third) : Evolves first third :=
  ⟨fun handle => (front.dictionary handle).trans (back.dictionary handle)⟩

theorem Keeps.refl (registry : Registry) : Keeps registry registry := fun _ _ found => found

theorem Grows.evolves {before after : Registry} (grows : before.Grows after) :
    before.Evolves after :=
  ⟨grows.dictionary⟩

theorem Grows.keeps {before after : Registry} (grows : before.Grows after) :
    before.Keeps after := by
  intro id handle found
  rw [← find_eq_ok, grows.find, find_eq_ok]
  exact found

theorem register_evolves (registry : Registry) (id : Int32) (values : List String) :
    registry.Evolves (registry.register id (ofList values)) := by
  constructor
  intro handle
  rw [dictionary_register]
  by_cases new : handle = registry.dictionaries.size
  · have empty : registry.dictionary handle = {} := by
      rw [new]
      simp [dictionary]
    rw [if_pos new, empty]
    exact ofList_grown values
  · rw [if_neg new]
    exact .refl _

/-- A dictionary under an id that is not bound takes no binding away. -/
theorem register_keeps {registry : Registry} {id : Int32} (unbound : registry.handle? id = none)
    (dictionary : Dictionary) : registry.Keeps (registry.register id dictionary) := by
  intro other handle bound
  rw [handle?_register, if_neg]
  · exact bound
  · rintro rfl
    rw [unbound] at bound
    contradiction

theorem share_evolves (registry : Registry) (id : Int32) (handle : Nat) :
    registry.Evolves (registry.share id handle) := by
  constructor
  intro bound
  rw [dictionary, dictionary, dictionaries_share]
  exact .refl _

/-! ### Known strings -/

/-- The id that the dictionary bound to an id has for a string, if it knows the string. -/
def issued? (registry : Registry) (id : Int32) (value : String) : Option Int32 :=
  (registry.handle? id).bind fun handle =>
    ((registry.dictionary handle).place? value).map Int32.ofNat

/-- The string that a number decodes to in the dictionary bound to an id. -/
def string? (registry : Registry) (id number : Int32) : Option String :=
  (registry.handle? id).bind fun handle => (registry.dictionary handle).string? number

section Known

variable {registry before after : Registry} {id number : Int32} {value : String} {handle : Nat}

/-- In dictionaries of at most 2 ^ 31 strings, the id of a string is what decodes to it. -/
theorem Valid.issued?_iff (valid : registry.Valid)
    (few : ∀ handle, (registry.dictionary handle).size ≤ 2 ^ 31) :
    registry.issued? id value = some number ↔ registry.string? id number = some value := by
  unfold issued? string?
  cases registry.handle? id with
  | none => simp
  | some handle => exact (valid.distinct handle).ofNat_place?_iff (few handle)

/-- What is known stays known while the id is bound to the same dictionary. -/
theorem Evolves.issued? (evolves : before.Evolves after)
    (bound : after.handle? id = before.handle? id) (known : before.issued? id value = some number) :
    after.issued? id value = some number := by
  unfold Registry.issued? at known ⊢
  rw [bound]
  cases found : before.handle? id with
  | none =>
      rw [found] at known
      contradiction
  | some handle =>
      rw [found] at known
      rcases Option.map_eq_some_iff.mp known with ⟨place, placed, same⟩
      exact Option.map_eq_some_iff.mpr ⟨place, (evolves.dictionary handle).place? placed, same⟩

/-- A string that its dictionary need not insert is known. -/
theorem Valid.place?_of_idOf (valid : registry.Valid) (found : registry.find id = .ok handle)
    (unchanged : (registry.idOf handle value).2 = registry) :
    ∃ place, (registry.dictionary handle).place? value = some place ∧
      registry.idOf handle value = (Int32.ofNat place, registry) := by
  have held := valid.bound id handle (find_eq_ok.mp found)
  have same : ((registry.dictionary handle).idOf value).2 = registry.dictionary handle := by
    rw [← idOf_dictionary held, unchanged]
  rcases Dictionary.place?_of_idOf same with ⟨place, placed, -⟩
  exact ⟨place, placed, idOf_of_place? placed⟩

theorem Valid.issued?_of_idOf (valid : registry.Valid) (found : registry.find id = .ok handle)
    (unchanged : (registry.idOf handle value).2 = registry) :
    registry.issued? id value = some (registry.idOf handle value).1 := by
  rcases valid.place?_of_idOf found unchanged with ⟨place, placed, same⟩
  rw [Registry.issued?, find_eq_ok.mp found, same]
  exact Option.map_eq_some_iff.mpr ⟨place, placed, rfl⟩

end Known

/-! ### Repetition -/

/-- What the dictionaries answered without a change, they answer again, through the same
handle. -/
def Repeats (before after : Registry) : Prop :=
  ∀ id handle value, before.find id = .ok handle → (before.idOf handle value).2 = before →
    after.find id = .ok handle ∧
      after.idOf handle value = ((before.idOf handle value).1, after)

theorem Repeats.trans {first second third : Registry} (front : first.Repeats second)
    (back : second.Repeats third) : first.Repeats third := by
  intro id handle value found unchanged
  rcases front id handle value found unchanged with ⟨foundAgain, again⟩
  rcases back id handle value foundAgain (by rw [again]) with ⟨foundLast, last⟩
  rw [again] at last
  exact ⟨foundLast, last⟩

theorem Grows.repeats {before after : Registry} (grows : before.Grows after) :
    before.Repeats after := by
  intro id handle value found unchanged
  refine ⟨(grows.find id).trans found, ?_⟩
  apply idOf_stable
  rw [unchanged]
  exact grows

theorem Valid.repeats {before after : Registry} (valid : before.Valid)
    (evolves : before.Evolves after) (keeps : before.Keeps after) : before.Repeats after := by
  intro id handle value found unchanged
  rcases valid.place?_of_idOf found unchanged with ⟨place, placed, same⟩
  refine ⟨find_eq_ok.mpr (keeps id handle (find_eq_ok.mp found)), ?_⟩
  rw [same]
  exact idOf_of_place? ((evolves.dictionary handle).place? placed)

end QueryKernel.Dictionary.Registry
