import QueryKernel.Proofs.Dictionary.Binding

/-!
Contract: a handle stands for one dictionary, whatever happens to the ids.

Ids are bound, bound anew and looked up while strings are inserted through handles of any age.
Handles outlive the binding they were obtained from, so a history is told in terms of the
handles that its calls gave. Two of them lead to the same dictionary if they are equal.

Owns:
- the calls of a registry, and lawful histories: a handle is used after it was given;
- what one call does to the bindings, to the number of dictionaries and to each dictionary;
- the strings that a history puts into the dictionary of a handle;
- the main statement: ids lead to the handle of their last binding, handles to different
  dictionaries do not interfere, and an inserted string keeps its id behind its handle.

Does not own: the numbering of the strings of one dictionary.
-/

namespace QueryKernel.Dictionary

namespace Registry

/-! ### Ordered bindings -/

/-- The ids increase strictly. -/
def Ordered (registry : Registry) : Prop := registry.ids.Pairwise (· < ·)

theorem mem_ids_bind (id : Int32) (handle : Nat) (bindings : List (Int32 × Nat)) (other : Int32) :
    other ∈ (bind id handle bindings).map Prod.fst ↔
      other = id ∨ other ∈ bindings.map Prod.fst := by
  induction bindings with
  | nil => simp [bind]
  | cons binding rest inductionHypothesis =>
      rcases binding with ⟨listed, bound⟩
      unfold bind
      by_cases before : id < listed
      · rw [if_pos before, List.map_cons, List.mem_cons]
      · rw [if_neg before]
        by_cases same : id = listed
        · rw [if_pos same, List.map_cons, List.map_cons, List.mem_cons, List.mem_cons, same]
          simp
        · rw [if_neg same, List.map_cons, List.map_cons, List.mem_cons, List.mem_cons,
            inductionHypothesis]
          exact or_left_comm

theorem bind_ordered (id : Int32) (handle : Nat) {bindings : List (Int32 × Nat)}
    (ordered : (bindings.map Prod.fst).Pairwise (· < ·)) :
    ((bind id handle bindings).map Prod.fst).Pairwise (· < ·) := by
  induction bindings with
  | nil => exact List.pairwise_singleton _ id
  | cons binding rest inductionHypothesis =>
      rcases binding with ⟨listed, bound⟩
      rw [List.map_cons, List.pairwise_cons] at ordered
      rcases ordered with ⟨first, tail⟩
      unfold bind
      by_cases before : id < listed
      · rw [if_pos before, List.map_cons, List.map_cons, List.pairwise_cons, List.pairwise_cons]
        refine ⟨?_, first, tail⟩
        intro other member
        rcases List.mem_cons.mp member with rfl | later
        · exact before
        · exact Int32.lt_trans before (first other later)
      · rw [if_neg before]
        by_cases same : id = listed
        · rw [if_pos same, List.map_cons, List.pairwise_cons, same]
          exact ⟨first, tail⟩
        · rw [if_neg same, List.map_cons, List.pairwise_cons]
          refine ⟨?_, inductionHypothesis tail⟩
          intro other member
          rcases (mem_ids_bind id handle rest other).mp member with rfl | later
          · rw [Int32.lt_iff_toInt_lt] at before ⊢
            have different : other.toInt ≠ listed.toInt := mt Int32.toInt_inj.mp same
            change listed.toInt < other.toInt
            omega
          · exact first other later

/-- The listed ids are those that are bound. -/
theorem mem_ids_iff {registry : Registry} {id : Int32} :
    id ∈ registry.ids ↔ ∃ handle, registry.handle? id = some handle := by
  rw [← Option.ne_none_iff_exists', Ne, handle?, List.lookup_eq_none_iff, ids, List.mem_map]
  simp

/-! ### Calls -/

/-- A call of a registry, or of one of its dictionaries through a handle. -/
inductive Call where
  /-- A new dictionary, which already holds these strings, is bound to the id. -/
  | register (id : Int32) (values : List String)
  /-- The dictionary of a handle is bound to the id, be it bound elsewhere or nowhere. -/
  | share (id : Int32) (handle : Nat)
  | get (id : Int32)
  | getOrCreate (id : Int32)
  | ids
  /-- The id of a string is asked for, through a handle. -/
  | insert (handle : Nat) (value : String)
deriving DecidableEq, Repr

namespace Call

def after (registry : Registry) : Call → Registry
  | register id values => registry.register id (ofList values)
  | share id handle => registry.share id handle
  | getOrCreate id => (registry.findOrCreate id).2
  | insert handle value => (registry.idOf handle value).2
  | get _ | ids => registry

/-- The handle that the caller has of a call. Who registers a dictionary has a handle to it. -/
def gives (registry : Registry) : Call → Option Nat
  | register _ _ => some registry.dictionaries.size
  | share _ handle => some handle
  | get id => (registry.find id).toOption
  | getOrCreate id => some (registry.findOrCreate id).1
  | ids | insert _ _ => none

/-- The handle that a call needs. -/
def uses : Call → Option Nat
  | share _ handle | insert handle _ => some handle
  | register _ _ | get _ | getOrCreate _ | ids => none

def names : Call → Option Int32
  | register id _ | share id _ | get id | getOrCreate id => some id
  | ids | insert _ _ => none

/-- The id that a call binds, whatever it was bound to. -/
def rebinds : Call → Option Int32
  | register id _ | share id _ => some id
  | get _ | getOrCreate _ | ids | insert _ _ => none

/-- The id that is bound after a call, by the call or from before. -/
def binds : Call → Option Int32
  | register id _ | share id _ | getOrCreate id => some id
  | get _ | ids | insert _ _ => none

/-- The strings that a call puts into the dictionary of a handle. -/
def puts (registry : Registry) (handle : Nat) : Call → List String
  | register _ values => if handle = registry.dictionaries.size then values else []
  | insert used value => if handle = used then [value] else []
  | share _ _ | get _ | getOrCreate _ | ids => []

end Call

/-! ### One call -/

section Step

variable {registry : Registry} {call : Call} {id : Int32} {handle : Nat}

theorem findOrCreate_of_bound (bound : registry.handle? id = some handle) :
    registry.findOrCreate id = (handle, registry) := by
  rw [findOrCreate, bound]

theorem findOrCreate_of_unbound (unbound : registry.handle? id = none) :
    registry.findOrCreate id = (registry.dictionaries.size, registry.register id {}) := by
  rw [findOrCreate, unbound]

theorem toOption_find (registry : Registry) (id : Int32) :
    (registry.find id).toOption = registry.handle? id := by
  unfold find
  cases registry.handle? id <;> rfl

theorem handle?_idOf (registry : Registry) (handle : Nat) (value : String) (id : Int32) :
    (registry.idOf handle value).2.handle? id = registry.handle? id := by
  rw [handle?, handle?, (idOf_grows registry handle value).bindings]

/-- The id that a call is about leads to the handle that the call gives. -/
theorem handle?_after_of_names (named : call.names = some id)
    (given : call.gives registry = some handle)
    (held : call.uses = some handle → handle < registry.dictionaries.size) :
    (call.after registry).handle? id = some handle := by
  cases call with
  | register id values =>
      obtain rfl := Option.some.inj named
      rw [Call.after, handle?_register, if_pos rfl]
      exact given
  | share id shared =>
      obtain rfl := Option.some.inj named
      obtain rfl := Option.some.inj given
      rw [Call.after, handle?_share registry id (held rfl), if_pos rfl]
  | get id =>
      obtain rfl := Option.some.inj named
      rw [Call.gives, toOption_find] at given
      exact given
  | getOrCreate id =>
      obtain rfl := Option.some.inj named
      obtain rfl := Option.some.inj given
      rw [Call.after]
      cases bound : registry.handle? id with
      | some found => rw [findOrCreate_of_bound bound, bound]
      | none =>
          rw [findOrCreate_of_unbound bound]
          rw [handle?_register, if_pos rfl]
  | ids | insert _ _ => contradiction

/-- Where a call does not bind the id, it leads to the handle it led to. -/
theorem handle?_after_of_other (other : call.binds ≠ some id) :
    (call.after registry).handle? id = registry.handle? id := by
  cases call with
  | register bound values =>
      rw [Call.after, handle?_register, if_neg]
      rintro rfl
      exact other rfl
  | share bound handle =>
      rw [Call.after]
      by_cases held : handle < registry.dictionaries.size
      · rw [handle?_share registry bound held, if_neg]
        rintro rfl
        exact other rfl
      · rw [share, if_neg held]
  | getOrCreate bound =>
      rw [Call.after]
      cases found : registry.handle? bound with
      | some handle => rw [findOrCreate_of_bound found]
      | none =>
          rw [findOrCreate_of_unbound found, handle?_register, if_neg]
          rintro rfl
          exact other rfl
  | insert handle value => exact handle?_idOf registry handle value id
  | get _ | ids => rfl

/-- A binding gives way to a new one only. -/
theorem handle?_after_of_bound (bound : registry.handle? id = some handle)
    (kept : call.rebinds ≠ some id) : (call.after registry).handle? id = some handle := by
  by_cases binds : call.binds = some id
  · cases call with
    | getOrCreate created =>
        obtain rfl := Option.some.inj binds
        rw [Call.after, findOrCreate_of_bound bound]
        exact bound
    | register _ _ | share _ _ => exact absurd binds kept
    | get _ | ids | insert _ _ => contradiction
  · rw [handle?_after_of_other binds]
    exact bound

theorem size_register (registry : Registry) (id : Int32) (dictionary : Dictionary) :
    (registry.register id dictionary).dictionaries.size = registry.dictionaries.size + 1 :=
  Array.size_push dictionary

/-- Dictionaries are never dropped. -/
theorem size_le_after (registry : Registry) (call : Call) :
    registry.dictionaries.size ≤ (call.after registry).dictionaries.size := by
  cases call with
  | register id values =>
      rw [Call.after, size_register]
      omega
  | share id handle =>
      exact Nat.le_of_eq (congrArg Array.size (dictionaries_share _ id handle).symm)
  | getOrCreate id =>
      rw [Call.after]
      cases bound : registry.handle? id with
      | some handle => exact Nat.le_of_eq (by rw [findOrCreate_of_bound bound])
      | none =>
          rw [findOrCreate_of_unbound bound, size_register]
          omega
  | insert handle value => exact Nat.le_of_eq (idOf_grows registry handle value).size.symm
  | get _ | ids => exact Nat.le_refl _

/-- A dictionary that is new after a call is the one that the call gives a handle to. -/
theorem held_after (inside : handle < (call.after registry).dictionaries.size) :
    handle < registry.dictionaries.size ∨ call.gives registry = some handle := by
  by_cases old : handle < registry.dictionaries.size
  · exact .inl old
  · right
    cases call with
    | register id values =>
        rw [Call.after, size_register] at inside
        exact congrArg some (by omega)
    | share id shared =>
        rw [Call.after, dictionaries_share] at inside
        contradiction
    | getOrCreate id =>
        rw [Call.after] at inside
        rw [Call.gives]
        cases bound : registry.handle? id with
        | some found =>
            rw [findOrCreate_of_bound bound] at inside
            contradiction
        | none =>
            rw [findOrCreate_of_unbound bound] at inside ⊢
            rw [size_register] at inside
            exact congrArg some (by omega)
    | insert used value =>
        rw [Call.after, (idOf_grows registry used value).size] at inside
        contradiction
    | get _ | ids => contradiction

/-- A call gives a handle to a dictionary that exists after it. -/
theorem held_of_gives (valid : registry.Valid) (given : call.gives registry = some handle)
    (held : call.uses = some handle → handle < registry.dictionaries.size) :
    handle < (call.after registry).dictionaries.size := by
  cases call with
  | register id values =>
      have new := Option.some.inj given
      rw [Call.after, size_register]
      omega
  | share id shared =>
      rw [Call.after, dictionaries_share]
      exact held given
  | get id =>
      rw [Call.gives, toOption_find] at given
      exact valid.bound id handle given
  | getOrCreate id =>
      have found := Option.some.inj given
      rw [Call.after]
      cases bound : registry.handle? id with
      | some old =>
          rw [findOrCreate_of_bound bound] at found ⊢
          exact found ▸ valid.bound id old bound
      | none =>
          rw [findOrCreate_of_unbound bound] at found ⊢
          rw [size_register]
          omega
  | ids | insert _ _ => contradiction

/-- A call puts into each dictionary the strings that are meant for it, and nothing else
happens to any dictionary. -/
theorem dictionary_after (handle : Nat)
    (held : ∀ used, call.uses = some used → used < registry.dictionaries.size) :
    (call.after registry).dictionary handle =
      (registry.dictionary handle).insertAll (call.puts registry handle) := by
  have beyond : handle = registry.dictionaries.size → registry.dictionary handle = {} := by
    rintro rfl
    simp [dictionary]
  cases call with
  | register id values =>
      rw [Call.after, dictionary_register, Call.puts]
      by_cases new : handle = registry.dictionaries.size
      · rw [if_pos new, if_pos new, beyond new]
        rfl
      · rw [if_neg new, if_neg new]
        rfl
  | share id shared =>
      rw [Call.after, dictionary, dictionaries_share]
      rfl
  | getOrCreate id =>
      rw [Call.after]
      cases bound : registry.handle? id with
      | some found =>
          rw [findOrCreate_of_bound bound]
          rfl
      | none =>
          rw [findOrCreate_of_unbound bound, dictionary_register]
          by_cases new : handle = registry.dictionaries.size
          · rw [if_pos new, beyond new]
            rfl
          · rw [if_neg new]
            rfl
  | insert used value =>
      rw [Call.after, Call.puts]
      by_cases same : handle = used
      · subst same
        rw [if_pos rfl, idOf_dictionary (held handle rfl)]
        rfl
      · rw [if_neg same, idOf_other registry (Ne.symm same)]
        rfl
  | get _ | ids => rfl

theorem ordered_after (ordered : registry.Ordered) (call : Call) :
    (call.after registry).Ordered := by
  cases call with
  | register id values => exact bind_ordered id _ ordered
  | share id handle =>
      rw [Call.after, share]
      split
      · exact bind_ordered id handle ordered
      · exact ordered
  | getOrCreate id =>
      rw [Call.after]
      cases bound : registry.handle? id with
      | some found =>
          rw [findOrCreate_of_bound bound]
          exact ordered
      | none =>
          rw [findOrCreate_of_unbound bound]
          exact bind_ordered id _ ordered
  | insert handle value => exact ordered
  | get _ | ids => exact ordered

theorem valid_after (valid : registry.Valid) (call : Call) : (call.after registry).Valid := by
  cases call with
  | register id values => exact valid.register id (ofList_distinct values)
  | share id handle => exact valid.share id handle
  | getOrCreate id =>
      rw [Call.after]
      cases bound : registry.handle? id with
      | some found =>
          rw [findOrCreate_of_bound bound]
          exact valid
      | none =>
          rw [findOrCreate_of_unbound bound]
          exact valid.register id List.nodup_nil
  | insert handle value => exact (idOf_grows registry handle value).valid valid
  | get _ | ids => exact valid

end Step

/-! ### Histories -/

/-- The registry after calls, from an empty one. -/
def afterCalls (calls : List Call) : Registry :=
  calls.foldl (fun registry call => call.after registry) {}

/-- One of the calls gave the handle. -/
def Gave (calls : List Call) (handle : Nat) : Prop :=
  ∃ front call back, calls = front ++ call :: back ∧
    call.gives (afterCalls front) = some handle

/-- Every handle was given before it is used. -/
def Lawful (calls : List Call) : Prop :=
  ∀ front call back handle, calls = front ++ call :: back → call.uses = some handle →
    Gave front handle

/-- The strings that calls put into the dictionary of a handle, in order. -/
def receivedFrom (registry : Registry) (handle : Nat) : List Call → List String
  | [] => []
  | call :: rest => call.puts registry handle ++ receivedFrom (call.after registry) handle rest

/-- The strings that a history puts into the dictionary of a handle, in order. -/
def received (calls : List Call) (handle : Nat) : List String := receivedFrom {} handle calls

section Histories

variable {calls front back : List Call} {call : Call} {id : Int32} {handle : Nat}

theorem afterCalls_append (front back : List Call) :
    afterCalls (front ++ back) =
      back.foldl (fun registry call => call.after registry) (afterCalls front) :=
  List.foldl_append

theorem afterCalls_concat (calls : List Call) (call : Call) :
    afterCalls (calls ++ [call]) = call.after (afterCalls calls) :=
  afterCalls_append calls [call]

/-- A list that ends in one element splits before its end or at it. -/
theorem concat_eq_append_cons {last : Call} (split : calls ++ [last] = front ++ call :: back) :
    (calls = front ∧ last = call ∧ back = []) ∨
      ∃ rest, back = rest ++ [last] ∧ calls = front ++ call :: rest := by
  rcases List.eq_nil_or_concat back with rfl | ⟨rest, other, rfl⟩
  · rcases List.append_inj' split rfl with ⟨rfl, same⟩
    exact .inl ⟨rfl, List.head_eq_of_cons_eq same, rfl⟩
  · right
    rw [List.concat_eq_append, ← List.cons_append, ← List.append_assoc] at split
    rcases List.append_inj' split rfl with ⟨rfl, same⟩
    obtain rfl := List.head_eq_of_cons_eq same
    exact ⟨rest, List.concat_eq_append, rfl⟩

theorem Gave.append (given : Gave front handle) (back : List Call) :
    Gave (front ++ back) handle := by
  rcases given with ⟨before, call, rest, rfl, gives⟩
  exact ⟨before, call, rest ++ back, List.append_assoc _ _ _, gives⟩

theorem Lawful.nil : Lawful [] := by
  intro front call back handle split
  exact absurd split (List.append_ne_nil_of_right_ne_nil front (List.cons_ne_nil call back)).symm

theorem Lawful.concat (lawful : Lawful calls)
    (obtained : ∀ handle, call.uses = some handle → Gave calls handle) :
    Lawful (calls ++ [call]) := by
  intro front other back handle split used
  rcases concat_eq_append_cons split with ⟨rfl, rfl, -⟩ | ⟨rest, -, rfl⟩
  · exact obtained handle used
  · exact lawful front other rest handle rfl used

theorem Lawful.prior (lawful : Lawful (front ++ back)) : Lawful front := by
  rintro before call rest handle rfl used
  exact lawful before call (rest ++ back) handle (by simp) used

theorem valid_afterCalls (calls : List Call) : (afterCalls calls).Valid := by
  induction calls using List.reverseRecOn with
  | nil => exact Valid.empty
  | append_singleton calls call inductionHypothesis =>
      rw [afterCalls_concat]
      exact valid_after inductionHypothesis call

theorem ordered_afterCalls (calls : List Call) : (afterCalls calls).Ordered := by
  induction calls using List.reverseRecOn with
  | nil => exact List.Pairwise.nil
  | append_singleton calls call inductionHypothesis =>
      rw [afterCalls_concat]
      exact ordered_after inductionHypothesis call

/-- The handles that were given are those of the dictionaries that exist. -/
theorem Lawful.gave_iff (lawful : Lawful calls) :
    Gave calls handle ↔ handle < (afterCalls calls).dictionaries.size := by
  induction calls using List.reverseRecOn generalizing handle with
  | nil =>
      constructor
      · rintro ⟨front, call, back, split, -⟩
        exact absurd split
          (List.append_ne_nil_of_right_ne_nil front (List.cons_ne_nil call back)).symm
      · intro inside
        exact absurd inside (Nat.not_lt_zero handle)
  | append_singleton calls call inductionHypothesis =>
      have before : ∀ {handle}, Gave calls handle ↔ _ := fun {_} => inductionHypothesis lawful.prior
      rw [afterCalls_concat]
      constructor
      · rintro ⟨front, other, back, split, given⟩
        rcases concat_eq_append_cons split with ⟨rfl, rfl, -⟩ | ⟨rest, -, rfl⟩
        · apply held_of_gives (valid_afterCalls calls) given
          intro used
          exact before.mp (lawful calls call [] handle rfl used)
        · have old : Gave (front ++ other :: rest) handle := ⟨front, other, rest, rfl, given⟩
          have inside := before.mp old
          have grown := size_le_after (afterCalls (front ++ other :: rest)) call
          omega
      · intro inside
        rcases held_after inside with old | given
        · exact (before.mpr old).append [call]
        · exact ⟨calls, call, [], rfl, given⟩

/-- What a call of a lawful history uses exists before the call. -/
theorem Lawful.held (lawful : Lawful (front ++ call :: back)) {used : Nat}
    (uses : call.uses = some used) : used < (afterCalls front).dictionaries.size := by
  rw [← lawful.prior.gave_iff]
  exact lawful front call back used rfl uses

/-! ### Bindings of a history -/

/-- Later calls keep a binding unless they bind the id anew. -/
theorem handle?_foldl {registry : Registry} (bound : registry.handle? id = some handle)
    (kept : ∀ later ∈ back, later.rebinds ≠ some id) :
    (back.foldl (fun registry call => call.after registry) registry).handle? id = some handle := by
  induction back generalizing registry with
  | nil => exact bound
  | cons later rest inductionHypothesis =>
      apply inductionHypothesis
      · exact handle?_after_of_bound bound (kept later List.mem_cons_self)
      · intro other member
        exact kept other (List.mem_cons_of_mem later member)

/-- A handle that a call gave under an id is that of the id, until the id is bound anew. -/
theorem Lawful.handle?_of_given (lawful : Lawful (front ++ call :: back))
    (named : call.names = some id) (given : call.gives (afterCalls front) = some handle)
    (kept : ∀ later ∈ back, later.rebinds ≠ some id) :
    (afterCalls (front ++ call :: back)).handle? id = some handle := by
  rw [afterCalls_append, List.foldl_cons]
  apply handle?_foldl _ kept
  apply handle?_after_of_names named given
  intro used
  exact lawful.held used

/-- An id is bound if a call bound it, and to some handle then. -/
theorem Lawful.bound_iff (lawful : Lawful calls) :
    (∃ handle, (afterCalls calls).handle? id = some handle) ↔
      ∃ call ∈ calls, call.binds = some id := by
  induction calls using List.reverseRecOn with
  | nil => simp [afterCalls, handle?]
  | append_singleton calls call inductionHypothesis =>
      specialize inductionHypothesis lawful.prior
      rw [afterCalls_concat]
      by_cases binds : call.binds = some id
      · constructor
        · intro _
          exact ⟨call, by simp, binds⟩
        · intro _
          have named : call.names = some id := by
            cases call with
            | register _ _ | share _ _ | getOrCreate _ => exact binds
            | get _ | ids | insert _ _ => contradiction
          have given : ∃ handle, call.gives (afterCalls calls) = some handle := by
            cases call with
            | register _ _ | share _ _ | getOrCreate _ => exact ⟨_, rfl⟩
            | get _ | ids | insert _ _ => contradiction
          rcases given with ⟨handle, given⟩
          exact ⟨handle, handle?_after_of_names named given fun used => lawful.held used⟩
      · rw [handle?_after_of_other binds, inductionHypothesis]
        constructor
        · rintro ⟨other, member, bound⟩
          exact ⟨other, List.mem_append_left [call] member, bound⟩
        · rintro ⟨other, member, bound⟩
          rcases List.mem_append.mp member with old | last
          · exact ⟨other, old, bound⟩
          · rw [List.mem_singleton.mp last] at bound
            contradiction

/-! ### Strings of a history -/

theorem receivedFrom_append (registry : Registry) (front back : List Call) :
    receivedFrom registry handle (front ++ back) =
      receivedFrom registry handle front ++
        receivedFrom (front.foldl (fun registry call => call.after registry) registry) handle
          back := by
  induction front generalizing registry with
  | nil => rfl
  | cons call rest inductionHypothesis =>
      rw [List.cons_append, receivedFrom, receivedFrom, inductionHypothesis, List.foldl_cons,
        List.append_assoc]

theorem received_concat (calls : List Call) (call : Call) :
    received (calls ++ [call]) handle =
      received calls handle ++ call.puts (afterCalls calls) handle := by
  rw [received, receivedFrom_append, receivedFrom, receivedFrom, List.append_nil]
  rfl

/-- A dictionary holds what was put into it through its handle, in order, and nothing else. -/
theorem Lawful.dictionary (lawful : Lawful calls) (handle : Nat) :
    (afterCalls calls).dictionary handle = ofList (received calls handle) := by
  induction calls using List.reverseRecOn with
  | nil => rfl
  | append_singleton calls call inductionHypothesis =>
      rw [afterCalls_concat, received_concat,
        dictionary_after handle fun _ used => lawful.held used, inductionHypothesis lawful.prior]
      exact List.foldl_append.symm

theorem Lawful.grows (lawful : Lawful (front ++ back)) (handle : Nat) :
    Dictionary.Grows ((afterCalls front).dictionary handle)
      ((afterCalls (front ++ back)).dictionary handle) := by
  rw [lawful.dictionary, lawful.prior.dictionary, received, received, receivedFrom_append]
  exact ofList_grows _ _

end Histories

/-! ### The main statement -/

/-- Ids and handles after a history. -/
structure Aliases (calls : List Call) : Prop where
  /-- Exactly the ids that were bound are found. -/
  found : ∀ id, (∃ handle, (afterCalls calls).find id = .ok handle) ↔
    ∃ call ∈ calls, call.binds = some id
  missing : ∀ id, (∀ call ∈ calls, call.binds ≠ some id) →
    (afterCalls calls).find id = .error (.noDictionary id)
  /-- Until the id is bound anew, it leads to the handle that was given last. -/
  current : ∀ front call back id handle, calls = front ++ call :: back →
    call.names = some id → call.gives (afterCalls front) = some handle →
    (∀ later ∈ back, later.rebinds ≠ some id) →
      (afterCalls calls).find id = .ok handle ∧
      (afterCalls calls).findOrCreate id = (handle, afterCalls calls)
  /-- A free id gets an empty dictionary, and nothing else changes. -/
  created : ∀ id, (∀ call ∈ calls, call.binds ≠ some id) →
    let (handle, after) := (afterCalls calls).findOrCreate id
    ¬ Gave calls handle ∧ after.find id = .ok handle ∧ after.dictionary handle = {} ∧
      (∀ other, other ≠ id → after.find other = (afterCalls calls).find other) ∧
      ∀ other, Gave calls other → after.dictionary other = (afterCalls calls).dictionary other
  /-- A dictionary that is registered for the first time has a handle of its own. -/
  fresh : ∀ id values, ∀ handle,
    (Call.register id values).gives (afterCalls calls) = some handle → ¬ Gave calls handle
  /-- A dictionary holds the strings put into it through its handle, and no others. -/
  holds : ∀ handle, (afterCalls calls).dictionary handle = ofList (received calls handle)
  /-- A string that was inserted through a handle keeps its id behind it. -/
  inserted : ∀ front handle value back, calls = front ++ .insert handle value :: back →
    let (number, after) := (afterCalls front).idOf handle value
    (∀ id, after.find id = (afterCalls front).find id) ∧
    (∀ other, other ≠ handle → after.dictionary other = (afterCalls front).dictionary other) ∧
    (afterCalls calls).idOf handle value = (number, afterCalls calls) ∧
    (((afterCalls calls).dictionary handle).size ≤ 2 ^ 31 →
      ((afterCalls calls).dictionary handle).string? number = some value)
  increasing : (afterCalls calls).ids.Pairwise (· < ·)
  listed : ∀ id, id ∈ (afterCalls calls).ids ↔ ∃ call ∈ calls, call.binds = some id

theorem find_of_unbound {registry : Registry} {id : Int32}
    (unbound : registry.handle? id = none) : registry.find id = .error (.noDictionary id) := by
  rw [find, unbound]

theorem Lawful.handle?_of_unbound {calls : List Call} (lawful : Lawful calls) {id : Int32}
    (never : ∀ call ∈ calls, call.binds ≠ some id) : (afterCalls calls).handle? id = none := by
  apply Option.eq_none_iff_forall_ne_some.mpr
  intro handle bound
  rcases lawful.bound_iff.mp ⟨handle, bound⟩ with ⟨call, member, binds⟩
  exact never call member binds

/-- The number of dictionaries is a handle that nobody has. -/
theorem Lawful.not_gave_size {calls : List Call} (lawful : Lawful calls) :
    ¬ Gave calls (afterCalls calls).dictionaries.size := by
  rw [lawful.gave_iff]
  exact Nat.lt_irrefl _

theorem Lawful.inserted {front back : List Call} {handle : Nat} {value : String}
    (lawful : Lawful (front ++ .insert handle value :: back)) :
    let calls := front ++ .insert handle value :: back
    let number := ((afterCalls front).idOf handle value).1
    (afterCalls calls).idOf handle value = (number, afterCalls calls) ∧
    (((afterCalls calls).dictionary handle).size ≤ 2 ^ 31 →
      ((afterCalls calls).dictionary handle).string? number = some value) := by
  intro calls number
  have held : handle < (afterCalls front).dictionaries.size := lawful.held rfl
  rcases ((afterCalls front).dictionary handle).exists_place value with ⟨place, placed, issued⟩
  have split : calls = (front ++ [.insert handle value]) ++ back := by simp [calls]
  have later : ((afterCalls calls).dictionary handle).place? value = some place := by
    have lawfulSplit : Lawful ((front ++ [.insert handle value]) ++ back) := split ▸ lawful
    rw [split]
    apply (lawfulSplit.grows handle).place?
    rw [afterCalls_concat, Call.after, idOf_dictionary held]
    exact placed
  have number_eq : number = Int32.ofNat place := issued
  refine ⟨number_eq ▸ idOf_of_place? later, ?_⟩
  intro few
  have stands := getElem?_of_place? later
  have inside : place < ((afterCalls calls).dictionary handle).size :=
    (Array.getElem?_eq_some_iff.mp stands).1
  rw [number_eq, string?_ofNat (by omega)]
  exact stands

/-- Whatever was registered, created, looked up and inserted, in whatever order and through
whatever handles. -/
theorem handles_alias (calls : List Call) (lawful : Lawful calls) : Aliases calls := by
  constructor
  case found =>
    intro id
    simp only [find_eq_ok]
    exact lawful.bound_iff
  case missing =>
    intro id never
    exact find_of_unbound (lawful.handle?_of_unbound never)
  case current =>
    rintro front call back id handle rfl named given kept
    have bound := lawful.handle?_of_given named given kept
    exact ⟨find_eq_ok.mpr bound, findOrCreate_of_bound bound⟩
  case created =>
    intro id never
    rw [findOrCreate_of_unbound (lawful.handle?_of_unbound never)]
    refine ⟨lawful.not_gave_size, ?_, ?_, ?_, ?_⟩
    · rw [find_eq_ok, handle?_register, if_pos rfl]
    · rw [dictionary_register, if_pos rfl]
    · intro other different
      rw [find, find, handle?_register, if_neg different]
    · intro other given
      have inside := lawful.gave_iff.mp given
      rw [dictionary_register, if_neg (by omega)]
  case fresh =>
    intro id values handle given
    obtain rfl := Option.some.inj given
    exact lawful.not_gave_size
  case holds => exact lawful.dictionary
  case inserted =>
    rintro front handle value back rfl
    rcases lawful.inserted with ⟨known, decoded⟩
    refine ⟨(idOf_grows (afterCalls front) handle value).find, ?_, known, decoded⟩
    intro other different
    exact idOf_other _ (Ne.symm different) value
  case increasing => exact ordered_afterCalls calls
  case listed =>
    intro id
    rw [mem_ids_iff]
    exact lawful.bound_iff

/-- The first dictionary is replaced under its id while a handle to it is still used, and its
strings and those of its successor stay apart. -/
theorem handles_alias_replaced :
    let calls : List Call := [.getOrCreate 7, .insert 0 "a", .register 7 ["b"], .share (-1) 0,
      .insert 0 "c", .insert 1 "a"]
    Lawful calls ∧ Aliases calls ∧
      (afterCalls calls).find 7 = .ok 1 ∧ (afterCalls calls).find (-1) = .ok 0 ∧
      (afterCalls calls).ids = [-1, 7] ∧
      received calls 0 = ["a", "c"] ∧ received calls 1 = ["b", "a"] := by
  intro calls
  have first : Gave [.getOrCreate 7] 0 := ⟨[], .getOrCreate 7, [], rfl, rfl⟩
  have second : Gave ([.getOrCreate 7, .insert 0 "a"] ++ [.register 7 ["b"]]) 1 :=
    ⟨[.getOrCreate 7, .insert 0 "a"], .register 7 ["b"], [], rfl, by decide⟩
  have created : Lawful [.getOrCreate 7] := Lawful.nil.concat (by simp [Call.uses])
  have replaced : Lawful ([.getOrCreate 7, .insert 0 "a"] ++ [.register 7 ["b"]]) :=
    Lawful.concat (created.concat (by rintro _ ⟨⟩; exact first)) (by simp [Call.uses])
  have shared : Lawful (_ ++ [.share (-1) 0]) := replaced.concat
    (by rintro _ ⟨⟩; exact first.append [.insert 0 "a", .register 7 ["b"]])
  have lawful : Lawful calls := by
    have old : Lawful (_ ++ [.insert 0 "c"]) := shared.concat
      (by rintro _ ⟨⟩; exact first.append [.insert 0 "a", .register 7 ["b"], .share (-1) 0])
    apply old.concat
    rintro _ ⟨⟩
    exact second.append [.share (-1) 0, .insert 0 "c"]
  exact ⟨lawful, handles_alias calls lawful, by decide, by decide, by decide, by decide, by decide⟩

end Registry

end QueryKernel.Dictionary
