import Mathlib.Data.Finset.Card
import Mathlib.Data.List.Dedup
import Mathlib.Data.List.DropRight
import QueryKernel.Kernel.Cache

/-!
Contract: the code cache keeps exactly the kernels of the keys that were used last.

A ledger is the cache as it should be: it never forgets a use or a kernel, and has no queue and
no evictions. What it hands out is decided by the last distinct keys alone.

Owns:
- what lookup and insertion do to the entries of a cache;
- operations on a cache and on a ledger, and their answers;
- the invariant that ties the two: the queue lists each cached key once, namely the last distinct
  keys of the ledger in order, and the kernels are those of the ledger;
- its preservation by every operation, and from it by every sequence of operations;
- how long the ledger keeps a key.

Does not own: which operations an executor performs.
-/

namespace QueryKernel

namespace CodeCache

/-! ### Lookup and insertion -/

theorem mem_of_get {cache after : CodeCache} {key : UInt64} {issued : Issued}
    (found : cache.get key = some (issued, after)) : (key, issued) ∈ cache.entries := by
  unfold get at found
  split at found
  · rename_i hit looked
    cases found
    rcases List.lookup_eq_some_iff.mp looked with ⟨front, back, entries, -⟩
    rw [entries]
    exact List.mem_append_right _ List.mem_cons_self
  · contradiction

/-- A hit is found among the entries, and moves its key. -/
theorem get_eq_some_iff {cache after : CodeCache} {key : UInt64} {issued : Issued} :
    cache.get key = some (issued, after) ↔
      cache.entries.lookup key = some issued ∧ after = cache.touch key := by
  unfold get
  cases cache.entries.lookup key with
  | none => simp
  | some hit => simp [eq_comm]

theorem get_eq_none_iff {cache : CodeCache} {key : UInt64} :
    cache.get key = none ↔ cache.entries.lookup key = none := by
  unfold get
  cases cache.entries.lookup key with
  | none => simp
  | some hit => simp

/-- A hit leaves the entries alone. -/
theorem get_entries {cache after : CodeCache} {key : UInt64} {issued : Issued}
    (found : cache.get key = some (issued, after)) : after.entries = cache.entries := by
  rw [(get_eq_some_iff.mp found).2]
  rfl

/-- What was found is found again. -/
theorem get_again {cache after : CodeCache} {key : UInt64} {issued : Issued}
    (found : cache.get key = some (issued, after)) :
    ∃ later, after.get key = some (issued, later) := by
  refine ⟨_, get_eq_some_iff.mpr ⟨?_, rfl⟩⟩
  rw [get_entries found]
  exact (get_eq_some_iff.mp found).1

/-- Room is made by dropping entries. -/
theorem makeRoom_subset (capacity : Nat) (entries : List (UInt64 × Issued))
    (recency : List UInt64) : (makeRoom capacity entries recency).entries ⊆ entries := by
  induction recency generalizing entries with
  | nil => exact List.Subset.refl entries
  | cons oldest rest inductionHypothesis =>
      rw [makeRoom]
      split
      · exact List.Subset.trans (inductionHypothesis _) (List.filter_subset_self _)
      · exact List.Subset.refl entries

/-- The cache behind the insertion of a key that it does not hold. -/
theorem insert_of_absent {cache : CodeCache} {issued : Issued}
    (absent : cache.get issued.kernel.key = none) :
    cache.insert issued =
      (issued, { makeRoom cache.capacity cache.entries cache.recency with
        entries := (makeRoom cache.capacity cache.entries cache.recency).entries ++
          [(issued.kernel.key, issued)]
        recency := (makeRoom cache.capacity cache.entries cache.recency).recency ++
          [issued.kernel.key] }) := by
  rw [insert, absent]

/-- What was inserted is found. -/
theorem get_of_insert {cache : CodeCache} {issued : Issued}
    (absent : cache.get issued.kernel.key = none) :
    ∃ later, (cache.insert issued).2.get issued.kernel.key = some (issued, later) := by
  refine ⟨_, get_eq_some_iff.mpr ⟨?_, rfl⟩⟩
  have dropped : (makeRoom cache.capacity cache.entries cache.recency).entries.lookup
      issued.kernel.key = none := by
    have unlisted := get_eq_none_iff.mp absent
    rw [List.lookup_eq_none_iff] at unlisted ⊢
    intro entry kept
    exact unlisted entry (makeRoom_subset _ _ _ kept)
  rw [insert_of_absent absent, List.lookup_append, dropped, List.lookup_cons_self]
  rfl

/-- Only the inserted kernel is new. -/
theorem mem_insert {cache : CodeCache} {issued : Issued} {entry : UInt64 × Issued}
    (member : entry ∈ (cache.insert issued).2.entries) :
    entry ∈ cache.entries ∨ entry = (issued.kernel.key, issued) := by
  cases found : cache.get issued.kernel.key with
  | some hit =>
      rw [insert, found] at member
      exact .inl (get_entries found ▸ member)
  | none =>
      rw [insert_of_absent found] at member
      rcases List.mem_append.mp member with old | new
      · exact .inl (makeRoom_subset _ _ _ old)
      · exact .inr (List.mem_singleton.mp new)

/-! ### The invariant of the queue -/

/-- The queue lists each cached key exactly once and no other key, and the capacity is kept. -/
structure Balanced (cache : CodeCache) : Prop where
  distinct : cache.recency.Nodup
  listed : (cache.entries.map Prod.fst).Perm cache.recency
  bounded : cache.size ≤ cache.capacity

/-- The keys that stand in the rest of a queue are the rest of the queue. -/
theorem filter_mem_drop {keys : List UInt64} (distinct : keys.Nodup) (count : Nat) :
    (keys.filter fun key => decide (key ∈ keys.drop count)) = keys.drop count := by
  have apart : ∀ key ∈ keys.take count, key ∉ keys.drop count := by
    rw [← List.take_append_drop count keys] at distinct
    intro key early late
    exact (List.nodup_append.mp distinct).2.2 key early key late rfl
  have dropped : ((keys.take count).filter fun key => decide (key ∈ keys.drop count)) = [] := by
    rw [List.filter_eq_nil_iff]
    intro key early
    simp [apart key early]
  have unchanged : ((keys.drop count).filter fun key => decide (key ∈ keys.drop count)) =
      keys.drop count := by
    rw [List.filter_eq_self]
    intro key member
    exact decide_eq_true member
  calc (keys.filter fun key => decide (key ∈ keys.drop count))
      = (keys.take count ++ keys.drop count).filter fun key => decide (key ∈ keys.drop count) := by
        rw [List.take_append_drop]
    _ = keys.drop count := by
        rw [List.filter_append, dropped, unchanged, List.nil_append]

/-- A key is looked up behind a filter of keys. -/
theorem lookup_filter (keep : UInt64 → Bool) (entries : List (UInt64 × Issued)) (key : UInt64) :
    (entries.filter fun entry => keep entry.1).lookup key =
      if keep key then entries.lookup key else none := by
  induction entries with
  | nil => simp
  | cons entry rest inductionHypothesis =>
      rcases entry with ⟨other, issued⟩
      by_cases same : key = other
      · subst same
        cases kept : keep key with
        | true => simp [kept]
        | false => simp [kept, inductionHypothesis]
      · have differs : (key == other) = false := beq_false_of_ne same
        cases kept : keep other with
        | true => simp [kept, List.lookup_cons, differs, inductionHypothesis]
        | false => simp [kept, List.lookup_cons, differs, inductionHypothesis]

/-- Room is made by dropping keys from the front of the queue, as many as are too many, and
their kernels with them. -/
theorem makeRoom_eq {capacity : Nat} {entries : List (UInt64 × Issued)} {recency : List UInt64}
    (distinct : recency.Nodup) (listed : (entries.map Prod.fst).Perm recency) :
    makeRoom capacity entries recency =
      { capacity
        entries := entries.filter fun entry =>
          decide (entry.1 ∈ recency.drop (recency.length + 1 - capacity))
        recency := recency.drop (recency.length + 1 - capacity) } := by
  induction recency generalizing entries with
  | nil =>
      have empty : entries = [] := List.map_eq_nil_iff.mp listed.eq_nil
      rw [empty, List.drop_nil, List.filter_nil, makeRoom]
  | cons oldest rest inductionHypothesis =>
      have sizes : entries.length = rest.length + 1 := by
        rw [← List.length_map Prod.fst, listed.length_eq, List.length_cons]
      rcases List.nodup_cons.mp distinct with ⟨absent, restDistinct⟩
      rw [makeRoom]
      split
      · rename_i full
        have others : ((entries.filter fun entry => entry.1 != oldest).map Prod.fst).Perm rest := by
          have filtered := listed.filter (· != oldest)
          rw [List.filter_cons_of_neg (by simp), List.filter_map] at filtered
          have untouched : rest.filter (· != oldest) = rest := by
            rw [List.filter_eq_self]
            intro key member
            exact bne_iff_ne.mpr fun same => absent (same ▸ member)
          rw [untouched] at filtered
          exact filtered
        have excess : (oldest :: rest).length + 1 - capacity = rest.length + 1 - capacity + 1 := by
          rw [List.length_cons]
          omega
        rw [inductionHypothesis restDistinct others, excess, List.drop_succ_cons,
          List.filter_filter]
        congr 1
        apply List.filter_congr
        intro entry _
        -- A key that stays is not the one that is dropped.
        by_cases stays : entry.1 ∈ rest.drop (rest.length + 1 - capacity)
        · have other : entry.1 ≠ oldest := fun same => absent (same ▸ List.mem_of_mem_drop stays)
          simp [stays, other]
        · simp [stays]
      · rename_i room
        have excess : (oldest :: rest).length + 1 - capacity = 0 := by
          rw [List.length_cons]
          omega
        rw [excess, List.drop_zero]
        congr 1
        rw [eq_comm, List.filter_eq_self]
        intro entry member
        exact decide_eq_true (listed.subset (List.mem_map_of_mem member))

section Balanced

variable {cache : CodeCache}

theorem Balanced.empty (capacity : Nat) : Balanced { capacity } :=
  ⟨List.nodup_nil, .nil, Nat.zero_le capacity⟩

theorem Balanced.length_eq (balanced : cache.Balanced) : cache.recency.length = cache.size := by
  rw [← balanced.listed.length_eq, List.length_map, size]

/-- The cached keys are those of the queue. -/
theorem Balanced.lookup_eq_none_iff (balanced : cache.Balanced) {key : UInt64} :
    cache.entries.lookup key = none ↔ key ∉ cache.recency := by
  rw [← balanced.listed.mem_iff, List.lookup_eq_none_iff, List.mem_map]
  constructor
  · rintro unlisted ⟨entry, member, rfl⟩
    exact bne_iff_ne.mp (unlisted entry member) rfl
  · intro absent entry member
    exact bne_iff_ne.mpr fun same => absent ⟨entry, member, same.symm⟩

theorem Balanced.mem_recency (balanced : cache.Balanced) {key : UInt64} {issued : Issued}
    (found : cache.entries.lookup key = some issued) : key ∈ cache.recency := by
  by_contra absent
  rw [balanced.lookup_eq_none_iff.mpr absent] at found
  contradiction

theorem Balanced.touch (balanced : cache.Balanced) {key : UInt64} (member : key ∈ cache.recency) :
    (cache.touch key).Balanced where
  distinct := by
    have others := balanced.distinct.erase key
    refine List.nodup_append.mpr ⟨others, List.nodup_singleton key, ?_⟩
    intro other inside _ single
    rw [List.mem_singleton.mp single]
    rintro rfl
    exact balanced.distinct.not_mem_erase inside
  listed := by
    have moved : cache.recency.Perm (cache.recency.erase key ++ [key]) :=
      (List.perm_cons_erase member).trans (List.perm_append_singleton key _).symm
    exact balanced.listed.trans moved
  bounded := balanced.bounded

/-- The cache behind the insertion of a key that it does not hold: the keys at the front of the
queue leave it until there is room. -/
theorem Balanced.insert_eq (balanced : cache.Balanced) {issued : Issued}
    (absent : cache.get issued.kernel.key = none) :
    let kept := cache.recency.drop (cache.size + 1 - cache.capacity)
    cache.insert issued =
      (issued, {
        capacity := cache.capacity
        entries := (cache.entries.filter fun entry => decide (entry.1 ∈ kept)) ++
          [(issued.kernel.key, issued)]
        recency := kept ++ [issued.kernel.key] }) := by
  intro kept
  rw [insert_of_absent absent, makeRoom_eq balanced.distinct balanced.listed, balanced.length_eq]

theorem Balanced.insert (balanced : cache.Balanced) (positive : 0 < cache.capacity)
    {issued : Issued} (absent : cache.get issued.kernel.key = none) :
    (cache.insert issued).2.Balanced := by
  have unlisted := balanced.lookup_eq_none_iff.mp (get_eq_none_iff.mp absent)
  rw [balanced.insert_eq absent]
  set kept := cache.recency.drop (cache.size + 1 - cache.capacity) with keptEq
  have subset : kept ⊆ cache.recency := List.drop_subset _ _
  have listed : ((cache.entries.filter fun entry => decide (entry.1 ∈ kept)).map Prod.fst).Perm
      kept := by
    have filtered := balanced.listed.filter fun key => decide (key ∈ kept)
    rw [List.filter_map] at filtered
    rw [filter_mem_drop balanced.distinct] at filtered
    exact filtered
  constructor
  · refine List.nodup_append.mpr
      ⟨balanced.distinct.sublist (List.drop_sublist _ _), List.nodup_singleton _, ?_⟩
    intro other inside _ single
    rw [List.mem_singleton.mp single]
    rintro rfl
    exact unlisted (subset inside)
  · rw [List.map_append]
    exact listed.append_right [issued.kernel.key]
  · have length := listed.length_eq
    rw [List.length_map] at length
    have room : kept.length + 1 ≤ cache.capacity := by
      have bounded := balanced.bounded
      rw [keptEq, List.length_drop, balanced.length_eq]
      omega
    rw [size, List.length_append, length]
    exact room

end Balanced

end CodeCache

/-! ### The ledger -/

/-- The last distinct keys of a list, at most `count`, in the order of their last place. -/
def lastKeys (count : Nat) (keys : List UInt64) : List UInt64 :=
  keys.dedup.rtake count

section Keys

variable {count : Nat} {keys : List UInt64} {key : UInt64}

/-- A key that is used once more moves to the end. -/
theorem dedup_append_key (keys : List UInt64) (key : UInt64) :
    (keys ++ [key]).dedup = keys.dedup.erase key ++ [key] := by
  induction keys with
  | nil => rfl
  | cons first rest inductionHypothesis =>
      rw [List.cons_append]
      by_cases later : first ∈ rest
      · rw [List.dedup_cons_of_mem later, List.dedup_cons_of_mem (List.mem_append_left _ later),
          inductionHypothesis]
      · rw [List.dedup_cons_of_notMem later]
        by_cases same : first = key
        · subst same
          have member : first ∈ rest ++ [first] := List.mem_append_right _ List.mem_cons_self
          have unlisted : first ∉ rest.dedup := fun inside => later (List.mem_dedup.mp inside)
          rw [List.dedup_cons_of_mem member, inductionHypothesis, List.erase_cons_head,
            List.erase_of_not_mem unlisted]
        · have absent : first ∉ rest ++ [key] := by
            simp [later, same]
          rw [List.dedup_cons_of_notMem absent, inductionHypothesis,
            List.erase_cons_tail (by simpa using same), List.cons_append]

/-- The keys before the last ones, and the last ones: there are as many of these as are asked
for, or all. -/
theorem exists_lastKeys (count : Nat) (keys : List UInt64) :
    ∃ front, keys.dedup = front ++ lastKeys count keys ∧ (lastKeys count keys).length ≤ count ∧
      (front = [] ∨ (lastKeys count keys).length = count) := by
  refine ⟨keys.dedup.take (keys.dedup.length - count), ?_, ?_, ?_⟩
  · exact (List.take_append_drop _ _).symm
  · rw [lastKeys, List.rtake, List.length_drop]
    omega
  · by_cases few : keys.dedup.length ≤ count
    · left
      rw [Nat.sub_eq_zero_of_le few, List.take_zero]
    · right
      rw [lastKeys, List.rtake, List.length_drop]
      omega

/-- The last keys of a list, from any way to cut it behind a front of which none is wanted. -/
theorem lastKeys_of_cut (front : List UInt64) {back : List UInt64}
    (cut : keys.dedup = front ++ back) (few : back.length ≤ count)
    (full : front = [] ∨ back.length = count) :
    lastKeys count keys = back := by
  have dropped : keys.dedup.length - count = front.length := by
    rw [cut, List.length_append]
    rcases full with rfl | same
    · rw [List.length_nil]
      omega
    · omega
  rw [lastKeys, List.rtake, dropped, cut, List.drop_left]

/-- A key among the last ones moves to the end when it is used. -/
theorem lastKeys_use_of_mem (member : key ∈ lastKeys count keys) :
    lastKeys count (keys ++ [key]) = (lastKeys count keys).erase key ++ [key] := by
  rcases exists_lastKeys count keys with ⟨front, cut, few, full⟩
  have distinct := keys.nodup_dedup
  rw [cut] at distinct
  have absent : key ∉ front := fun early =>
    (List.nodup_append.mp distinct).2.2 key early key member rfl
  have length : ((lastKeys count keys).erase key ++ [key]).length =
      (lastKeys count keys).length := by
    have positive := List.length_pos_of_mem member
    rw [List.length_append, List.length_erase_of_mem member, List.length_singleton]
    omega
  apply lastKeys_of_cut front
  · rw [dedup_append_key, cut, List.erase_append_right _ absent, List.append_assoc]
  · rw [length]
    exact few
  · rw [length]
    exact full

/-- Another key comes behind the last ones, and the first of them goes if they are full. -/
theorem lastKeys_use_of_notMem (positive : 0 < count) (absent : key ∉ lastKeys count keys) :
    lastKeys count (keys ++ [key]) =
      (lastKeys count keys).drop ((lastKeys count keys).length + 1 - count) ++ [key] := by
  rcases exists_lastKeys count keys with ⟨front, cut, few, full⟩
  generalize lastKeys count keys = last at *
  have erased : keys.dedup.erase key = front.erase key ++ last := by
    rw [cut, List.erase_append]
    split
    · rfl
    · rename_i early
      rw [List.erase_of_not_mem absent, List.erase_of_not_mem early]
  apply lastKeys_of_cut (front.erase key ++ last.take (last.length + 1 - count))
  · rw [dedup_append_key, erased, List.append_assoc, List.append_assoc, ← List.append_assoc
      (last.take _), List.take_append_drop]
  · rw [List.length_append, List.length_drop, List.length_singleton]
    omega
  · rcases Nat.lt_or_ge last.length count with room | noRoom
    · left
      have empty : front = [] := full.resolve_right (Nat.ne_of_lt room)
      have none : last.length + 1 - count = 0 := by omega
      rw [empty, none]
      rfl
    · right
      rw [List.length_append, List.length_drop, List.length_singleton]
      omega

/-- A key is among the last ones as long as fewer other keys were used behind it. -/
theorem mem_lastKeys {front back : List UInt64} (absent : key ∉ back)
    (few : back.toFinset.card < count) : key ∈ lastKeys count (front ++ key :: back) := by
  have behind : key :: back.dedup <:+ (front ++ key :: back).dedup := by
    rw [List.dedup_append, List.dedup_cons_of_notMem absent]
    exact List.suffix_union_right _ _
  rcases behind with ⟨early, cut⟩
  have short : (key :: back.dedup).length ≤ count := by
    rw [List.length_cons, ← List.card_toFinset]
    exact few
  rw [lastKeys, List.rtake, ← cut, List.drop_append]
  have inFront : (early ++ key :: back.dedup).length - count - early.length = 0 := by
    rw [List.length_append]
    omega
  rw [inFront, List.drop_zero]
  exact List.mem_append_right _ List.mem_cons_self

end Keys

/-- What a cache should remember since it was cleared: the keys that were used, oldest first, and
the kernels that brought a key in, newest first. -/
structure Ledger where
  used : List UInt64 := []
  brought : List (UInt64 × Issued) := []

namespace Ledger

/-- The kernel that a cache of some capacity should hold for a key: the one that last brought the
key in, if the key is among the keys used last. -/
def kernel? (ledger : Ledger) (capacity : Nat) (key : UInt64) : Option Issued :=
  if key ∈ lastKeys capacity ledger.used then ledger.brought.lookup key else none

theorem brought_of_kernel? (ledger : Ledger) {capacity : Nat} {key : UInt64} {issued : Issued}
    (held : ledger.kernel? capacity key = some issued) :
    ledger.brought.lookup key = some issued := by
  rw [kernel?] at held
  split at held
  · exact held
  · contradiction

def use (ledger : Ledger) (key : UInt64) : Ledger :=
  { ledger with used := ledger.used ++ [key] }

/-- The ledger behind a use of a key that brings a kernel in. -/
def bring (ledger : Ledger) (issued : Issued) : Ledger where
  used := ledger.used ++ [issued.kernel.key]
  brought := (issued.kernel.key, issued) :: ledger.brought

/-- The ledger holds a kernel for a key, and the keys used behind the last use of that key are
among some others. -/
structure Keeps (ledger : Ledger) (key : UInt64) (issued : Issued) (others : Finset UInt64) :
    Prop where
  brought : ledger.brought.lookup key = some issued
  used : ∃ front back, ledger.used = front ++ key :: back ∧ key ∉ back ∧ back.toFinset ⊆ others

section Keeps

variable {ledger : Ledger} {key : UInt64} {issued : Issued} {others : Finset UInt64}

/-- A key is kept as long as the others are fewer than the capacity. -/
theorem Keeps.kernel? (keeps : ledger.Keeps key issued others) {capacity : Nat}
    (few : others.card < capacity) : ledger.kernel? capacity key = some issued := by
  rcases keeps.used with ⟨front, back, used, absent, among⟩
  have behind : back.toFinset.card < capacity :=
    Nat.lt_of_le_of_lt (Finset.card_le_card among) few
  rw [Ledger.kernel?, used, if_pos (mem_lastKeys absent behind), keeps.brought]

theorem Keeps.used_append (keeps : ledger.Keeps key issued others) {other : UInt64}
    (among : other = key ∨ other ∈ others) :
    ∃ front back, ledger.used ++ [other] = front ++ key :: back ∧ key ∉ back ∧
      back.toFinset ⊆ others := by
  rcases keeps.used with ⟨front, back, used, absent, amongBack⟩
  by_cases same : other = key
  · exact ⟨ledger.used, [], by rw [same], List.not_mem_nil, by simp⟩
  · refine ⟨front, back ++ [other], ?_, ?_, ?_⟩
    · rw [used, List.append_assoc, List.cons_append]
    · simp [absent, Ne.symm same]
    · rw [List.toFinset_append, Finset.union_subset_iff]
      exact ⟨amongBack, by simpa using among.resolve_left same⟩

theorem Keeps.use (keeps : ledger.Keeps key issued others) {other : UInt64}
    (among : other = key ∨ other ∈ others) : (ledger.use other).Keeps key issued others :=
  ⟨keeps.brought, keeps.used_append among⟩

/-- Another key is brought in. -/
theorem Keeps.bring (keeps : ledger.Keeps key issued others) {other : Issued}
    (different : other.kernel.key ≠ key) (among : other.kernel.key ∈ others) :
    (ledger.bring other).Keeps key issued others where
  brought := by
    rw [Ledger.bring, List.lookup_cons, beq_false_of_ne (Ne.symm different)]
    exact keeps.brought
  used := keeps.used_append (.inr among)

end Keeps

end Ledger

/-! ### Operations -/

namespace CodeCache

inductive Operation where
  | get (key : UInt64)
  | insert (issued : Issued)
  | clear

/-- The kernel that an operation hands out, and the cache behind it. -/
def respond (cache : CodeCache) : Operation → Option Issued × CodeCache
  | .get key =>
      match cache.get key with
      | some (issued, after) => (some issued, after)
      | none => (none, cache)
  | .insert issued => (some (cache.insert issued).1, (cache.insert issued).2)
  | .clear => (none, cache.clear)

/-- The cache behind a sequence of operations. -/
def serve (cache : CodeCache) (operations : List Operation) : CodeCache :=
  operations.foldl (fun cache operation => (cache.respond operation).2) cache

end CodeCache

namespace Ledger

open CodeCache (Operation)

/-- The kernel that an operation should hand out, and the ledger behind it. A lookup that misses
is no use, and only an insertion that misses brings a kernel in. -/
def respond (capacity : Nat) (ledger : Ledger) : Operation → Option Issued × Ledger
  | .get key =>
      match ledger.kernel? capacity key with
      | some issued => (some issued, ledger.use key)
      | none => (none, ledger)
  | .insert issued =>
      match ledger.kernel? capacity issued.kernel.key with
      | some hit => (some hit, ledger.use issued.kernel.key)
      | none => (some issued, ledger.bring issued)
  | .clear => (none, {})

/-- The ledger behind a sequence of operations. -/
def serve (capacity : Nat) (ledger : Ledger) (operations : List Operation) : Ledger :=
  operations.foldl (fun ledger operation => (ledger.respond capacity operation).2) ledger

end Ledger

namespace CodeCache

/-! ### The cache follows the ledger -/

/-- The cache is balanced, its queue holds the last distinct keys of the ledger in their order,
and its kernels are those of the ledger. -/
structure Mirrors (cache : CodeCache) (ledger : Ledger) : Prop extends Balanced cache where
  recent : cache.recency = lastKeys cache.capacity ledger.used
  kernels : ∀ key, cache.entries.lookup key = ledger.kernel? cache.capacity key

section Mirrors

variable {cache : CodeCache} {ledger : Ledger}

theorem Mirrors.empty (capacity : Nat) : Mirrors { capacity } {} where
  toBalanced := .empty capacity
  recent := by simp [lastKeys]
  kernels key := by
    rw [Ledger.kernel?]
    split <;> rfl

/-- A hit is a use. -/
theorem Mirrors.touch (mirrors : cache.Mirrors ledger) {key : UInt64}
    (member : key ∈ cache.recency) : (cache.touch key).Mirrors (ledger.use key) where
  toBalanced := mirrors.toBalanced.touch member
  recent := by
    have moved := mirrors.recent ▸ member
    change cache.recency.erase key ++ [key] = lastKeys cache.capacity (ledger.used ++ [key])
    rw [lastKeys_use_of_mem moved, ← mirrors.recent]
  kernels other := by
    have moved := mirrors.recent ▸ member
    have same : other ∈ lastKeys cache.capacity (ledger.used ++ [key]) ↔
        other ∈ lastKeys cache.capacity ledger.used := by
      rw [lastKeys_use_of_mem moved]
      exact ((List.perm_cons_erase moved).trans
        (List.perm_append_singleton key _).symm).mem_iff.symm
    change cache.entries.lookup other = (ledger.use key).kernel? cache.capacity other
    rw [mirrors.kernels other, Ledger.kernel?, Ledger.kernel?, Ledger.use]
    simp only [same]

/-- The insertion of a key that is not held brings its kernel in. -/
theorem Mirrors.bring (mirrors : cache.Mirrors ledger) (positive : 0 < cache.capacity)
    {issued : Issued} (absent : cache.get issued.kernel.key = none) :
    (cache.insert issued).2.Mirrors (ledger.bring issued) := by
  have balanced := mirrors.toBalanced.insert positive absent
  have unlisted := mirrors.toBalanced.lookup_eq_none_iff.mp (get_eq_none_iff.mp absent)
  have next := mirrors.toBalanced.insert_eq absent
  have recent : lastKeys cache.capacity (ledger.used ++ [issued.kernel.key]) =
      cache.recency.drop (cache.size + 1 - cache.capacity) ++ [issued.kernel.key] := by
    rw [mirrors.recent] at unlisted
    rw [lastKeys_use_of_notMem positive unlisted, ← mirrors.recent, mirrors.toBalanced.length_eq]
  rw [next] at balanced ⊢
  refine ⟨balanced, recent.symm, ?_⟩
  intro key
  change List.lookup key (_ ++ _) = (ledger.bring issued).kernel? cache.capacity key
  rw [Ledger.kernel?, Ledger.bring, recent]
  set kept := cache.recency.drop (cache.size + 1 - cache.capacity) with keptEq
  have subset : kept ⊆ cache.recency := List.drop_subset _ _
  rw [List.lookup_append, lookup_filter (fun key => decide (key ∈ kept))]
  by_cases itself : key = issued.kernel.key
  · have gone : issued.kernel.key ∉ kept := fun member => unlisted (subset member)
    rw [itself, if_neg (by simpa using gone), if_pos (by simp), List.lookup_cons_self,
      List.lookup_cons_self]
    rfl
  · have differs : (key == issued.kernel.key) = false := beq_false_of_ne itself
    rw [List.lookup_cons, List.lookup_cons, differs]
    by_cases stays : key ∈ kept
    · have listed := mirrors.recent ▸ subset stays
      rw [if_pos (by simpa using stays), if_pos (List.mem_append_left _ stays), mirrors.kernels,
        Ledger.kernel?, if_pos listed]
      cases ledger.brought.lookup key <;> rfl
    · rw [if_neg (by simpa using stays), if_neg (by simp [stays, itself])]
      rfl

/-- An operation hands out what the ledger says, and the cache still follows the ledger. -/
theorem Mirrors.respond (mirrors : cache.Mirrors ledger) (positive : 0 < cache.capacity)
    (operation : Operation) :
    (cache.respond operation).1 = (ledger.respond cache.capacity operation).1 ∧
      (cache.respond operation).2.capacity = cache.capacity ∧
      (cache.respond operation).2.Mirrors (ledger.respond cache.capacity operation).2 := by
  cases operation with
  | get key =>
      have kernel := mirrors.kernels key
      cases looked : cache.entries.lookup key with
      | some issued =>
          rw [looked] at kernel
          have hit : cache.respond (.get key) = (some issued, cache.touch key) := by
            simp only [CodeCache.respond, get_eq_some_iff.mpr ⟨looked, rfl⟩]
          have noted : ledger.respond cache.capacity (.get key) =
              (some issued, ledger.use key) := by
            simp only [Ledger.respond, ← kernel]
          rw [hit, noted]
          exact ⟨rfl, rfl, mirrors.touch (mirrors.mem_recency looked)⟩
      | none =>
          rw [looked] at kernel
          have miss : cache.respond (.get key) = (none, cache) := by
            simp only [CodeCache.respond, get_eq_none_iff.mpr looked]
          have noted : ledger.respond cache.capacity (.get key) = (none, ledger) := by
            simp only [Ledger.respond, ← kernel]
          rw [miss, noted]
          exact ⟨rfl, rfl, mirrors⟩
  | insert issued =>
      have kernel := mirrors.kernels issued.kernel.key
      cases looked : cache.entries.lookup issued.kernel.key with
      | some stored =>
          rw [looked] at kernel
          have hit : cache.respond (.insert issued) =
              (some stored, cache.touch issued.kernel.key) := by
            simp only [CodeCache.respond, CodeCache.insert, get_eq_some_iff.mpr ⟨looked, rfl⟩]
          have noted : ledger.respond cache.capacity (.insert issued) =
              (some stored, ledger.use issued.kernel.key) := by
            simp only [Ledger.respond, ← kernel]
          rw [hit, noted]
          exact ⟨rfl, rfl, mirrors.touch (mirrors.mem_recency looked)⟩
      | none =>
          rw [looked] at kernel
          have missed := get_eq_none_iff.mpr looked
          have noted : ledger.respond cache.capacity (.insert issued) =
              (some issued, ledger.bring issued) := by
            simp only [Ledger.respond, ← kernel]
          rw [noted]
          refine ⟨?_, ?_, mirrors.bring positive missed⟩
          · simp only [CodeCache.respond, mirrors.toBalanced.insert_eq missed]
          · simp only [CodeCache.respond, mirrors.toBalanced.insert_eq missed]
  | clear => exact ⟨rfl, rfl, .empty cache.capacity⟩

/-- Every sequence of operations keeps the cache behind the ledger. -/
theorem Mirrors.serve (mirrors : cache.Mirrors ledger) (positive : 0 < cache.capacity)
    (operations : List Operation) :
    (cache.serve operations).capacity = cache.capacity ∧
      (cache.serve operations).Mirrors (ledger.serve cache.capacity operations) := by
  induction operations generalizing cache ledger with
  | nil => exact ⟨rfl, mirrors⟩
  | cons operation rest inductionHypothesis =>
      rcases mirrors.respond positive operation with ⟨-, capacity, next⟩
      rcases inductionHypothesis next (capacity ▸ positive) with ⟨sameCapacity, last⟩
      rw [capacity] at last
      exact ⟨sameCapacity.trans capacity, last⟩

/-- Only an insertion into a full cache evicts, and what it evicts is the key that was used least
recently. -/
theorem Balanced.evicted (balanced : cache.Balanced) {operation : Operation}
    (kept : operation ≠ .clear) {key : UInt64} (member : key ∈ cache.recency)
    (gone : key ∉ (cache.respond operation).2.recency) :
    cache.size = cache.capacity ∧ cache.recency.head? = some key := by
  have touched : ∀ other, key ∈ (cache.touch other).recency := by
    intro other
    by_cases same : key = other
    · rw [same]
      exact List.mem_append_right _ List.mem_cons_self
    · exact List.mem_append_left _ ((List.mem_erase_of_ne same).mpr member)
  cases operation with
  | clear => exact absurd rfl kept
  | get other =>
      refine absurd ?_ gone
      cases found : cache.get other with
      | some hit =>
          simp only [CodeCache.respond, found]
          rw [(get_eq_some_iff.mp found).2]
          exact touched other
      | none =>
          simp only [CodeCache.respond, found]
          exact member
  | insert issued =>
      cases found : cache.get issued.kernel.key with
      | some hit =>
          refine absurd ?_ gone
          simp only [CodeCache.respond, CodeCache.insert, found]
          rw [(get_eq_some_iff.mp found).2]
          exact touched _
      | none =>
          simp only [CodeCache.respond, balanced.insert_eq found] at gone
          have dropped : key ∉ cache.recency.drop (cache.size + 1 - cache.capacity) := fun stays =>
            gone (List.mem_append_left _ stays)
          have bounded := balanced.bounded
          rcases Nat.lt_or_ge cache.size cache.capacity with room | full
          · have none : cache.size + 1 - cache.capacity = 0 := by omega
            rw [none, List.drop_zero] at dropped
            exact absurd member dropped
          · have one : cache.size + 1 - cache.capacity = 1 := by omega
            rw [one, List.drop_one] at dropped
            cases queue : cache.recency with
            | nil =>
                rw [queue] at member
                contradiction
            | cons oldest rest =>
                rw [queue] at member dropped
                rcases List.mem_cons.mp member with rfl | later
                · exact ⟨Nat.le_antisymm bounded full, rfl⟩
                · exact absurd later dropped

end Mirrors

/-- What holds of a cache and its ledger behind every sequence of operations: the queue lists each
cached key once and no other, the capacity is kept, the cached keys are the ones used last, in
order, what is handed out is what the ledger says, a kernel whose key is there stays, and only the
key used least recently is evicted, to make room. -/
structure Exact (capacity : Nat) (cache : CodeCache) (ledger : Ledger) : Prop where
  distinct : cache.recency.Nodup
  listed : (cache.entries.map Prod.fst).Perm cache.recency
  bounded : cache.size ≤ capacity
  recent : cache.recency = lastKeys capacity ledger.used
  answers : ∀ operation, (cache.respond operation).1 = (ledger.respond capacity operation).1
  stays : ∀ issued stored touched, cache.get issued.kernel.key = some (stored, touched) →
    cache.insert issued = (stored, touched) ∧ touched.entries = cache.entries
  evicted : ∀ operation key, operation ≠ .clear → key ∈ cache.recency →
    key ∉ (cache.respond operation).2.recency →
    cache.size = capacity ∧ cache.recency.head? = some key

theorem exact_serve {capacity : Nat} (positive : 0 < capacity) (operations : List Operation) :
    Exact capacity (serve { capacity } operations) (Ledger.serve capacity {} operations) := by
  rcases (Mirrors.empty capacity).serve positive operations with ⟨sameCapacity, mirrors⟩
  generalize serve { capacity } operations = cache at *
  change cache.capacity = capacity at sameCapacity
  subst sameCapacity
  refine ⟨mirrors.distinct, mirrors.listed, mirrors.bounded, mirrors.recent, ?_, ?_, ?_⟩
  · intro operation
    exact (mirrors.respond positive operation).1
  · intro issued stored touched found
    exact ⟨by rw [insert, found], get_entries found⟩
  · intro operation key uncleared member gone
    exact mirrors.toBalanced.evicted uncleared member gone

end CodeCache

end QueryKernel
