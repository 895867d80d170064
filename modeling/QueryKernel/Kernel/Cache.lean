import QueryKernel.Kernel.Compiled

/-!
Contract: the bounded cache of compiled kernels.

The cache keeps the kernels that were used most recently. It holds them by key, and
next to them the queue of their keys, in the order of their last use. Every kernel has
a serial number, which tells it apart from an equal kernel that was compiled at another
time.

Owns: lookup, insertion with eviction, and clearing.
-/

namespace QueryKernel

/-- A kernel with the number of the compilation that made it. -/
structure Issued where
  serial : Nat
  kernel : Kernel
deriving DecidableEq, Repr

/-- Kernels by key, and the queue of the keys, the least recently used first. -/
structure CodeCache where
  capacity : Nat
  entries : List (UInt64 × Issued) := []
  recency : List UInt64 := []
deriving DecidableEq, Repr

namespace CodeCache

def size (cache : CodeCache) : Nat := cache.entries.length

/-- Move a key to the end of the queue. -/
def touch (cache : CodeCache) (key : UInt64) : CodeCache :=
  { cache with recency := cache.recency.erase key ++ [key] }

/-- Look a kernel up. A hit makes it the most recently used. -/
def get (cache : CodeCache) (key : UInt64) : Option (Issued × CodeCache) :=
  match cache.entries.lookup key with
  | some issued => some (issued, cache.touch key)
  | none => none

/-- Evict the kernels of the first keys of a queue until there is room for one more
kernel, or the queue is empty. -/
def makeRoom (capacity : Nat) (entries : List (UInt64 × Issued)) : List UInt64 → CodeCache
  | [] => { capacity, entries }
  | oldest :: rest =>
      if capacity ≤ entries.length then
        makeRoom capacity (entries.filter fun entry => entry.1 != oldest) rest
      else
        { capacity, entries, recency := oldest :: rest }

/-- Insert a kernel under its key and give back the kernel that the cache holds
then: a kernel that is already there stays. The least recently used kernels make
room. -/
def insert (cache : CodeCache) (issued : Issued) : Issued × CodeCache :=
  match cache.get issued.kernel.key with
  | some hit => hit
  | none =>
      let room := makeRoom cache.capacity cache.entries cache.recency
      (issued,
        { room with
          entries := room.entries ++ [(issued.kernel.key, issued)]
          recency := room.recency ++ [issued.kernel.key] })

def clear (cache : CodeCache) : CodeCache := { cache with entries := [], recency := [] }

end CodeCache

end QueryKernel
