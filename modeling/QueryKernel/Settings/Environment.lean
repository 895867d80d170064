import QueryKernel.Settings.Basic

/-!
Contract: settings from environment variables.

Each variable governs one setting. A variable that is set but cannot be read is
reported and leaves its setting at the default.

Owns: the variables and their order, the reading of values, and the reports.
-/

namespace QueryKernel.Settings

/-- The variables, one for each setting. -/
inductive Variable where
  | hoisting
  | cpuOnly
  | gpus
  | firstGpu
  | bumpAllocator
  | traceCode
  | cacheSize
  | modernPool
  | arenaWidth
  | backend
deriving DecidableEq, Repr

namespace Variable

/-- All variables in the order in which they are read. -/
def all : List Variable :=
  [.hoisting, .cpuOnly, .gpus, .firstGpu, .bumpAllocator, .traceCode, .cacheSize, .modernPool,
    .arenaWidth, .backend]

def name : Variable → String
  | .hoisting => "LODESTAR_HOIST_LITERALS"
  | .cpuOnly => "LODESTAR_CPU_ONLY"
  | .gpus => "LODESTAR_NUM_GPUS"
  | .firstGpu => "LODESTAR_START_GPU"
  | .bumpAllocator => "LODESTAR_ENABLE_BUMP_ALLOCATOR"
  | .traceCode => "LODESTAR_JIT_DEBUG_IR"
  | .cacheSize => "LODESTAR_CODE_CACHE_SIZE"
  | .modernPool => "LODESTAR_ENABLE_MODERN_THREAD_POOL"
  | .arenaWidth => "LODESTAR_KERNEL_ARENA_WIDTH"
  | .backend => "LODESTAR_THREAD_POOL_BACKEND"

end Variable

/-- A flag is one of two words, in lower case. -/
def flag? (raw : String) : Option Bool :=
  if raw = "true" then some true
  else if raw = "false" then some false
  else none

/-- A size is a number below `2 ^ 64` in decimal digits, after an optional plus
sign. -/
def size? (raw : String) : Option Nat :=
  let digits :=
    match raw.toList with
    | '+' :: rest => rest
    | chars => chars
  if digits.isEmpty || !digits.all Char.isDigit then none
  else
    let value := digits.foldl (fun acc c => 10 * acc + (c.toNat - '0'.toNat)) 0
    if value < 2 ^ 64 then some value else none

/-- A backend is one of three words. -/
def backend? (raw : String) : Option Task.Backend :=
  if raw = "futures" then some .futures
  else if raw = "work_stealing" then some .workStealing
  else if raw = "inline" then some .inline
  else none

/-- The settings with one of them replaced by the value of its variable, if the
value can be read. -/
def assign? (settings : Settings) (raw : String) : Variable → Option Settings
  | .hoisting => (flag? raw).map fun hoisting => { settings with hoisting }
  | .cpuOnly => (flag? raw).map fun cpuOnly => { settings with cpuOnly }
  | .gpus => (size? raw).map fun gpus => { settings with gpus }
  | .firstGpu => (size? raw).map fun firstGpu => { settings with firstGpu }
  | .bumpAllocator => (flag? raw).map fun bumpAllocator => { settings with bumpAllocator }
  | .traceCode => (flag? raw).map fun traceCode => { settings with traceCode }
  | .cacheSize => (size? raw).map fun cacheSize => { settings with cacheSize }
  | .modernPool =>
      (flag? raw).map fun modernPool =>
        { settings with dispatch := { settings.dispatch with modernPool } }
  | .arenaWidth =>
      (size? raw).map fun arenaWidth =>
        { settings with dispatch := { settings.dispatch with arenaWidth } }
  | .backend =>
      (backend? raw).map fun backend =>
        { settings with dispatch := { settings.dispatch with backend := some backend } }

/-- A variable that could not be read, with its value. -/
structure Warning where
  source : Variable
  raw : String
deriving DecidableEq, Repr

def Warning.render (warning : Warning) : String :=
  match warning.source with
  | .backend => "Ignoring unknown " ++ Variable.backend.name ++ " " ++ Text.quoted warning.raw
  | source => "Ignoring unparsable " ++ source.name ++ "=" ++ Text.quoted warning.raw

def applyVariable (environment : String → Option String)
    (state : Settings × List Warning) (source : Variable) : Settings × List Warning :=
  match environment source.name with
  | none => state
  | some raw =>
      match state.1.assign? raw source with
      | some settings => (settings, state.2)
      | none => (state.1, state.2 ++ [⟨source, raw⟩])

/-- The settings of an environment, and what was ignored in it. -/
def ofEnvironment (environment : String → Option String) : Settings × List Warning :=
  Variable.all.foldl (applyVariable environment) ({}, [])

end QueryKernel.Settings
