import QueryKernel.Task.Group

/-!
Contract: the settings of an executor.

Owns: the settings with their defaults, the check that an executor can run with
them, and what follows from them: the backend, the arena width and the number
of devices.
-/

namespace QueryKernel

structure DispatchSettings where
  modernPool : Bool := false
  arenaWidth : Nat := 0
  backend : Option Task.Backend := none
deriving DecidableEq, Repr

namespace DispatchSettings

/-- The backend: the explicit one, or the arena if the modern pool is on. -/
def effectiveBackend (settings : DispatchSettings) : Task.Backend :=
  match settings.backend with
  | some backend => backend
  | none => if settings.modernPool then .workStealing else .futures

/-- The explicit arena width. Without one the machine decides. -/
def explicitWidth? (settings : DispatchSettings) : Option Nat :=
  if settings.arenaWidth = 0 then none else some settings.arenaWidth

end DispatchSettings

/-- The settings of an executor. -/
structure Settings where
  hoisting : Bool := true
  cpuOnly : Bool := false
  gpus : Nat := 1
  firstGpu : Nat := 0
  bumpAllocator : Bool := false
  traceCode : Bool := false
  cacheSize : Nat := 128
  dispatch : DispatchSettings := {}
deriving DecidableEq, Repr

namespace Settings

/-- Refuse settings that no executor can run with. The cache size is checked
first. -/
def validate (settings : Settings) : Except Error Unit :=
  if settings.cacheSize = 0 then
    .error (.settings .emptyCodeCache)
  else if !settings.cpuOnly && settings.gpus = 0 then
    .error (.settings .noGpus)
  else
    .ok ()

def deviceCount (settings : Settings) (gpu : Bool) : Nat :=
  if gpu && !settings.cpuOnly then max settings.gpus 1 else 1

def inspect (settings : Settings) : String :=
  Text.record "ExecutorConfig" [
    ("hoist_literals", Text.truth settings.hoisting),
    ("cpu_only", Text.truth settings.cpuOnly),
    ("num_gpus", toString settings.gpus),
    ("start_gpu", toString settings.firstGpu),
    ("enable_bump_allocator", Text.truth settings.bumpAllocator),
    ("jit_debug_ir", Text.truth settings.traceCode),
    ("code_cache_size", toString settings.cacheSize),
    ("thread_pool", Text.record "ThreadPoolConfig" [
      ("enable_modern_thread_pool", Text.truth settings.dispatch.modernPool),
      ("kernel_arena_width", toString settings.dispatch.arenaWidth),
      ("backend", Text.optional (settings.dispatch.backend.map Task.Backend.inspect))])]

end Settings

end QueryKernel
