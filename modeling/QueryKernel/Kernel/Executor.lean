import QueryKernel.Kernel.Cache
import QueryKernel.Plan.Description
import QueryKernel.Session.Hoist
import QueryKernel.Settings.Basic

/-!
Contract: compiling query steps to kernels and running them on all devices.

Owns:
- the executor, with its settings, dictionaries and code cache;
- the options that a step is really compiled with, and the cache key;
- compilation, and dispatch to the devices.
-/

namespace QueryKernel

open QueryKernel.Plan (QueryStep)
open QueryKernel.Sql (Constant)
open QueryKernel.Ir (Operand)

/-- Where kernels run. The arena has a width of its own only if the settings give
one. -/
structure Dispatcher where
  backend : Task.Backend
  arenaWidth : Option Nat
deriving DecidableEq, Repr

namespace Dispatcher

def ofSettings (settings : DispatchSettings) : Dispatcher where
  backend := settings.effectiveBackend
  arenaWidth :=
    match settings.effectiveBackend with
    | .workStealing => settings.explicitWidth?
    | .futures | .inline => none

def group {α : Type} (dispatcher : Dispatcher) : Task.Group α := { backend := dispatcher.backend }

def inspect (dispatcher : Dispatcher) : String :=
  Text.record "KernelDispatcher" [
    ("backend", dispatcher.backend.inspect),
    ("arena_width", Text.optional (dispatcher.arenaWidth.map toString))]

end Dispatcher

/-- The state of an executor. `compiled` counts the kernels made so far. -/
structure Executor where
  settings : Settings
  registry : Dictionary.Registry
  cache : CodeCache
  compiled : Nat := 0
deriving DecidableEq, Repr

namespace Executor

def start (settings : Settings) (registry : Dictionary.Registry) : Except Error Executor := do
  settings.validate
  return { settings, registry, cache := { capacity := settings.cacheSize } }

def dispatcher (executor : Executor) : Dispatcher :=
  .ofSettings executor.settings.dispatch

/-- The device class that a step is compiled for: the wanted one, unless the
settings or a hint of the step ask for the CPU. -/
def effectiveDevice (settings : Settings) (step : QueryStep) (wanted : Device) : Device :=
  if settings.cpuOnly || step.hints.cpuMode then .cpu else wanted

/-- The options that the settings give a step on a device class. -/
def defaultOptions (executor : Executor) (step : QueryStep) (wanted : Device) : CompileOptions where
  device := effectiveDevice executor.settings step wanted
  hoisting := executor.settings.hoisting

/-- What the code cache knows a compilation by. -/
def keyDescription (step : QueryStep) (options : CompileOptions) : String :=
  step.cacheDescription ++ "\n\tDevice: " ++ options.device.render ++ "\n\tHoist: " ++
    Text.truth options.hoisting

def cacheKey [Hash.Digest] (step : QueryStep) (options : CompileOptions) : UInt64 :=
  Hash.Digest.text (keyDescription step options)

/-- The operands of constants, each encoded as its own type asks. -/
def generateAll (hoisting : Bool) (workspace : Workspace) :
    List Constant → Attempt Workspace (List (List Operand))
  | [] => (.ok [], workspace)
  | constant :: rest =>
      match workspace.generate constant ⟨constant.type.encoding, constant.type.parameter⟩
          hoisting with
      | (.error failure, workspace) => (.error failure, workspace)
      | (.ok operands, workspace) =>
          match generateAll hoisting workspace rest with
          | (.error failure, workspace) => (.error failure, workspace)
          | (.ok others, workspace) => (.ok (operands :: others), workspace)

/-- The numbers of devices from `first` on. The end of the range has to fit a
64-bit word. -/
def deviceRange (first devices : Nat) : Except Error (List Nat) :=
  if first + devices < 2 ^ 64 then .ok ((List.range devices).map (first + ·))
  else .error .overrun

/-- Generate and package the kernel of a step. Strings that entered a dictionary
before a failure stay in it. -/
def build [Hash.Digest] (settings : Settings) (registry : Dictionary.Registry)
    (step : QueryStep) (options : CompileOptions) : Attempt Dictionary.Registry Kernel :=
  let key := cacheKey step options
  let devices := settings.deviceCount (options.device == .gpu)
  match Session.start ("kernel_" ++ Text.hexPadded 16 key.toNat) devices with
  | .error failure => (.error failure, registry)
  | .ok session =>
      match generateAll options.hoisting ⟨session, registry⟩ step.constants with
      | (.error failure, workspace) => (.error failure, workspace.registry)
      | (.ok outputs, workspace) =>
          match workspace.session.serialize with
          | .error failure => (.error failure, workspace.registry)
          | .ok images =>
              let first := if options.device = .gpu then settings.firstGpu else 0
              match deviceRange first devices with
              | .error failure => (.error failure, workspace.registry)
              | .ok deviceIds =>
                  (.ok {
                    key, options, outputs, images, deviceIds
                    bumpAllocator := options.device == .gpu &&
                      (step.bumpAllocator || settings.bumpAllocator)
                    code := workspace.session.code },
                    workspace.registry)

/-- Compile a step, or find its kernel in the cache. Only a success reaches the
cache. -/
def compile [Hash.Digest] (executor : Executor) (step : QueryStep)
    (requested : CompileOptions) : Attempt Executor Issued :=
  let options :=
    { requested with device := effectiveDevice executor.settings step requested.device }
  match executor.cache.get (cacheKey step options) with
  | some (issued, cache) => (.ok issued, { executor with cache })
  | none =>
      match build executor.settings executor.registry step options with
      | (.error failure, registry) => (.error failure, { executor with registry })
      | (.ok kernel, registry) =>
          let (issued, cache) := executor.cache.insert ⟨executor.compiled, kernel⟩
          (.ok issued, { executor with registry, cache, compiled := executor.compiled + 1 })

/-- The task group that runs a kernel once per device. -/
def runs (dispatcher : Dispatcher) (kernel : Kernel) : Task.Group (Except Error KernelOutput) :=
  (List.range kernel.devices).foldl (fun group device => group.spawn (.value (kernel.run device)))
    dispatcher.group

/-- Run a kernel on all of its devices. Results are in device order, and so is
the choice between failures. -/
def dispatch (executor : Executor) (kernel : Kernel) : Except Error (List KernelOutput) :=
  let group := runs executor.dispatcher kernel
  match group.join group.spawnOrder with
  | .values outputs => outputs.mapM id
  | .raised _ => .error (.dispatch .droppedTask)
  | .failed failure => .error failure

/-- Compile a step with the options of the settings and run it. -/
def execute [Hash.Digest] (executor : Executor) (step : QueryStep) (wanted : Device) :
    Attempt Executor (List KernelOutput) :=
  match executor.compile step (executor.defaultOptions step wanted) with
  | (.error failure, executor) => (.error failure, executor)
  | (.ok issued, executor) => (executor.dispatch issued.kernel, executor)

def clearCache (executor : Executor) : Executor :=
  { executor with cache := executor.cache.clear }

def inspect (executor : Executor) : String :=
  Text.record "Executor" [
    ("config", executor.settings.inspect),
    ("dispatcher", executor.dispatcher.inspect),
    ("cached_kernels", toString executor.cache.size)]

end Executor

end QueryKernel
