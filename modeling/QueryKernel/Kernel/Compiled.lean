import QueryKernel.Ir.Run
import QueryKernel.Kernel.Options

/-!
Contract: a compiled kernel.

Owns: the code with one literal image per device, its runs, and its summary.
-/

namespace QueryKernel

open QueryKernel.Ir (Operand RuntimeValue)

/-- What one device computes: the values of every constant, in the order of the
constants. -/
abbrev KernelOutput : Type := List (List RuntimeValue)

/-- Code that is ready to run on a number of devices. -/
structure Kernel where
  key : UInt64
  options : CompileOptions
  bumpAllocator : Bool
  code : Ir.Module
  outputs : List (List Operand)
  images : List (Array UInt8)
  deviceIds : List Nat
deriving DecidableEq, Repr

namespace Kernel

def devices (kernel : Kernel) : Nat := kernel.images.length

def image (kernel : Kernel) (device : Nat) : Except Error (Array UInt8) :=
  match kernel.images[device]? with
  | some image => .ok image
  | none => .error (.dispatch (.noDevice device))

def run (kernel : Kernel) (device : Nat) : Except Error KernelOutput := do
  let image ← kernel.image device
  kernel.code.evaluateAll image kernel.outputs

def explain (kernel : Kernel) : Document :=
  .table [
    ("module", .text kernel.code.name),
    ("cache_key", .text (Text.hexPadded 16 kernel.key.toNat)),
    ("device_type", Documented.write kernel.options.device),
    ("hoist_literals", .bool kernel.options.hoisting),
    ("use_bump_allocator", .bool kernel.bumpAllocator),
    ("devices", .int kernel.devices),
    ("device_ids", .list (kernel.deviceIds.map fun (id : Nat) => .int id)),
    ("constants", .int kernel.outputs.length),
    ("literal_bytes", .list (kernel.images.map fun image => .int image.size)),
    ("globals", .list (kernel.code.globals.toList.map fun global => .text global.name)),
    ("entry_instructions", .int (kernel.code.linesOf .entry).length),
    ("body_instructions", .int (kernel.code.linesOf .body).length)]

end Kernel

end QueryKernel
