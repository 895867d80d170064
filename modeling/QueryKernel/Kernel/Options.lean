import QueryKernel.Document.Basic

/-!
Contract: the options of one compilation.

Owns: device classes, options, and their document form.
-/

namespace QueryKernel

/-- The class of device that a kernel runs on. -/
inductive Device where
  | cpu
  | gpu
deriving DecidableEq, Repr

def Device.render : Device → String
  | .cpu => "CPU"
  | .gpu => "GPU"

instance : Enumeration Device where
  members := [.cpu, .gpu]
  label
    | .cpu => "cpu"
    | .gpu => "gpu"

structure CompileOptions where
  device : Device := .cpu
  hoisting : Bool := true
deriving DecidableEq, Repr

instance : Documented CompileOptions where
  write options := .table [
    ("device_type", Documented.write options.device),
    ("hoist_literals", .bool options.hoisting)]
  read dialect document := do
    let fields ← document.fields? dialect ["device_type", "hoist_literals"]
    return {
      device := ← Document.required fields "device_type" (Documented.read dialect)
      hoisting := ← Document.required fields "hoist_literals" Document.bool? }

end QueryKernel
