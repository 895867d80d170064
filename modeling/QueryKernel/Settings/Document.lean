import QueryKernel.Document.Toml
import QueryKernel.Settings.Basic

/-!
Contract: settings in documents and files.

Every field may be missing and takes its default then. Settings that come from
a text are validated; settings that come from a document are not.

Owns: the fields of the document form, and loading from TOML texts and files.
-/

namespace QueryKernel

open Document (withDefault)

instance : Enumeration Task.Backend where
  members := [.futures, .workStealing, .inline]
  label := Task.Backend.render

instance : Documented DispatchSettings where
  write settings := .table [
    ("enable_modern_thread_pool", .bool settings.modernPool),
    ("kernel_arena_width", .int settings.arenaWidth),
    ("backend",
      match settings.backend with
      | some backend => Documented.write backend
      | none => .null)]
  read dialect document := do
    let fields ← document.fields? dialect
      ["enable_modern_thread_pool", "kernel_arena_width", "backend"]
    return {
      modernPool := ← withDefault fields "enable_modern_thread_pool" false Document.bool?
      arenaWidth := ← withDefault fields "kernel_arena_width" 0 Document.count?
      backend := ← withDefault fields "backend" none
        (Document.optional? (Documented.read dialect)) }

instance : Documented Settings where
  write settings := .table [
    ("hoist_literals", .bool settings.hoisting),
    ("cpu_only", .bool settings.cpuOnly),
    ("num_gpus", .int settings.gpus),
    ("start_gpu", .int settings.firstGpu),
    ("enable_bump_allocator", .bool settings.bumpAllocator),
    ("jit_debug_ir", .bool settings.traceCode),
    ("code_cache_size", .int settings.cacheSize),
    ("thread_pool", Documented.write settings.dispatch)]
  read dialect document := do
    let fields ← document.fields? dialect
      ["hoist_literals", "cpu_only", "num_gpus", "start_gpu", "enable_bump_allocator",
        "jit_debug_ir", "code_cache_size", "thread_pool"]
    return {
      hoisting := ← withDefault fields "hoist_literals" true Document.bool?
      cpuOnly := ← withDefault fields "cpu_only" false Document.bool?
      gpus := ← withDefault fields "num_gpus" 1 Document.count?
      firstGpu := ← withDefault fields "start_gpu" 0 Document.count?
      bumpAllocator := ← withDefault fields "enable_bump_allocator" false Document.bool?
      traceCode := ← withDefault fields "jit_debug_ir" false Document.bool?
      cacheSize := ← withDefault fields "code_cache_size" 128 Document.count?
      dispatch := ← withDefault fields "thread_pool" {} (Documented.read dialect) }

namespace Settings

def ofToml (text : String) : Except Error Settings := do
  match (Document.ofToml? text).bind (Documented.read .withoutNull) with
  | some settings =>
      settings.validate
      return settings
  | none => .error (.settings .malformedDocument)

/-- The settings of a file, given its bytes if it exists. The bytes must be
UTF-8. -/
def ofFile (contents : Option ByteArray) : Except Error Settings :=
  match contents.bind String.fromUTF8? with
  | some text => ofToml text
  | none => .error .unreadableFile

end Settings

end QueryKernel
