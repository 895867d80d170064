import QueryKernel.Ir.Module

/-!
Contract: running kernel code against a literal image.

A run executes the entry block and then the body block, each in order, and then
reads the outputs off the results. The first failure ends it.

Owns:
- reading bytes behind an address;
- the frame of a run and the effect of one line;
- the whole run.
-/

namespace QueryKernel.Ir

open QueryKernel.Number

/-- Results of the lines and contents of the globals during a run. -/
structure Frame where
  results : Array (Option RuntimeValue)
  globals : Array (Option RuntimeValue)
deriving DecidableEq, Repr

/-- The bytes of a slice, which must lie inside. -/
def slice (bytes : Array UInt8) (offset length : Nat) : Except Error (List UInt8) :=
  if offset + length ≤ bytes.size then
    .ok (bytes.extract offset (offset + length)).toList
  else
    .error (.breach (.readOutOfBounds length offset))

/-- An integer result of a load. Only whole words can be loaded. -/
def loadedInteger (bits : Nat) (bytes : List UInt8) : Except Error RuntimeValue :=
  if bits = 8 ∨ bits = 16 ∨ bits = 32 ∨ bits = 64 then
    .ok (.int bits (signExtend bits (Int64.ofNat (ofLittleEndian bytes))))
  else
    .error (.breach (.unsupportedLoad (.int bits)))

namespace Module

/-- The bytes behind an address. Nothing can be read through null but nothing. -/
def readBytes (code : Module) (literals : Array UInt8) (address : Address) (length : Nat) :
    Except Error (List UInt8) :=
  match address with
  | .null => if length = 0 then .ok [] else .error (.breach .nullRead)
  | .literals offset => slice literals offset length
  | .poolString index offset =>
      match code.pool[index]? with
      | some value => slice value.toUTF8.data offset length
      | none => .error (.breach (.noPoolString index))

def initialFrame (code : Module) : Frame where
  results := Array.replicate code.lines.size none
  globals := Array.replicate code.globals.size none

def loadValue (code : Module) (literals : Array UInt8) (address : Address) :
    Ty → Except Error RuntimeValue
  | .int bits =>
      if bits % 8 = 0 then do
        loadedInteger bits (← code.readBytes literals address (bits / 8))
      else
        .error (.breach (.loadOfPartialBytes bits))
  | .float => do
      let bytes ← code.readBytes literals address 4
      return .float ⟨UInt32.ofNat (ofLittleEndian bytes)⟩
  | .double => do
      let bytes ← code.readBytes literals address 8
      return .double ⟨UInt64.ofNat (ofLittleEndian bytes)⟩
  | .pointer => .error (.breach .loadOfPointer)

end Module

namespace Frame

def resolve (frame : Frame) : Operand → Except Error RuntimeValue
  | .int bits value => .ok (.int bits value)
  | .float value => .ok (.float value)
  | .double value => .ok (.double value)
  | .null => .ok (.pointer .null)
  | .poolString index => .ok (.pointer (.poolString index 0))
  | .argument 0 => .ok (.pointer (.literals 0))
  | .argument index => .error (.breach (.unboundArgument index))
  | .result line _ =>
      match frame.results[line]? with
      | some (some value) => .ok value
      | _ => .error (.breach (.usedBeforeExecuted line))

def resolveInteger (frame : Frame) (operand : Operand) : Except Error (Nat × Int64) := do
  match ← frame.resolve operand with
  | .int bits value => return (bits, value)
  | other => .error (.breach (.integerExpected other))

/-- An offset after a move. Offsets are words of 64 bits, and wrap around. -/
def movedOffset (offset amount : Nat) : Nat := (offset + amount) % 2 ^ 64

/-- Move an address forward. Null cannot be moved. -/
def moveAddress (value : RuntimeValue) (amount : Nat) : Except Error RuntimeValue :=
  match value with
  | .pointer (.literals offset) => .ok (.pointer (.literals (movedOffset offset amount)))
  | .pointer (.poolString index offset) =>
      .ok (.pointer (.poolString index (movedOffset offset amount)))
  | other => .error (.breach (.offsetOfNonAddress other))

/-- The value an instruction computes. A store computes none. -/
def compute (frame : Frame) (code : Module) (literals : Array UInt8) :
    Instruction → Except Error (Option RuntimeValue)
  | .offset base amount => do
      let (_, amount) ← frame.resolveInteger amount
      if amount < 0 then
        .error (.breach (.negativeOffset amount))
      else
        return some (← moveAddress (← frame.resolve base) amount.toInt.toNat)
  | .load address type => do
      match (← frame.resolve address).address? with
      | some address => return some (← code.loadValue literals address type)
      | none => .error (.breach .loadThroughNonPointer)
  | .and left right => do
      let (bits, left) ← frame.resolveInteger left
      let (_, right) ← frame.resolveInteger right
      return some (.int bits (wordAnd bits left right))
  | .shiftRight left right => do
      let (bits, left) ← frame.resolveInteger left
      let (_, right) ← frame.resolveInteger right
      return some (.int bits (wordShiftRight bits left right))
  | .greater left right => do
      let (_, left) ← frame.resolveInteger left
      let (_, right) ← frame.resolveInteger right
      return some (.int 1 (wordGreater left right))
  | .store _ _ => return none
  | .loadGlobal global => do
      match frame.globals[global]? with
      | some (some value) => return some value
      | _ => .error (.breach (.readBeforeStored (code.globalName global)))

/-- Execute one line: a store changes a global, every other instruction the
result of its line. -/
def step (frame : Frame) (code : Module) (literals : Array UInt8) (line : Nat)
    (instruction : Instruction) : Except Error Frame :=
  match instruction with
  | .store value global => do
      let value ← frame.resolve value
      return { frame with globals := frame.globals.setIfInBounds global (some value) }
  | _ => do
      let value ← frame.compute code literals instruction
      return { frame with results := frame.results.setIfInBounds line value }

end Frame

namespace Module

def schedule (code : Module) : List Nat :=
  code.linesOf .entry ++ code.linesOf .body

def execute (code : Module) (literals : Array UInt8) : Except Error Frame :=
  code.schedule.foldlM
    (fun frame line =>
      match code.lines[line]? with
      | some recorded => frame.step code literals line recorded.instruction
      | none => .ok frame)
    code.initialFrame

def evaluate (code : Module) (literals : Array UInt8) (outputs : List Operand) :
    Except Error (List RuntimeValue) := do
  let frame ← code.execute literals
  outputs.mapM frame.resolve

/-- Run the code and read several lists of outputs, as if it ran once for each of
them. Since every run is the same, one is enough; without a list there is none. -/
def evaluateAll (code : Module) (literals : Array UInt8) :
    List (List Operand) → Except Error (List (List RuntimeValue))
  | [] => .ok []
  | outputs => do
      let frame ← code.execute literals
      outputs.mapM fun operands => operands.mapM frame.resolve

end Module

end QueryKernel.Ir
