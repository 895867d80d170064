import QueryKernel.Error

/-!
Contract: the code of one kernel, as it is recorded.

A module holds one function of two blocks. The entry block runs once before the
rows and stores decoded literals into globals; the body block runs for every
row and reads them. All instructions form one list of lines, each line knowing
its block, so that a line number names an instruction of either block.

Owns:
- instructions, lines, globals and the string pool;
- the operations that append to them.

Does not own: execution and listings.
-/

namespace QueryKernel.Ir

inductive Block where
  | entry
  | body
deriving DecidableEq, Repr

/-- Instructions. Globals are known by their position. -/
inductive Instruction where
  | offset (base amount : Operand)
  | load (address : Operand) (type : Ty)
  | and (left right : Operand)
  | shiftRight (left right : Operand)
  | greater (left right : Operand)
  | store (value : Operand) (global : Nat)
  | loadGlobal (global : Nat)
deriving DecidableEq, Repr

/-- A recorded instruction. Stores have no result. -/
structure Line where
  block : Block
  instruction : Instruction
  result : Option Ty
  name : Option String := none
deriving DecidableEq, Repr

/-- Named storage that both blocks share. -/
structure Global where
  name : String
  type : Ty
deriving DecidableEq, Repr

/-- The name of the argument that points at the literals. -/
def literalsArgument : String := "literals"

structure Module where
  name : String
  globals : Array Global := #[]
  pool : Array String := #[]
  lines : Array Line := #[]
deriving DecidableEq, Repr

namespace Module

def functionName (code : Module) : String := code.name ++ "_query_func"

def argument? (name : String) : Option Operand :=
  if name = literalsArgument then some (.argument 0) else none

/-- A pointer to the bytes of a string in the pool. Equal strings share one
entry. -/
def addString (code : Module) (value : String) : Operand × Module :=
  match code.pool.findIdx? (· == value) with
  | some index => (.poolString index, code)
  | none => (.poolString code.pool.size, { code with pool := code.pool.push value })

def global? (code : Module) (name : String) : Option Nat :=
  code.globals.findIdx? (·.name == name)

/-- Define a global. Its name must be new. -/
def addGlobal (code : Module) (name : String) (type : Ty) : Except Error (Nat × Module) :=
  match code.global? name with
  | some _ => .error (.breach (.globalDefinedTwice name))
  | none => .ok (code.globals.size, { code with globals := code.globals.push ⟨name, type⟩ })

/-- Append a line, and refer to its result. -/
def push (code : Module) (block : Block) (instruction : Instruction) (result : Ty) :
    Operand × Module :=
  (.result code.lines.size result,
    { code with lines := code.lines.push { block, instruction, result := some result } })

def offset (code : Module) (block : Block) (base amount : Operand) : Operand × Module :=
  code.push block (.offset base amount) .pointer

def load (code : Module) (block : Block) (address : Operand) (type : Ty) : Operand × Module :=
  code.push block (.load address type) type

def and (code : Module) (block : Block) (left right : Operand) : Operand × Module :=
  code.push block (.and left right) left.type

def shiftRight (code : Module) (block : Block) (left right : Operand) : Operand × Module :=
  code.push block (.shiftRight left right) left.type

def greater (code : Module) (block : Block) (left right : Operand) : Operand × Module :=
  code.push block (.greater left right) (.int 1)

def store (code : Module) (block : Block) (value : Operand) (global : Nat) : Module :=
  { code with
    lines := code.lines.push { block, instruction := .store value global, result := none } }

/-- The type of a global. A global that does not exist has the empty integer
type. -/
def globalType (code : Module) (global : Nat) : Ty :=
  (code.globals[global]?.map Global.type).getD (.int 0)

def globalName (code : Module) (global : Nat) : String :=
  (code.globals[global]?.map Global.name).getD ""

def loadGlobal (code : Module) (block : Block) (global : Nat) : Operand × Module :=
  code.push block (.loadGlobal global) (code.globalType global)

/-- Name the result of an instruction. Other operands carry no name. -/
def setName (code : Module) (value : Operand) (name : String) : Module :=
  match value.line? with
  | some line =>
      { code with lines := code.lines.modify line fun recorded => { recorded with name } }
  | none => code

def nameOf? (code : Module) (value : Operand) : Option String := do
  (← code.lines[← value.line?]?).name

def definition? (code : Module) (value : Operand) : Option Instruction := do
  return (← code.lines[← value.line?]?).instruction

def linesOf (code : Module) (block : Block) : List Nat :=
  (List.range code.lines.size).filter fun line =>
    (code.lines[line]?.map Line.block) == some block

def instructions (code : Module) (block : Block) : List Instruction :=
  (code.lines.toList.filter fun line => line.block == block).map Line.instruction

end Module

end QueryKernel.Ir
