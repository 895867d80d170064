import QueryKernel.Session.Immediate

/-!
Contract: constants that the code reads from the literal buffers.

A hoisted literal is decoded once, in the entry block, into globals, and every
use in the body reloads the globals. The watermark of the first device tells a
first use from a repeated one: registering a literal again leaves it in place.

Owns:
- registration of one constant per device at a common offset;
- the code that decodes a literal;
- the choice between hoisting and immediates.
-/

namespace QueryKernel.Session

open QueryKernel.Ir (Module Operand)
open QueryKernel.Sql (Constant DataType)

/-- Register the constants for the devices from `device` on. All must have the
type of the first constant and the offset of the first device. What was
registered before a failure stays. -/
def registerAll (encoding : StringEncoding) (type : DataType) (device : Nat)
    (agreed : Option Nat) (workspace : Workspace) :
    List Constant → Attempt Workspace (Option Nat)
  | [] => (.ok agreed, workspace)
  | constant :: rest =>
      if constant.type = type then
        match workspace.addLiteral constant encoding device with
        | (.error failure, workspace) => (.error failure, workspace)
        | (.ok offset, workspace) =>
            match agreed with
            | none => registerAll encoding type (device + 1) (some offset) workspace rest
            | some first =>
                if offset = first then
                  registerAll encoding type (device + 1) agreed workspace rest
                else
                  (.error (.breach (.offsetDisagreement device offset first)), workspace)
      else
        (.error (.breach (.hoistedTypeMismatch device constant.type type)), workspace)

def literalName (offset : Nat) : String := "literal_" ++ toString offset

/-- Take the header of the string at an offset apart, into the address and the length of
the string. -/
def locateString (code : Module) (offset : Nat) : Operand × Operand × Module :=
  let literals := Operand.argument 0
  let (slot, code) := code.offset .entry literals (.ofInt 64 (Int64.ofNat offset))
  let (header, code) := code.load .entry slot (.int 32)
  let (masked, code) :=
    code.and .entry header (.ofInt 32 (Int64.ofNat Literal.offsetMask.toNat))
  let (distance, code) :=
    code.shiftRight .entry masked (.ofInt 32 (Int64.ofNat Literal.offsetShift.toNat))
  let (length, code) :=
    code.and .entry header (.ofInt 32 (Int64.ofNat Literal.lengthMask.toNat))
  let (address, code) := code.offset .entry literals distance
  (address, length, code)

/-- Store the start, the address and the length of a string into new globals. -/
def storeString (code : Module) (name : String) (start address length : Operand) :
    Attempt Module Materialized :=
  match code.addGlobal ("global_" ++ name ++ "_start") start.type with
  | .error failure => (.error failure, code)
  | .ok (startGlobal, code) =>
      match code.addGlobal ("global_" ++ name ++ "_start_address") address.type with
      | .error failure => (.error failure, code)
      | .ok (addressGlobal, code) =>
          match code.addGlobal ("global_" ++ name ++ "_length") length.type with
          | .error failure => (.error failure, code)
          | .ok (lengthGlobal, code) =>
              let code := code.store .entry start startGlobal
              let code := code.store .entry address addressGlobal
              let code := code.store .entry length lengthGlobal
              (.ok (.string startGlobal addressGlobal lengthGlobal), code)

/-- Decode an unencoded string. Its start is always zero. -/
def decodeString (code : Module) (offset : Nat) : Attempt Module Materialized :=
  let name := literalName offset
  let (address, length, code) := locateString code offset
  let code := code.setName address (name ++ "_start_address")
  let code := code.setName length (name ++ "_length")
  storeString code name (.ofInt 64 0) address length

/-- The type of a scalar literal of a storage width. -/
def scalarType (type : DataType) (bits : Nat) : Ir.Ty :=
  match type.storage with
  | .float => .float
  | .double => .double
  | _ => .int bits

/-- Load a scalar through the pointer to its slot. A boolean without nulls becomes a truth
value. -/
def loadScalar (code : Module) (type : DataType) (bits : Nat) (slot : Operand) :
    Operand × Module :=
  let (loaded, code) := code.load .entry slot (scalarType type bits)
  if type.isBoolean && type.notNull && 1 < bits then
    code.greater .entry loaded (.ofInt bits 0)
  else
    (loaded, code)

def storeScalar (code : Module) (name : String) (value : Operand) :
    Attempt Module Materialized :=
  match code.addGlobal ("global_" ++ name) value.type with
  | .error failure => (.error failure, code)
  | .ok (global, code) => (.ok (.scalar global), code.store .entry value global)

/-- Decode a scalar, which has to consist of whole bytes. -/
def decodeScalar (code : Module) (type : DataType) (offset : Nat) : Attempt Module Materialized :=
  let name := literalName offset
  let (slot, code) := code.offset .entry (.argument 0) (.ofInt 64 (Int64.ofNat offset))
  match type.bitWidth with
  | .error failure => (.error failure, code)
  | .ok bits =>
      if bits % 8 = 0 then
        let (value, code) := loadScalar code type bits slot
        storeScalar (code.setName value name) name value
      else
        (.error (.breach (.literalOfPartialBytes bits)), code)

/-- The operands that reload a decoded literal. The literal must have been
decoded in the wanted shape. -/
def reload (session : Session) (offset : Nat) (unencoded : Bool) :
    Except Error (List Operand × Session) :=
  match session.table.get? offset, unencoded with
  | none, _ => .error (.breach (.neverMaterialized offset))
  | some (.string start address length), true =>
      let (start, code) := session.code.loadGlobal .body start
      let (address, code) := code.loadGlobal .body address
      let (length, code) := code.loadGlobal .body length
      .ok ([start, address, length], { session with code })
  | some (.scalar value), false =>
      let (value, code) := session.code.loadGlobal .body value
      .ok ([value], { session with code })
  | some _, _ => .error (.breach (.shapeMismatch offset))

/-- Decode a literal and record its globals. -/
def materialize (session : Session) (type : DataType) (offset : Nat) (unencoded : Bool) :
    Attempt Session Unit :=
  let (outcome, code) :=
    if unencoded then decodeString session.code offset
    else decodeScalar session.code type offset
  match outcome with
  | .error failure => (.error failure, { session with code })
  | .ok globals =>
      let (outcome, table) := session.table.insert offset globals
      (outcome, { session with code, table })

/-- The operands of a registered literal, which is decoded on its first use. -/
def use (session : Session) (type : DataType) (offset : Nat) (unencoded isNew : Bool) :
    Attempt Session (List Operand) :=
  let (outcome, session) :=
    if isNew then session.materialize type offset unencoded else (.ok (), session)
  match outcome with
  | .error failure => (.error failure, session)
  | .ok () =>
      match session.reload offset unencoded with
      | .error failure => (.error failure, session)
      | .ok (operands, session) => (.ok operands, session)

end QueryKernel.Session

namespace QueryKernel.Workspace

open QueryKernel.Ir (Operand)
open QueryKernel.Sql (Constant)

/-- Hoist a literal, given one constant per device. -/
def hoist (workspace : Workspace) (constants : List Constant) (encoding : StringEncoding) :
    Attempt Workspace (List Operand) :=
  match constants with
  | [] => (.error (.breach .nothingToHoist), workspace)
  | first :: _ =>
      match Session.registerAll encoding first.type 0 none workspace constants with
      | (.error failure, workspace) => (.error failure, workspace)
      | (.ok none, workspace) => (.error (.breach .nothingToHoist), workspace)
      | (.ok (some offset), registered) =>
          let unencoded := first.type.isString && encoding.encoding != .dictionary
          let isNew := (registered.session.watermark 0).toOption !=
            (workspace.session.watermark 0).toOption
          let (outcome, session) :=
            registered.session.use first.type offset unencoded isNew
          (outcome, { registered with session })

/-- The operands of a constant: hoisted for every device, or as immediates. -/
def generate (workspace : Workspace) (constant : Constant) (encoding : StringEncoding)
    (hoisting : Bool) : Attempt Workspace (List Operand) :=
  if hoisting then
    workspace.hoist (List.replicate workspace.session.devices constant) encoding
  else
    match Session.immediate workspace constant encoding with
    | .error failure => (.error failure, workspace)
    | .ok (operands, workspace) => (.ok operands, workspace)

end QueryKernel.Workspace
