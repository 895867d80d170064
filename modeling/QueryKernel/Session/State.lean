import QueryKernel.Dictionary.Registry
import QueryKernel.Ir.Module
import QueryKernel.Literal.Buffer
import QueryKernel.Session.Materialized

/-!
Contract: the state of generating one kernel.

A session owns the code being recorded, one literal buffer per device, and the
table of literals that the code has already decoded. A workspace adds the
dictionaries, which sessions share and can only extend.

Owns:
- sessions and the queries on them;
- the literal that a constant becomes;
- registration of a literal for one device.
-/

namespace QueryKernel

open QueryKernel.Sql (Constant Encoding)

/-- The state of generating one kernel. -/
structure Session where
  code : Ir.Module
  buffers : List Literal.Buffer
  table : Session.MaterializedTable := {}
deriving DecidableEq, Repr

/-- A session together with the dictionaries it encodes strings by. -/
structure Workspace where
  session : Session
  registry : Dictionary.Registry
deriving DecidableEq, Repr

namespace Session

/-- The number of literal buffers whose descriptors, of 32 bytes each, still fit
the addresses of a 64-bit machine. -/
def maximalDevices : Nat := 2 ^ 58 - 1

def start (name : String) (devices : Nat) : Except Error Session :=
  if devices = 0 then
    .error (.breach .noDevices)
  else if maximalDevices < devices then
    .error .overrun
  else
    .ok { code := { name }, buffers := List.replicate devices {} }

def devices (session : Session) : Nat := session.buffers.length

def buffer (session : Session) (device : Nat) : Except Error Literal.Buffer :=
  match session.buffers[device]? with
  | some buffer => .ok buffer
  | none => .error (.breach (.noLiteralBuffer device))

/-- The next free byte of a device's literal region. -/
def watermark (session : Session) (device : Nat) : Except Error Nat :=
  (session.buffer device).map Literal.Buffer.watermark

def serialize (session : Session) : Except Error (List (Array UInt8)) :=
  session.buffers.mapM Literal.Buffer.serialize

end Session

/-- How strings are encoded: as their bytes, or against a dictionary. -/
structure StringEncoding where
  encoding : Encoding := .plain
  dictionary : Int32 := 0
deriving DecidableEq, Repr

/-- The literal of a string constant. The dictionary is looked up before the
payload is read, and a null needs no dictionary. -/
def stringLiteral (constant : Constant) (encoding : StringEncoding)
    (registry : Dictionary.Registry) : Except Error (Literal × Dictionary.Registry) := do
  match encoding.encoding with
  | .dictionary =>
      if constant.isNull then
        return (.int32 (registry.nullId encoding.dictionary), registry)
      else
        let handle ← registry.find encoding.dictionary
        let value ← constant.stringValue
        let (id, registry) := registry.idOf handle value
        return (.int32 id, registry)
  | .plain =>
      if constant.isNull then
        return (.text "", registry)
      else
        let value ← constant.stringValue
        if maximalStringField < value.utf8ByteSize then
          .error (.bound (.literalLength value.utf8ByteSize))
        else
          return (.text value, registry)

/-- The literal of a boolean constant. A nullable boolean needs a third
value. -/
def booleanLiteral (constant : Constant) : Except Error Literal := do
  if constant.isNull then
    return .int8 (← constant.type.nullInteger).toInt8
  else
    let value ← constant.boolValue
    return if constant.type.notNull then .bool value else .int8 (if value then 1 else 0)

/-- The literal that a constant becomes. A new string enters its dictionary. -/
def literalOf (constant : Constant) (encoding : StringEncoding)
    (registry : Dictionary.Registry) : Except Error (Literal × Dictionary.Registry) := do
  match constant.type.storage with
  | .boolean => return (← booleanLiteral constant, registry)
  | .smallInt => return (.int16 (← constant.storedInteger).toInt16, registry)
  | .int => return (.int32 (← constant.storedInteger).toInt32, registry)
  | .bigInt | .time | .timestamp | .date | .intervalDayTime | .intervalYearMonth =>
      return (.int64 (← constant.storedInteger), registry)
  | .float =>
      return (.float (← if constant.isNull then .ok Sql.nullFloat else constant.floatValue),
        registry)
  | .double =>
      return (.double (← if constant.isNull then .ok Sql.nullDouble else constant.doubleValue),
        registry)
  | .char | .varchar | .text => stringLiteral constant encoding registry
  | kind => .error (.breach (.unhoistable kind))

namespace Workspace

/-- The offset of a constant's literal in a device's buffer, registering it if
it is new. A string can enter its dictionary although the device is missing. -/
def addLiteral (workspace : Workspace) (constant : Constant) (encoding : StringEncoding)
    (device : Nat) : Attempt Workspace Nat :=
  match literalOf constant encoding workspace.registry with
  | .error failure => (.error failure, workspace)
  | .ok (literal, registry) =>
      match workspace.session.buffer device with
      | .error failure => (.error failure, { workspace with registry })
      | .ok buffer =>
          let (offset, buffer) := buffer.add literal
          let session := workspace.session
          (.ok offset,
            { session := { session with buffers := session.buffers.set device buffer }
              registry })

end Workspace

end QueryKernel
