import QueryKernel.Session.State

/-!
Contract: constants as immediates of the code.

Owns: the operands of a constant that is embedded in the code. One operand
stands for a scalar or a dictionary id; start, address and length stand for an
unencoded string.
-/

namespace QueryKernel.Session

open QueryKernel.Ir (Operand)
open QueryKernel.Sql (Constant)

/-- The operand of a boolean constant. Without nulls one bit is enough. -/
def immediateBoolean (constant : Constant) : Except Error Operand := do
  if constant.isNull then
    return .ofInt 8 (← constant.type.nullInteger)
  else
    let value ← constant.boolValue
    return .ofInt (if constant.type.notNull then 1 else 8) (if value then 1 else 0)

def immediateInteger (constant : Constant) : Except Error Operand := do
  let bits ← constant.type.bitWidth
  return .ofInt bits (← constant.storedInteger)

/-- The operands of a string constant. The payload is read before the
dictionary is looked up. -/
def immediateString (workspace : Workspace) (constant : Constant) (encoding : StringEncoding) :
    Except Error (List Operand × Workspace) := do
  match encoding.encoding with
  | .dictionary =>
      if constant.isNull then
        let id := workspace.registry.nullId encoding.dictionary
        return ([.ofInt 32 id.toInt64], workspace)
      else
        let value ← constant.stringValue
        let handle ← workspace.registry.find encoding.dictionary
        let (id, registry) := workspace.registry.idOf handle value
        return ([.ofInt 32 id.toInt64], { workspace with registry })
  | .plain =>
      if constant.isNull then
        return ([.ofInt 64 0, .null, .ofInt 32 0], workspace)
      else
        let value ← constant.stringValue
        if maximalStringField < value.utf8ByteSize then
          .error (.bound (.constantLength value.utf8ByteSize))
        else
          let (address, code) := workspace.session.code.addString value
          return ([.ofInt 64 0, address, .ofInt 32 (Int64.ofNat value.utf8ByteSize)],
            { workspace with session := { workspace.session with code } })

/-- The operands of a constant as immediates. A failure changes nothing. -/
def immediate (workspace : Workspace) (constant : Constant) (encoding : StringEncoding) :
    Except Error (List Operand × Workspace) := do
  match constant.type.storage with
  | .boolean => return ([← immediateBoolean constant], workspace)
  | .smallInt | .int | .bigInt | .time | .timestamp | .date | .intervalDayTime
  | .intervalYearMonth => return ([← immediateInteger constant], workspace)
  | .float =>
      return ([.float (← if constant.isNull then .ok Sql.nullFloat else constant.floatValue)],
        workspace)
  | .double =>
      return ([.double (← if constant.isNull then .ok Sql.nullDouble else constant.doubleValue)],
        workspace)
  | .char | .varchar | .text => immediateString workspace constant encoding
  | kind => .error (.breach (.unsupportedConstant kind))

end QueryKernel.Session
