import QueryKernel.Number.Real
import QueryKernel.Number.Word
import QueryKernel.Text.Quoted

/-!
Contract: the values of kernel code, before and while it runs.

Owns:
- the types of code values;
- operands: immediates, pool strings, the literals argument and results of
  earlier instructions;
- the values a running kernel computes, with addresses as region and offset;
- the spelling of all of these in listings and messages.
-/

namespace QueryKernel.Ir

open QueryKernel.Number (Real32 Real64 signExtend)

/-- Types of code values. Every pointer points at bytes. -/
inductive Ty where
  | int (bits : Nat)
  | float
  | double
  | pointer
deriving DecidableEq, Repr

inductive Operand where
  | int (bits : Nat) (value : Int64)
  | float (value : Real32)
  | double (value : Real64)
  | null
  | poolString (index : Nat)
  | argument (index : Nat)
  | result (line : Nat) (type : Ty)
deriving DecidableEq, Repr

/-- Where an address points. -/
inductive Address where
  | null
  | literals (offset : Nat)
  | poolString (index offset : Nat)
deriving DecidableEq, Repr

/-- A value that a running kernel computes. -/
inductive RuntimeValue where
  | int (bits : Nat) (value : Int64)
  | float (value : Real32)
  | double (value : Real64)
  | pointer (address : Address)
deriving DecidableEq, Repr

namespace Ty

def render : Ty → String
  | .int bits => "i" ++ toString bits
  | .float => "float"
  | .double => "double"
  | .pointer => "i8*"

def inspect : Ty → String
  | .int bits => Text.tagged "Int" (toString bits)
  | .float => "Float"
  | .double => "Double"
  | .pointer => "Ptr"

end Ty

namespace Operand

/-- The integer immediate of a width, sign-extended. -/
def ofInt (bits : Nat) (value : Int64) : Operand := .int bits (signExtend bits value)

def type : Operand → Ty
  | .int bits _ => .int bits
  | .float _ => .float
  | .double _ => .double
  | .null | .poolString _ | .argument _ => .pointer
  | .result _ type => type

def isConstant : Operand → Bool
  | .argument _ | .result _ _ => false
  | _ => true

def constantInt? : Operand → Option Int64
  | .int _ value => some value
  | _ => none

def line? : Operand → Option Nat
  | .result line _ => some line
  | _ => none

def sameValue : Operand → Operand → Bool
  | .float left, .float right => left.sameValue right
  | .double left, .double right => left.sameValue right
  | left, right => left == right

def render : Operand → String
  | .int bits value => "i" ++ toString bits ++ " " ++ toString value.toInt
  | .float value => "float " ++ value.text
  | .double value => "double " ++ value.text
  | .null => "i8* null"
  | .poolString index => "i8* @.str." ++ toString index
  | .argument index => "i8* %arg" ++ toString index
  | .result line type => type.render ++ " %" ++ toString line

def inspect : Operand → String
  | .int bits value =>
      Text.record "ConstInt" [("bits", toString bits), ("value", toString value.toInt)]
  | .float value => Text.tagged "ConstFloat" value.markedText
  | .double value => Text.tagged "ConstDouble" value.markedText
  | .null => "NullPtr"
  | .poolString index => Text.tagged "StringConstant" (toString index)
  | .argument index => Text.tagged "Arg" (toString index)
  | .result line type =>
      Text.record "Inst"
        [("id", Text.tagged "InstId" (toString line)), ("ty", type.inspect)]

end Operand

def Address.inspect : Address → String
  | .null => "Null"
  | .literals offset => Text.tagged "Literals" (toString offset)
  | .poolString index offset =>
      Text.record "StringConstant" [("index", toString index), ("offset", toString offset)]

namespace RuntimeValue

def int? : RuntimeValue → Option Int64
  | .int _ value => some value
  | _ => none

def address? : RuntimeValue → Option Address
  | .pointer address => some address
  | _ => none

def type : RuntimeValue → Ty
  | .int bits _ => .int bits
  | .float _ => .float
  | .double _ => .double
  | .pointer _ => .pointer

def inspect : RuntimeValue → String
  | .int bits value =>
      Text.record "Int" [("bits", toString bits), ("value", toString value.toInt)]
  | .float value => Text.tagged "Float" value.markedText
  | .double value => Text.tagged "Double" value.markedText
  | .pointer address => Text.tagged "Ptr" address.inspect

end RuntimeValue

end QueryKernel.Ir
