import QueryKernel.Ir.Module

/-!
Contract: kernel code as text.

Owns: the listing of a module, and the tagged text of a single instruction.
-/

namespace QueryKernel.Ir

/-- The instruction in a listing. Globals appear by name. -/
def Instruction.render (code : Module) : Instruction → String
  | .offset base amount => "getelementptr " ++ base.render ++ ", " ++ amount.render
  | .load address type => "load " ++ type.render ++ ", " ++ address.render
  | .and left right => "and " ++ left.render ++ ", " ++ right.render
  | .shiftRight left right => "lshr " ++ left.render ++ ", " ++ right.render
  | .greater left right => "icmp sgt " ++ left.render ++ ", " ++ right.render
  | .store value global => "store " ++ value.render ++ ", @" ++ code.globalName global
  | .loadGlobal global =>
      "load " ++ (code.globalType global).render ++ ", @" ++ code.globalName global

/-- The instruction in a message. Globals appear by position. -/
def Instruction.inspect : Instruction → String
  | .offset base amount =>
      Text.record "Gep" [("base", base.inspect), ("offset", amount.inspect)]
  | .load address type =>
      Text.record "Load" [("ptr", address.inspect), ("ty", type.inspect)]
  | .and left right => Text.record "And" [("lhs", left.inspect), ("rhs", right.inspect)]
  | .shiftRight left right => Text.record "LShr" [("lhs", left.inspect), ("rhs", right.inspect)]
  | .greater left right =>
      Text.record "ICmpSgt" [("lhs", left.inspect), ("rhs", right.inspect)]
  | .store value global =>
      Text.record "Store"
        [("value", value.inspect), ("global", Text.tagged "GlobalId" (toString global))]
  | .loadGlobal global =>
      Text.record "LoadGlobal" [("global", Text.tagged "GlobalId" (toString global))]

namespace Module

/-- A line of a block. Only lines with a result show their number and name. -/
def renderLine (code : Module) (number : Nat) (line : Line) : String :=
  let result :=
    match line.result, line.name with
    | none, _ => ""
    | some _, some name => "%" ++ toString number ++ " (" ++ name ++ ") = "
    | some _, none => "%" ++ toString number ++ " = "
  "  " ++ result ++ line.instruction.render code ++ "\n"

def renderBlock (code : Module) (block : Block) : String :=
  String.join ((code.linesOf block).map fun number =>
    match code.lines[number]? with
    | some line => code.renderLine number line
    | none => "")

def render (code : Module) : String :=
  let pool := code.pool.toList.mapIdx fun index value =>
    "@.str." ++ toString index ++ " = private constant " ++ Text.quoted value ++ "\n"
  let globals := code.globals.toList.map fun global =>
    "@" ++ global.name ++ " = internal global " ++ global.type.render ++ "\n"
  "; module " ++ code.name ++ "\n" ++ String.join pool ++ String.join globals ++
    "define void @" ++ code.functionName ++ "(i8* %" ++ literalsArgument ++ ") \x7b\n" ++
    "entry:\n" ++ code.renderBlock .entry ++ "body:\n" ++ code.renderBlock .body ++ "\x7d\n"

end Module

end QueryKernel.Ir
