import QueryKernel.Text.Unprinted

/-!
Contract: the two ways in which a value is spelled out inside a message.

Owns:
- quoted text, in which every character can be told apart from its neighbours;
- the tagged notation of records and variants (`Name(x)`, `Name { field: x }`).
-/

namespace QueryKernel.Text

/-- Lower-case hexadecimal digits of a number, without leading zeros. -/
def hex (n : Nat) : String :=
  String.ofList (Nat.toDigits 16 n)

def hexPadded (width n : Nat) : String :=
  let digits := Nat.toDigits 16 n
  String.ofList (List.replicate (width - digits.length) '0' ++ digits)

/-- One character inside quotes. An apostrophe stands for itself. -/
def quotedChar (c : Char) : String :=
  if c = '"' then "\\\""
  else if c = '\\' then "\\\\"
  else if c = '\n' then "\\n"
  else if c = '\r' then "\\r"
  else if c = '\t' then "\\t"
  else if c.toNat = 0 then "\\0"
  else if isUnprinted c then "\\u\x7b" ++ hex c.toNat ++ "\x7d"
  else c.toString

/-- A text in double quotes, escaped so that it reads back unambiguously. -/
def quoted (s : String) : String :=
  "\"" ++ String.join (s.toList.map quotedChar) ++ "\""

/-- A variant with one payload, `Name(payload)`. -/
def tagged (name payload : String) : String :=
  name ++ "(" ++ payload ++ ")"

/-- A record with named fields, `Name \x7b field: value, … \x7d`. -/
def record (name : String) (fields : List (String × String)) : String :=
  name ++ " \x7b " ++
    ", ".intercalate (fields.map fun field => field.1 ++ ": " ++ field.2) ++ " \x7d"

def optional : Option String → String
  | none => "None"
  | some value => tagged "Some" value

def bracketed (items : List String) : String :=
  "[" ++ ", ".intercalate items ++ "]"

/-- A truth value as it is spelled in every text of the library. -/
def truth : Bool → String
  | true => "true"
  | false => "false"

end QueryKernel.Text
