/-!
Contract: the characters of a TOML text.

Owns:
- blanks, comments and line ends, and so the extent of an unquoted value;
- the four kinds of string, with their escapes;
- bare, quoted and dotted keys;
- the depth to which lists, tables and keys may nest.

A scanner takes the front off a text and gives back the rest. Loops carry a
bound on their steps. It is taken once from the length of the whole text and
handed down, since a text is never shorter than what is left of it.
-/

namespace QueryKernel.Document.Toml

/-- Take something off the front of a text. -/
abbrev Scan (α : Type) : Type := StateT (List Char) Option α

def isBlank (c : Char) : Bool := c = ' ' || c = '\t'

/-- Characters that may stand in comments and in strings of one line. -/
def isTextChar (c : Char) : Bool := c = '\t' || (0x20 ≤ c.toNat && c.toNat ≠ 0x7f)

def isBareChar (c : Char) : Bool := c.isAlphanum || c = '_' || c = '-'

def skipBlanks : Scan Unit := modify fun source => source.dropWhile isBlank

def expect (wanted : Char) : Scan Unit := fun source =>
  match source with
  | c :: rest => if c = wanted then some ((), rest) else none
  | [] => none

/-- Pass over the end of a line, with its blanks and comment. -/
def endOfLine : Scan Unit := fun source =>
  let afterBlanks := source.dropWhile isBlank
  let afterComment :=
    match afterBlanks with
    | '#' :: comment => comment.dropWhile isTextChar
    | _ => afterBlanks
  match afterComment with
  | [] => some ((), [])
  | '\n' :: rest => some ((), rest)
  | '\r' :: '\n' :: rest => some ((), rest)
  | _ => none

def skipLines : Nat → Scan Unit
  | 0 => failure
  | fuel + 1 => do
      skipBlanks
      match ← get with
      | '#' :: _ | '\n' :: _ | '\r' :: _ =>
          endOfLine
          skipLines fuel
      | _ => return ()

def endsScalar (c : Char) : Bool :=
  c = '=' || c = ',' || c = '[' || c = ']' || c = '\x7b' || c = '\x7d' || c = '#' || c = '\r' ||
    c = '\n'

/-- Whether an unquoted value goes on after a blank: with anything that could
start a word. -/
def goesOn (source : List Char) : Bool :=
  match source.dropWhile isBlank with
  | [] => false
  | c :: _ => !(endsScalar c || c = '.' || c = '"' || c = '\'')

/-- Split an unquoted value off a text. Blanks between words belong to it, as
between a date and a time; whether the words make sense is not asked here. The
flag tells that a word is known to follow the blanks. -/
def splitScalar (wordFollows : Bool) : List Char → List Char × List Char
  | [] => ([], [])
  | c :: rest =>
      let wordFollows := isBlank c && (wordFollows || goesOn rest)
      if endsScalar c || (isBlank c && !wordFollows) then ([], c :: rest)
      else
        let (front, rest) := splitScalar wordFollows rest
        (c :: front, rest)

def hexDigit? (c : Char) : Option Nat :=
  if '0' ≤ c ∧ c ≤ '9' then some (c.toNat - '0'.toNat)
  else if 'a' ≤ c ∧ c ≤ 'f' then some (c.toNat - 'a'.toNat + 10)
  else if 'A' ≤ c ∧ c ≤ 'F' then some (c.toNat - 'A'.toNat + 10)
  else none

/-- The character whose number is written in a fixed count of hexadecimal
digits. Surrogates and numbers past the last character are refused. -/
def numberedChar (digits : Nat) : Scan Char := fun source => do
  let values ← (source.take digits).mapM hexDigit?
  let number := values.foldl (fun acc digit => 16 * acc + digit) 0
  if values.length = digits ∧ number.isValidChar then
    some (Char.ofNat number, source.drop digits)
  else
    none

/-- The character of an escape, after its backslash. -/
def escapedChar : Scan Char := fun source =>
  match source with
  | 'b' :: rest => some ('\x08', rest)
  | 't' :: rest => some ('\t', rest)
  | 'n' :: rest => some ('\n', rest)
  | 'f' :: rest => some ('\x0c', rest)
  | 'r' :: rest => some ('\r', rest)
  | 'e' :: rest => some ('\x1b', rest)
  | '"' :: rest => some ('"', rest)
  | '\\' :: rest => some ('\\', rest)
  | 'x' :: rest => numberedChar 2 rest
  | 'u' :: rest => numberedChar 4 rest
  | 'U' :: rest => numberedChar 8 rest
  | _ => none

/-- A string of one line after its opening quote, with or without escapes. -/
def lineString (quote : Char) (escapes : Bool) : Nat → Scan (List Char)
  | 0 => failure
  | fuel + 1 => fun source =>
      match source with
      | [] => none
      | c :: rest =>
          if c = quote then some ([], rest)
          else if escapes && c = '\\' then do
            let (c, rest) ← escapedChar rest
            let (tail, rest) ← lineString quote escapes fuel rest
            return (c :: tail, rest)
          else if isTextChar c then do
            let (tail, rest) ← lineString quote escapes fuel rest
            return (c :: tail, rest)
          else none

def skipSpace : List Char → List Char
  | '\r' :: '\n' :: rest => skipSpace rest
  | c :: rest => if isBlank c || c = '\n' then skipSpace rest else c :: rest
  | [] => []

/-- What follows the backslash that ends a line: nothing up to the next
character that is no blank. The backslash may be followed by blanks. -/
def foldedLine? (source : List Char) : Option (List Char) :=
  match source.dropWhile isBlank with
  | '\n' :: rest => some (skipSpace rest)
  | '\r' :: '\n' :: rest => some (skipSpace rest)
  | _ => none

/-- A string of several lines after its opening quotes. Up to two quotes may
stand right before the closing three. -/
def blockString (quote : Char) (escapes : Bool) : Nat → Scan (List Char)
  | 0 => failure
  | fuel + 1 => fun source =>
      match source with
      | [] => none
      | '\r' :: '\n' :: rest => do
          let (tail, rest) ← blockString quote escapes fuel rest
          return ('\n' :: tail, rest)
      | c :: rest =>
          if c = quote then
            let run := min (source.takeWhile (· == quote)).length 5
            if 3 ≤ run then
              some (List.replicate (run - 3) quote, source.drop run)
            else do
              let (tail, rest) ← blockString quote escapes fuel rest
              return (quote :: tail, rest)
          else if escapes && c = '\\' then
            match foldedLine? rest with
            | some rest => blockString quote escapes fuel rest
            | none => do
                let (c, rest) ← escapedChar rest
                let (tail, rest) ← blockString quote escapes fuel rest
                return (c :: tail, rest)
          else if c = '\n' || isTextChar c then do
            let (tail, rest) ← blockString quote escapes fuel rest
            return (c :: tail, rest)
          else none

def dropFirstLineEnd : List Char → List Char
  | '\n' :: rest => rest
  | '\r' :: '\n' :: rest => rest
  | source => source

def anyString (fuel : Nat) : Scan String := fun source =>
  let found :=
    match source with
    | '"' :: '"' :: '"' :: rest => blockString '"' true fuel (dropFirstLineEnd rest)
    | '\'' :: '\'' :: '\'' :: rest => blockString '\'' false fuel (dropFirstLineEnd rest)
    | '"' :: rest => lineString '"' true fuel rest
    | '\'' :: rest => lineString '\'' false fuel rest
    | _ => none
  found.map fun (chars, rest) => (String.ofList chars, rest)

def keyPart (fuel : Nat) : Scan String := fun source =>
  match source with
  | '"' :: rest => (lineString '"' true fuel rest).map fun (c, rest) => (String.ofList c, rest)
  | '\'' :: rest => (lineString '\'' false fuel rest).map fun (c, rest) => (String.ofList c, rest)
  | _ =>
      let bare := source.takeWhile isBareChar
      if bare.isEmpty then none else some (String.ofList bare, source.dropWhile isBareChar)

def dottedKey : Nat → Scan (String × List String)
  | 0 => failure
  | fuel + 1 => do
      skipBlanks
      let part ← keyPart fuel
      skipBlanks
      match ← get with
      | '.' :: rest =>
          set rest
          let (next, parts) ← dottedKey fuel
          return (part, next :: parts)
      | _ => return (part, [])

/-- How deep a text may nest. This many lists and inline tables may stand in each
other, and a key may have this many parts, since each but the last leads into a
table. -/
def maxDepth : Nat := 80

/-- A key with its parts, of which there are at most `maxDepth`. -/
def key (fuel : Nat) : Scan (String × List String) := do
  let (first, more) ← dottedKey fuel
  if more.length < maxDepth then return (first, more) else failure

end QueryKernel.Document.Toml
