import QueryKernel.Document.Basic

/-!
Contract: the unquoted values of a TOML text.

A number is read in two steps. Its text must have the shape of a number, which is
a little wider than the numbers; a text that has the shape but denotes no number
in range is kept as an unreadable value.

Owns: truth values, integers of four radices, fractions, and moments; and the
check that each is well formed and in range.
-/

namespace QueryKernel.Document.Toml

/-- The digits of a run, with single underscores between digits. -/
def digitRun? (isDigit : Char → Bool) (afterDigit : Bool) : List Char → Option (List Char)
  | [] => if afterDigit then some [] else none
  | '_' :: rest => if afterDigit then digitRun? isDigit false rest else none
  | c :: rest => if isDigit c then (digitRun? isDigit true rest).map (c :: ·) else none

def digitsValue (radix : Nat) (digits : List Char) : Nat :=
  digits.foldl
    (fun acc c =>
      radix * acc +
        if c.isDigit then c.toNat - '0'.toNat else c.toLower.toNat - 'a'.toNat + 10) 0

def isDigitOf (radix : Nat) (c : Char) : Bool :=
  if c.isDigit then c.toNat - '0'.toNat < radix
  else radix = 16 && (('a' ≤ c && c ≤ 'f') || ('A' ≤ c && c ≤ 'F'))

/-- Digits of a decimal integer: no zero stands before another digit. -/
def decimalDigits? (chars : List Char) : Option (List Char) := do
  let digits ← digitRun? Char.isDigit false chars
  match digits with
  | '0' :: _ :: _ => none
  | _ => some digits

def splitSign : List Char → Bool × List Char
  | '-' :: rest => (true, rest)
  | '+' :: rest => (false, rest)
  | chars => (false, chars)

def signedValue (negative : Bool) (magnitude : Nat) : Int :=
  if negative then -magnitude else magnitude

/-- An integer. It is unreadable if it does not fit 128 bits. -/
def integerDocument (value : Int) : Document :=
  if -2 ^ 127 ≤ value ∧ value < 2 ^ 128 then .int value else .unreadable

/-- An integer of a given radix, after its prefix. It is unreadable without any
digit. -/
def radixInteger? (radix : Nat) (chars : List Char) : Option Document :=
  if chars.isEmpty then some .unreadable
  else
    (digitRun? (isDigitOf radix) false chars).map fun digits =>
      integerDocument (digitsValue radix digits)

/-- Whether every underscore stands between two digits, of which hexadecimal ones
count. -/
def underscoresFit (afterDigit : Bool) : List Char → Bool
  | [] => true
  | ['_'] => false
  | '_' :: next :: rest =>
      afterDigit && isDigitOf 16 next && underscoresFit afterDigit (next :: rest)
  | c :: rest => underscoresFit (isDigitOf 16 c) rest

/-- Whether a text without its sign passes for an integer until it is looked at:
after its first digits it goes on with an underscore, all underscores fit, and it
has no blank and no mark of a fraction. -/
def resemblesInteger (unsigned : List Char) : Bool :=
  (unsigned.dropWhile Char.isDigit).head? == some '_' &&
    unsigned.head? != some '0' &&
    underscoresFit false unsigned &&
    !unsigned.any fun c => c = ' ' || c = '.' || c = 'e' || c = 'E'

def integer? (chars : List Char) : Option Document :=
  match chars with
  | '0' :: 'x' :: rest => radixInteger? 16 rest
  | '0' :: 'o' :: rest => radixInteger? 8 rest
  | '0' :: 'b' :: rest => radixInteger? 2 rest
  | _ =>
      let (negative, unsigned) := splitSign chars
      match decimalDigits? unsigned with
      | some digits => some (integerDocument (signedValue negative (digitsValue 10 digits)))
      | none => if resemblesInteger unsigned then some .unreadable else none

/-- Whether the number of the digits, times `10 ^ exponent`, rounds to a finite
double. Far from the bound its size in digits decides. -/
def isFiniteDouble (digits : List Char) (exponent : Int) : Bool :=
  let digits := digits.dropWhile (· = '0')
  let size : Int := digits.length + exponent
  if digits.isEmpty || size < -400 then true
  else if 400 < size then false
  else
    digitsValue 10 digits * 10 ^ exponent.toNat <
      (2 ^ 1024 - 2 ^ 970) * 10 ^ (-exponent).toNat

/-- A number with a fraction or an exponent, which is unreadable if it is not
finite, or a special value. -/
def fraction? (chars : List Char) : Option Document := do
  let (_, unsigned) := splitSign chars
  if unsigned = ['i', 'n', 'f'] ∨ unsigned = ['n', 'a', 'n'] then
    some .fraction
  else if !unsigned.any (fun c => c = '.' || c = 'e' || c = 'E') then
    none
  else
    let isMark := fun c : Char => c = 'e' || c = 'E'
    let mantissa := unsigned.takeWhile (fun c => !isMark c)
    let exponent ←
      match unsigned.dropWhile (fun c => !isMark c) with
      | [] => some 0
      | _ :: power =>
          let (negative, power) := splitSign power
          (digitRun? Char.isDigit false power).map fun digits =>
            signedValue negative (digitsValue 10 digits)
    let whole ← decimalDigits? (mantissa.takeWhile (· != '.'))
    let places ←
      match mantissa.dropWhile (· != '.') with
      | [] => some []
      | _ :: rest => digitRun? Char.isDigit false rest
    if isFiniteDouble (whole ++ places) (exponent - places.length) then some .fraction
    else some .unreadable

/-- A number of exactly two digits that is in range. -/
def twoDigits? (low high : Nat) : List Char → Option (List Char)
  | a :: b :: rest =>
      let value := digitsValue 10 [a, b]
      if a.isDigit && b.isDigit && low ≤ value && value ≤ high then some rest else none
  | _ => none

def after? (wanted : Char) : List Char → Option (List Char)
  | c :: rest => if c = wanted then some rest else none
  | [] => none

def daysIn (year month : Nat) : Nat :=
  if month = 2 then
    if year % 4 = 0 && (year % 100 ≠ 0 || year % 400 = 0) then 29 else 28
  else if month = 4 || month = 6 || month = 9 || month = 11 then 30
  else 31

def date? (chars : List Char) : Option (List Char) := do
  let year := chars.take 4
  if year.length = 4 ∧ year.all Char.isDigit then
    let monthText ← after? '-' (chars.drop 4)
    let rest ← twoDigits? 1 12 monthText
    let month := digitsValue 10 (monthText.take 2)
    twoDigits? 1 (daysIn (digitsValue 10 year) month) (← after? '-' rest)
  else
    none

/-- Take seconds and their fraction off a text, if it goes on with them. -/
def seconds? : List Char → Option (List Char)
  | ':' :: rest => do
      match ← twoDigits? 0 60 rest with
      | '.' :: rest =>
          if (rest.takeWhile Char.isDigit).isEmpty then none
          else some (rest.dropWhile Char.isDigit)
      | rest => some rest
  | chars => some chars

def time? (chars : List Char) : Option (List Char) := do
  let rest ← twoDigits? 0 23 chars
  let rest ← twoDigits? 0 59 (← after? ':' rest)
  seconds? rest

/-- The distance from universal time, or nothing. -/
def isZone : List Char → Bool
  | [] => true
  | ['Z'] => true
  | ['z'] => true
  | sign :: rest =>
      (sign = '+' || sign = '-') &&
        ((twoDigits? 0 23 rest).bind (after? ':') |>.bind (twoDigits? 0 59)) == some []

/-- A date, a time of day, or both with or without a zone. -/
def moment? (chars : List Char) : Option Document :=
  match date? chars with
  | some [] => some .moment
  | some (mark :: rest) =>
      if mark = 'T' || mark = 't' || mark = ' ' then
        match time? rest with
        | some zone => if isZone zone then some .moment else none
        | none => none
      else none
  | none => if time? chars == some [] then some .moment else none

def scalar? (chars : List Char) : Option Document :=
  if chars = ['t', 'r', 'u', 'e'] then some (.bool true)
  else if chars = ['f', 'a', 'l', 's', 'e'] then some (.bool false)
  else (integer? chars) <|> (moment? chars) <|> (fraction? chars)

end QueryKernel.Document.Toml
