/-
The scalars of a TOML text: strings in four kinds of quotes, numbers, truth values,
and dates and times. A date or time is a map of one entry that no record has.
-/
import ServiceSchema.Node

namespace ServiceSchema.Toml

/-! ## Characters -/

def isSpace (c : Char) : Bool := c == ' ' || c == '\t'

/-- Whether a character may stand in a comment or a string; a control character other
than the tab may not. -/
def isPrintable (c : Char) : Bool := c == '\t' || (0x20 ≤ c.toNat && c.toNat != 0x7F)

def skipSpace (cs : List Char) : List Char := cs.dropWhile isSpace

/-- Passes over a line break: a line feed, which a carriage return may precede. -/
def newline? : List Char → Option (List Char)
  | '\n' :: rest | '\r' :: '\n' :: rest => some rest
  | _ => none

/-- Passes over a comment, if there is one. -/
def skipComment : List Char → List Char
  | '#' :: rest => rest.dropWhile isPrintable
  | cs => cs

/-- Passes over blanks, comments and line breaks. -/
def skipLines : Nat → List Char → List Char
  | 0, cs => cs
  | fuel + 1, cs =>
    let cs := skipComment (skipSpace cs)
    match newline? cs with
    | some rest => skipLines fuel rest
    | none => cs

/-! ## Strings -/

/-- The value of a digit, in bases up to sixteen. -/
def digit? (base : Nat) (c : Char) : Option Nat :=
  let value :=
    if c.isDigit then c.toNat - '0'.toNat
    else if 'a' ≤ c && c ≤ 'f' then c.toNat - 'a'.toNat + 10
    else if 'A' ≤ c && c ≤ 'F' then c.toNat - 'A'.toNat + 10
    else base
  if value < base then some value else none

/-- The number of some digits. -/
def number? (base : Nat) (digits : List Char) : Option Nat :=
  digits.foldlM (fun n c => (digit? base c).map (base * n + ·)) 0

/-- The character whose code is written by so many hexadecimal digits. -/
def hexChar? (count : Nat) (cs : List Char) : Option Char := do
  let digits := cs.take count
  let code ← number? 16 digits
  if digits.length < count || (0xD800 ≤ code && code ≤ 0xDFFF) || 0x10FFFF < code then none
  else some (Char.ofNat code)

/-- Reads an escape after its backslash. -/
def readEscape : List Char → Option (Char × List Char)
  | 'b' :: rest => some ('\x08', rest)
  | 't' :: rest => some ('\t', rest)
  | 'n' :: rest => some ('\n', rest)
  | 'f' :: rest => some ('\x0c', rest)
  | 'r' :: rest => some ('\r', rest)
  | 'e' :: rest => some ('\x1b', rest)
  | '"' :: rest => some ('"', rest)
  | '\\' :: rest => some ('\\', rest)
  | 'x' :: rest => (hexChar? 2 rest).map (·, rest.drop 2)
  | 'u' :: rest => (hexChar? 4 rest).map (·, rest.drop 4)
  | 'U' :: rest => (hexChar? 8 rest).map (·, rest.drop 8)
  | _ => none

/-- Reads a string on one line after its opening quote. Only between double quotes does a
backslash escape. -/
def readLine (quote : Char) : Nat → List Char → Option (List Char × List Char)
  | 0, _ | _, [] => none
  | fuel + 1, c :: rest =>
    if c = quote then some ([], rest)
    else if c = '\\' && quote = '"' then do
      let (c, rest) ← readEscape rest
      let (cs, rest) ← readLine quote fuel rest
      return (c :: cs, rest)
    else if isPrintable c then do
      let (cs, rest) ← readLine quote fuel rest
      return (c :: cs, rest)
    else none

/-- Passes over blanks and line breaks after a backslash at the end of a line. -/
def skipJoin : Nat → List Char → List Char
  | 0, cs => cs
  | fuel + 1, cs =>
    match newline? (skipSpace cs) with
    | some rest => skipJoin fuel rest
    | none => skipSpace cs

/-- Reads a string of several lines after its opening quotes. Up to two quotes may stand
in front of the three that close it. -/
def readLines (quote : Char) : Nat → List Char → Option (List Char × List Char)
  | 0, _ | _, [] => none
  | fuel + 1, c :: rest =>
    if c = quote then
      let quotes := ((c :: rest).takeWhile (· == quote)).length
      if quotes < 3 then do
        let (cs, rest) ← readLines quote fuel rest
        return (c :: cs, rest)
      else if 5 < quotes then none
      else some (List.replicate (quotes - 3) quote, rest.drop (quotes - 1))
    else if c = '\\' && quote = '"' then
      if (newline? (skipSpace rest)).isSome then readLines quote fuel (skipJoin fuel rest)
      else do
        let (c, rest) ← readEscape rest
        let (cs, rest) ← readLines quote fuel rest
        return (c :: cs, rest)
    else match newline? (c :: rest) with
      | some rest => do
        let (cs, rest) ← readLines quote fuel rest
        return ('\n' :: cs, rest)
      | none =>
        if isPrintable c then do
          let (cs, rest) ← readLines quote fuel rest
          return (c :: cs, rest)
        else none

/-- Reads a string after its first quote. -/
def readString (quote : Char) (cs : List Char) : Option (List Char × List Char) :=
  let fuel := cs.length + 1
  match cs with
  | a :: b :: rest =>
    if a = quote && b = quote then readLines quote fuel ((newline? rest).getD rest)
    else readLine quote fuel cs
  | _ => readLine quote fuel cs

/-! ## Numbers -/

/-- The digits of a number, with an underscore between two of them at most. -/
def digitsOf? (isDigit : Char → Bool) : List Char → Option (List Char)
  | [] => none
  | [c] => if isDigit c then some [c] else none
  | c :: '_' :: d :: rest =>
    if isDigit c && isDigit d then (digitsOf? isDigit (d :: rest)).map (c :: ·) else none
  | c :: rest => if isDigit c then (digitsOf? isDigit rest).map (c :: ·) else none

/-- A number in a base other than ten. -/
def based? (base : Nat) (cs : List Char) : Option Nat := do
  number? base (← digitsOf? (fun c => (digit? base c).isSome) cs)

/-- Digits without a leading zero. -/
def decimalDigits? (cs : List Char) : Option (List Char) :=
  match digitsOf? Char.isDigit cs with
  | some ('0' :: _ :: _) | none => none
  | digits => digits

/-- The sign of a number, and what follows it. -/
def cutSign : List Char → Bool × List Char
  | '+' :: rest => (false, rest)
  | '-' :: rest => (true, rest)
  | cs => (false, cs)

def integer? (cs : List Char) : Option Int :=
  match cs with
  | '0' :: 'x' :: rest => (based? 16 rest).map Int.ofNat
  | '0' :: 'o' :: rest => (based? 8 rest).map Int.ofNat
  | '0' :: 'b' :: rest => (based? 2 rest).map Int.ofNat
  | _ => do
    let (negative, cs) := cutSign cs
    let n ← number? 10 (← decimalDigits? cs)
    return if negative then -n else n

/-- Whether a text is an exponent, sign and digits. -/
def isExponent (cs : List Char) : Bool := (digitsOf? Char.isDigit (cutSign cs).2).isSome

/-- Whether a text is a number with a fraction or an exponent, or one of the words for
what is no finite number. -/
def isDecimal (cs : List Char) : Bool :=
  let (_, cs) := cutSign cs
  if cs = ['i', 'n', 'f'] || cs = ['n', 'a', 'n'] then true
  else
    let isE := fun c : Char => c == 'e' || c == 'E'
    let mantissa := cs.takeWhile (!isE ·)
    let exponent := cs.dropWhile (!isE ·)
    let whole := mantissa.takeWhile (· != '.')
    let fraction := mantissa.dropWhile (· != '.')
    (decimalDigits? whole).isSome
      && (fraction.isEmpty || (digitsOf? Char.isDigit (fraction.drop 1)).isSome)
      && (exponent.isEmpty || isExponent (exponent.drop 1))
      && !(fraction.isEmpty && exponent.isEmpty)

/-! ## Dates and times -/

/-- Reads so many digits of a number within bounds. -/
def readPart (count least greatest : Nat) (cs : List Char) : Option (Nat × List Char) := do
  let digits := cs.take count
  let n ← number? 10 digits
  if digits.length = count && least ≤ n && n ≤ greatest then some (n, cs.drop count) else none

/-- Passes over a given character. -/
def expect (c : Char) : List Char → Option (List Char)
  | d :: rest => if c = d then some rest else none
  | [] => none

def isLeapYear (year : Nat) : Bool := year % 4 = 0 && (year % 100 ≠ 0 || year % 400 = 0)

def daysIn (year month : Nat) : Nat :=
  if month = 2 then (if isLeapYear year then 29 else 28)
  else if [4, 6, 9, 11].contains month then 30
  else 31

/-- Passes over a date. -/
def skipDate (cs : List Char) : Option (List Char) := do
  let (year, cs) ← readPart 4 0 9999 cs
  let (month, cs) ← readPart 2 1 12 (← expect '-' cs)
  let (_, cs) ← readPart 2 1 (daysIn year month) (← expect '-' cs)
  return cs

/-- Passes over the seconds of a time, which may have a fraction. -/
def skipSeconds (cs : List Char) : Option (List Char) := do
  let (_, cs) ← readPart 2 0 60 cs
  match cs with
  | '.' :: d :: rest => if d.isDigit then some (rest.dropWhile Char.isDigit) else none
  | '.' :: [] => none
  | cs => some cs

/-- Passes over a time, the seconds of which may be left out. -/
def skipTime (cs : List Char) : Option (List Char) := do
  let (_, cs) ← readPart 2 0 23 cs
  let (_, cs) ← readPart 2 0 59 (← expect ':' cs)
  match cs with
  | ':' :: rest => skipSeconds rest
  | cs => some cs

/-- Passes over the offset of a time from universal time, if there is one. -/
def skipOffset : List Char → Option (List Char)
  | 'Z' :: rest | 'z' :: rest => some rest
  | '+' :: rest | '-' :: rest => do
    let (_, cs) ← readPart 2 0 23 rest
    let (_, cs) ← readPart 2 0 59 (← expect ':' cs)
    return cs
  | cs => some cs

/-- Whether a text is a date, a time, or both. -/
def isDateTime (cs : List Char) : Bool :=
  match skipDate cs with
  | some [] => true
  | some (c :: rest) =>
    (c == 'T' || c == 't' || c == ' ') && ((skipTime rest).bind skipOffset).any List.isEmpty
  | none => (skipTime cs).any List.isEmpty

/-! ## Words -/

/-- The greatest magnitude of an integer. -/
def integerLimit : Nat := Nat.pow 2 128

/-- The node of a scalar that is not in quotes. -/
def ofWord? (cs : List Char) : Option Node :=
  if cs = ['t', 'r', 'u', 'e'] then some (.bool true)
  else if cs = ['f', 'a', 'l', 's', 'e'] then some (.bool false)
  else match integer? cs with
    | some n => if n.natAbs < integerLimit then some (.integer n) else none
    | none =>
      if isDecimal cs then some (.decimal (String.ofList cs))
      else if isDateTime cs then some (.map [(.text "$datetime", .text (String.ofList cs))])
      else none

def isWordChar (c : Char) : Bool :=
  c.isAlphanum || c == '_' || c == '+' || c == '-' || c == '.' || c == ':'

/-- Whether a text is written like a date. -/
def isDateLike (cs : List Char) : Bool :=
  cs.length = 10 && cs.all fun c => c.isDigit || c == '-'

/-- Reads a scalar that is not in quotes. A date may be followed by its time after a
single space. -/
def readWord (cs : List Char) : Option (Node × List Char) :=
  let word := cs.takeWhile isWordChar
  let rest := cs.dropWhile isWordChar
  match rest with
  | ' ' :: d :: _ =>
    if isDateLike word && d.isDigit then
      let time := (rest.drop 1).takeWhile isWordChar
      (ofWord? (word ++ ' ' :: time)).map (·, (rest.drop 1).dropWhile isWordChar)
    else (ofWord? word).map (·, rest)
  | _ => (ofWord? word).map (·, rest)

end ServiceSchema.Toml
