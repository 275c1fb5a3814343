/-
Reading JSON texts as document trees. The text is read up to the first character
that makes it ill formed; there the tree ends in a broken node. A string that has
half of a surrogate pair and a number beyond all binary64 numbers are well formed,
but have no value.
-/
import ServiceSchema.Decimal.Binary64
import ServiceSchema.Json

namespace ServiceSchema.Json

def isSpace (c : Char) : Bool := c == ' ' || c == '\n' || c == '\t' || c == '\r'

def skipSpace (cs : List Char) : List Char := cs.dropWhile isSpace

/-! ## Strings -/

/-- A part of a string literal: a character, or a unit of UTF-16. -/
inductive Piece where
  | char (c : Char)
  | unit (n : Nat)

def hexDigit? (c : Char) : Option Nat :=
  if c.isDigit then some (c.toNat - '0'.toNat)
  else if 'a' ≤ c && c ≤ 'f' then some (c.toNat - 'a'.toNat + 10)
  else if 'A' ≤ c && c ≤ 'F' then some (c.toNat - 'A'.toNat + 10)
  else none

/-- The number written by hexadecimal digits. -/
def hexNumber? (cs : List Char) : Option Nat :=
  cs.foldlM (fun n c => (hexDigit? c).map (16 * n + ·)) 0

/-- The character that a backslash and a letter stand for. -/
def unescape? : Char → Option Char
  | '"' => some '"'
  | '\\' => some '\\'
  | '/' => some '/'
  | 'b' => some (Char.ofNat 8)
  | 'f' => some (Char.ofNat 12)
  | 'n' => some '\n'
  | 'r' => some '\r'
  | 't' => some '\t'
  | _ => none

/-- The parts of a string up to its closing quote, and what follows. -/
def readPieces : List Char → Option (List Piece × List Char)
  | [] => none
  | '"' :: rest => some ([], rest)
  | '\\' :: 'u' :: a :: b :: c :: d :: rest => do
    let n ← hexNumber? [a, b, c, d]
    let (pieces, rest) ← readPieces rest
    return (.unit n :: pieces, rest)
  | '\\' :: c :: rest => do
    let c ← unescape? c
    let (pieces, rest) ← readPieces rest
    return (.char c :: pieces, rest)
  | c :: rest =>
    if c.toNat < 0x20 then none
    else do
      let (pieces, rest) ← readPieces rest
      return (.char c :: pieces, rest)

def isLeading (n : Nat) : Bool := 0xD800 ≤ n && n ≤ 0xDBFF

def isTrailing (n : Nat) : Bool := 0xDC00 ≤ n && n ≤ 0xDFFF

/-- The characters of a string; a surrogate must be half of a pair. -/
def joinPieces? : List Piece → Option (List Char)
  | [] => some []
  | .char c :: rest => (joinPieces? rest).map (c :: ·)
  | .unit n :: .unit m :: rest =>
    if isLeading n && isTrailing m then
      (joinPieces? rest).map (Char.ofNat ((n - 0xD800) * 0x400 + (m - 0xDC00) + 0x10000) :: ·)
    else if isLeading n || isTrailing n then none
    else (joinPieces? (.unit m :: rest)).map (Char.ofNat n :: ·)
  | .unit n :: rest =>
    if isLeading n || isTrailing n then none else (joinPieces? rest).map (Char.ofNat n :: ·)

/-- The node of a string literal after its opening quote. -/
def readString (cs : List Char) : Node × Option (List Char) :=
  match readPieces cs with
  | none => (.broken, none)
  | some (pieces, rest) =>
    match joinPieces? pieces with
    | none => (.opaqueValue, some rest)
    | some cs => (.text (String.ofList cs), some rest)

/-! ## Numbers -/

/-- A number literal: sign, digits of the whole part and of the fraction, and the
sign and digits of the exponent. -/
structure Literal where
  negative : Bool
  whole : List Char
  fraction : List Char
  exponentNegative : Bool
  exponent : List Char

/-- The greatest significand that is kept. -/
def significandLimit : Nat := 0xFFFFFFFFFFFFFFFF

/-- Adds digits to a significand while it stays within the limit; the second number
counts the digits that were added. -/
def addDigits (significand : Nat) : List Char → Nat × Nat
  | [] => (significand, 0)
  | c :: rest =>
    let next := 10 * significand + (c.toNat - '0'.toNat)
    if significandLimit < next then (significand, 0)
    else
      let (total, count) := addDigits next rest
      (total, count + 1)

def Literal.isInteger (l : Literal) : Bool := l.fraction.isEmpty && l.exponent.isEmpty

/-- The node of a number that is no integer, or too large for one. -/
def Literal.decimalNode (l : Literal) : Node :=
  let (whole, used) := addDigits 0 l.whole
  let (significand, places) := addDigits whole l.fraction
  let start : Int := ((l.whole.length - used : Nat) : Int) - places
  let exponent : Int := (addDigits 0 l.exponent).1
  let exponent := if l.exponentNegative then -exponent else exponent
  match Decimal.scaled? (UInt64.ofNat significand) (start + exponent) with
  | none => .opaqueValue
  | some f => .decimal ((if l.negative then "-" else "") ++ Decimal.textOfBits f.toBits)

def Literal.node (l : Literal) : Node :=
  let (whole, used) := addDigits 0 l.whole
  if l.isInteger && used = l.whole.length then
    if !l.negative then .integer whole
    else if 0 < whole && whole ≤ 0x8000000000000000 then .integer (-whole)
    else l.decimalNode
  else l.decimalNode

/-- Reads the exponent of a number; there is none without its letter. -/
def readExponent (cs : List Char) : Option (Bool × List Char × List Char) :=
  match cs with
  | 'e' :: rest | 'E' :: rest =>
    let (negative, rest) := match rest with
      | '+' :: rest => (false, rest)
      | '-' :: rest => (true, rest)
      | rest => (false, rest)
    let digits := rest.takeWhile Char.isDigit
    if digits.isEmpty then none else some (negative, digits, rest.dropWhile Char.isDigit)
  | _ => some (false, [], cs)

/-- Reads the fraction of a number; there is none without a point. -/
def readFraction (cs : List Char) : Option (List Char × List Char) :=
  match cs with
  | '.' :: rest =>
    let digits := rest.takeWhile Char.isDigit
    if digits.isEmpty then none else some (digits, rest.dropWhile Char.isDigit)
  | _ => some ([], cs)

/-- Reads the whole part of a number, which has no leading zero. -/
def readWhole (cs : List Char) : Option (List Char × List Char) :=
  match cs.takeWhile Char.isDigit with
  | [] => none
  | '0' :: _ :: _ => none
  | digits => some (digits, cs.dropWhile Char.isDigit)

def readLiteral (cs : List Char) : Option (Literal × List Char) := do
  let (negative, cs) := match cs with
    | '-' :: rest => (true, rest)
    | _ => (false, cs)
  let (whole, cs) ← readWhole cs
  let (fraction, cs) ← readFraction cs
  let (exponentNegative, exponent, cs) ← readExponent cs
  return ({ negative, whole, fraction, exponentNegative, exponent }, cs)

def readNumber (cs : List Char) : Node × Option (List Char) :=
  match readLiteral cs with
  | none => (.broken, none)
  | some (literal, rest) => (literal.node, some rest)

/-! ## Values -/

/-- Reads a given word. -/
def readWord (word : List Char) (node : Node) (cs : List Char) : Node × Option (List Char) :=
  if word.isPrefixOf cs then (node, some (cs.drop word.length)) else (.broken, none)

mutual

/-- Reads a value. The rest is missing when the text turned out to be broken. Every
step takes a character, so `fuel` characters are enough for as many. -/
def readValue : Nat → List Char → Node × Option (List Char)
  | 0, _ => (.broken, none)
  | fuel + 1, cs =>
    match skipSpace cs with
    | [] => (.broken, none)
    | '"' :: rest => readString rest
    | '[' :: rest =>
      match skipSpace rest with
      | ']' :: rest => (.seq [], some rest)
      | rest =>
        let (items, rest) := readItems fuel rest
        (.seq items, rest)
    | '\x7b' :: rest =>
      match skipSpace rest with
      | '\x7d' :: rest => (.map [], some rest)
      | rest =>
        let (entries, rest) := readEntries fuel rest
        (.map entries, rest)
    | 'n' :: rest => readWord ['u', 'l', 'l'] .null rest
    | 't' :: rest => readWord ['r', 'u', 'e'] (.bool true) rest
    | 'f' :: rest => readWord ['a', 'l', 's', 'e'] (.bool false) rest
    | c :: rest => if c = '-' || c.isDigit then readNumber (c :: rest) else (.broken, none)

/-- Reads the items of an array up to its closing bracket. -/
def readItems : Nat → List Char → List Node × Option (List Char)
  | 0, _ => ([.broken], none)
  | fuel + 1, cs =>
    match readValue fuel cs with
    | (item, none) => ([item], none)
    | (item, some rest) =>
      match skipSpace rest with
      | ']' :: rest => ([item], some rest)
      | ',' :: rest =>
        let (items, rest) := readItems fuel rest
        (item :: items, rest)
      | _ => ([item, .broken], none)

/-- Reads the entries of an object up to its closing brace. A key that is no string
breaks the text, but stands in the tree. -/
def readEntries : Nat → List Char → List (Node × Node) × Option (List Char)
  | 0, _ => ([(.broken, .broken)], none)
  | fuel + 1, cs =>
    match skipSpace cs with
    | '"' :: rest =>
      match readString rest with
      | (key, none) => ([(key, .broken)], none)
      | (key, some rest) =>
        match skipSpace rest with
        | ':' :: rest =>
          match readValue fuel rest with
          | (value, none) => ([(key, value)], none)
          | (value, some rest) =>
            match skipSpace rest with
            | '\x7d' :: rest => ([(key, value)], some rest)
            | ',' :: rest =>
              let (entries, rest) := readEntries fuel rest
              ((key, value) :: entries, rest)
            | _ => ([(key, value), (.broken, .broken)], none)
        | _ => ([(key, .broken)], none)
    | cs => ([((readValue fuel cs).1, .broken)], none)

end

/-- The tree of a text, and whether nothing but white space follows the value. -/
def readText (s : String) : Node × Bool :=
  let (node, rest) := readValue (s.length + 1) s.toList
  (node, match rest with
    | some rest => (skipSpace rest).isEmpty
    | none => false)

/-- The value that a text is. -/
def parse? (s : String) : Option Json :=
  match readText s with
  | (node, true) => ofNode? node
  | (_, false) => none

end ServiceSchema.Json
