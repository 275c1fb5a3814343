/-
Lower-casing of whole texts by the full Unicode mapping. A capital sigma becomes
the final form when a cased letter stands before it and none after it, letting
case-ignorable characters stand between; every other character is mapped by
itself.
-/
import ServiceSchema.Text.Blank
import ServiceSchema.Text.CaseTable

namespace ServiceSchema.Text

/-- The lower-case form of one code point under one run of the table. -/
def CaseRun.lower? (run : CaseRun) (code : Nat) : Option Nat :=
  if run.first ≤ code && code ≤ run.last && (code - run.first) % run.step == 0 then
    some (run.target + (code - run.first))
  else none

/-- The lower-case form of a character taken by itself. -/
def lowerChar (c : Char) : List Char :=
  if c.toNat < 0x80 then [c.toLower]
  else if c.toNat == 0x130 then ['i', Char.ofNat 0x307]
  else match lowerRuns.findSome? (·.lower? c.toNat) with
    | some code => [Char.ofNat code]
    | none => [c]

def isCased (c : Char) : Bool := inRanges casedRanges c.toNat

def isCaseIgnorable (c : Char) : Bool := inRanges caseIgnorableRanges c.toNat

/-- Whether the first character that is not case-ignorable is cased. -/
def meetsCased (cs : List Char) : Bool :=
  ((cs.dropWhile isCaseIgnorable).head?.map isCased).getD false

def capitalSigma : Char := Char.ofNat 0x3A3
def smallSigma : Char := Char.ofNat 0x3C3
def finalSigma : Char := Char.ofNat 0x3C2

/-- Lower-cases a text of which `before` has been passed, latest character first. -/
def lowerFrom (before : List Char) : List Char → List Char
  | [] => []
  | c :: rest =>
    (if c == capitalSigma then
      [if meetsCased before && !meetsCased rest then finalSigma else smallSigma]
    else lowerChar c) ++ lowerFrom (c :: before) rest

def lower (s : String) : String :=
  String.ofList (lowerFrom [] s.toList)

/-- Lower-cases the ASCII letters only. -/
def asciiLower (s : String) : String :=
  String.ofList (s.toList.map Char.toLower)

end ServiceSchema.Text
