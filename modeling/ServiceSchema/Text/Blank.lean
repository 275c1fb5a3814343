/-
Blank characters and trimming. A character is blank when it has the
`White_Space` property of Unicode; trimming drops the blank characters at both
ends of a text and keeps those inside it.
-/
namespace ServiceSchema.Text

/-- The characters with the `White_Space` property, as ranges of code points. -/
def blankRanges : List (Nat × Nat) :=
  [(0x09, 0x0D), (0x20, 0x20), (0x85, 0x85), (0xA0, 0xA0), (0x1680, 0x1680), (0x2000, 0x200A),
    (0x2028, 0x2029), (0x202F, 0x202F), (0x205F, 0x205F), (0x3000, 0x3000)]

/-- Whether a code point lies in one of the ranges. -/
def inRanges (ranges : List (Nat × Nat)) (code : Nat) : Bool :=
  ranges.any fun (first, last) => first ≤ code && code ≤ last

def isBlank (c : Char) : Bool :=
  inRanges blankRanges c.toNat

/-- The characters from the first to the last that is not blank. -/
def trimmed (cs : List Char) : List Char :=
  ((cs.dropWhile isBlank).reverse.dropWhile isBlank).reverse

def trim (s : String) : String :=
  String.ofList (trimmed s.toList)

/-- Whether a text has nothing but blank characters. -/
def allBlank (s : String) : Bool :=
  s.toList.all isBlank

theorem length_trimmed_le (cs : List Char) : (trimmed cs).length ≤ cs.length := by
  have hfront : (cs.dropWhile isBlank).length ≤ cs.length :=
    (List.dropWhile_sublist isBlank).length_le
  have hback : ((cs.dropWhile isBlank).reverse.dropWhile isBlank).length ≤
      (cs.dropWhile isBlank).reverse.length := (List.dropWhile_sublist isBlank).length_le
  rw [List.length_reverse] at hback
  rw [trimmed, List.length_reverse]
  exact Nat.le_trans hback hfront

end ServiceSchema.Text
