/-
The time a compiler is given, and how it is written: in the largest unit of
seconds and milliseconds that does not make it a fraction below one, without
trailing zeros. No time at all is written in nanoseconds.
-/
namespace ServiceSchema

/-- A length of time in milliseconds. -/
structure Timeout where
  milliseconds : Nat
deriving DecidableEq, Repr

namespace Timeout

def ofSeconds (n : Nat) : Timeout := ⟨n * 1000⟩

/-- The decimals of a number of thousandths, without trailing zeros. -/
def decimals (thousandths : Nat) : String :=
  if thousandths = 0 then ""
  else
    let digits := (toString (1000 + thousandths)).toList.drop 1
    "." ++ String.ofList (digits.reverse.dropWhile (· == '0')).reverse

def display (t : Timeout) : String :=
  if t.milliseconds = 0 then "0ns"
  else if t.milliseconds < 1000 then toString t.milliseconds ++ "ms"
  else toString (t.milliseconds / 1000) ++ decimals (t.milliseconds % 1000) ++ "s"

end Timeout

end ServiceSchema
