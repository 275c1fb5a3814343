/-
The text of a binary64 number: its shortest decimal, with a fraction or an
exponent so that it never looks like an integer. Positional notation serves up to
sixteen places before the point and five zeros after it.
-/
import ServiceSchema.Decimal.Shortest

namespace ServiceSchema.Decimal

/-- Digits `d` and exponent `k` as a text. -/
def positional (d : Scaled) : String :=
  let digits := toString d.digits
  let point := (digits.length : Int) + d.exponent
  if 0 ≤ d.exponent && point ≤ 16 then
    digits ++ String.ofList (List.replicate d.exponent.toNat '0') ++ ".0"
  else if 0 < point && point ≤ 16 then
    let cs := digits.toList
    String.ofList (cs.take point.toNat) ++ "." ++ String.ofList (cs.drop point.toNat)
  else if -5 < point && point ≤ 0 then
    "0." ++ String.ofList (List.replicate (-point).toNat '0') ++ digits
  else
    let cs := digits.toList
    let fraction := if cs.length ≤ 1 then "" else "." ++ String.ofList (cs.drop 1)
    String.ofList (cs.take 1) ++ fraction ++ "e" ++ toString (point - 1)

/-- The text of a finite binary64 number given by its bits. -/
def textOfBits (bits : UInt64) : String :=
  let negative := bits >>> 63 != 0
  let biased := ((bits >>> 52) &&& 0x7FF).toNat
  let fraction := (bits &&& 0xFFFFFFFFFFFFF).toNat
  let sign := if negative then "-" else ""
  if biased = 0 && fraction = 0 then sign ++ "0.0"
  else
    let m := if biased = 0 then fraction else 0x10000000000000 + fraction
    let q : Int := (if biased = 0 then 1 else biased) - 1075
    sign ++ positional (shortest m q (fraction = 0 && 1 < biased))

/-- The binary64 number next to `significand · 10^exponent`, found by one
multiplication or division by a power of ten, or by several when the exponent is
far below; `none` when it is too large. -/
def scaled? (significand : UInt64) (exponent : Int) : Option Float :=
  let f := significand.toFloat
  if 0 ≤ exponent then
    if exponent ≤ 308 then
      let r := f * Float.ofScientific 1 false exponent.toNat
      if r.isInf then none else some r
    else if significand = 0 then some f else none
  else
    let shift := (-exponent).toNat
    let steps := min ((shift - 1) / 308) 4
    let smaller := (List.range steps).foldl (fun x _ => x / Float.ofScientific 1 false 308) f
    some (smaller / Float.ofScientific 1 false (min (shift - 308 * steps) 308))

end ServiceSchema.Decimal
