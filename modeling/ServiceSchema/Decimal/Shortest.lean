/-
The shortest decimal of a binary number. Every decimal in the interval of those
that round to `m · 2^q` reads back as that number; the ends belong to it when `m`
is even. Of the grids of multiples of a power of ten, the coarsest with a point in
the interval wins, and on it the point nearest to the number.
-/
namespace ServiceSchema.Decimal

/-- A decimal `digits · 10^exponent`. -/
structure Scaled where
  digits : Nat
  exponent : Int
deriving DecidableEq, Repr

/-- A positive number `m · 2^q` and its neighbourhood, as fractions of one
denominator: the number itself, and the ends of the interval that rounds to it. -/
structure Neighbourhood where
  value : Nat
  lower : Nat
  upper : Nat
  denominator : Nat
  closed : Bool

/-- The interval of `m · 2^q`; `atPower` tells that the number below is nearer,
because the exponent changes there. -/
def neighbourhood (m : Nat) (q : Int) (atPower : Bool) : Neighbourhood :=
  let up := Nat.pow 2 q.toNat
  { value := 4 * m * up
    lower := (if atPower then 4 * m - 1 else 4 * m - 2) * up
    upper := (4 * m + 2) * up
    denominator := 4 * Nat.pow 2 (-q).toNat
    closed := m % 2 == 0 }

/-- Whether `k · 10^e` lies in the interval. -/
def Neighbourhood.holds (n : Neighbourhood) (k : Nat) (e : Int) : Bool :=
  let point := k * Nat.pow 10 e.toNat * n.denominator
  let scale := Nat.pow 10 (-e).toNat
  if n.closed then n.lower * scale ≤ point && point ≤ n.upper * scale
  else n.lower * scale < point && point < n.upper * scale

/-- The nearest point of the grid of multiples of `10^e`, if it or its fellow on the
other side of the number lies in the interval. -/
def Neighbourhood.onGrid (n : Neighbourhood) (e : Int) : Option Nat :=
  let unit := Nat.pow 10 e.toNat * n.denominator
  let scaled := n.value * Nat.pow 10 (-e).toNat
  let below := scaled / unit
  let rest := scaled % unit
  let (first, second) :=
    if 2 * rest < unit || (2 * rest = unit && below % 2 = 0) then (below, below + 1)
    else (below + 1, below)
  if first ≠ 0 && n.holds first e then some first
  else if second ≠ 0 && n.holds second e then some second
  else none

/-- Tries ever finer grids, from that of `10^e` on. -/
def Neighbourhood.search (n : Neighbourhood) : Nat → Int → Scaled
  | 0, e => ⟨0, e⟩
  | tries + 1, e =>
    match n.onGrid e with
    | some k => ⟨k, e⟩
    | none => n.search tries (e - 1)

/-- The shortest decimal of `m · 2^q`, where `m` is positive. No binary64 number is
as large as the first grid's step, and a grid of some three hundred and forty
places suits the smallest. -/
def shortest (m : Nat) (q : Int) (atPower : Bool) : Scaled :=
  (neighbourhood m q atPower).search 700 310

end ServiceSchema.Decimal
