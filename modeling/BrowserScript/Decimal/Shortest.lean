/-!
The fewest decimal digits that name one binary floating-point number. A finite positive number is
`m · 2 ^ q`; the reals that round to it form an interval around it, and of the decimal numbers in
that interval with the fewest digits the nearest one is taken.
-/

set_option autoImplicit false

namespace BrowserScript.Decimal

/-- A finite positive double `mantissa · 2 ^ exponent`; `lowerHalf` tells that the next smaller
double is only half as far away as the next larger one. -/
structure Binary where
  mantissa : Nat
  exponent : Int
  lowerHalf : Bool
  deriving DecidableEq, Repr, Inhabited

/-- Splits the absolute value of a finite double. -/
def Binary.ofFloat (x : Float) : Binary :=
  let bits : Nat := x.toBits.toNat
  let hidden : Nat := 0x10000000000000
  let fraction : Nat := bits % hidden
  let biased : Nat := bits / hidden % 2048
  if biased = 0 then { mantissa := fraction, exponent := -1074, lowerHalf := false }
  else
    { mantissa := fraction + hidden
      exponent := (biased : Int) - 1075
      lowerHalf := fraction == 0 && biased > 1 }

/-- The number `0.d₁d₂…dₙ · 10 ^ point`, where `digits` has `n` decimal digits `d₁…dₙ`. -/
structure Digits where
  digits : Nat
  point : Int
  deriving DecidableEq, Repr, Inhabited

/-- Four times the number and the ends of its interval, over one denominator. -/
structure Interval where
  low : Nat
  value : Nat
  high : Nat
  denominator : Nat
  /-- The ends themselves round to the number. -/
  closed : Bool

def Binary.interval (b : Binary) : Interval :=
  let scale := if b.exponent ≥ 2 then Nat.pow 2 (b.exponent - 2).toNat else 1
  let denominator := if b.exponent ≥ 2 then 1 else Nat.pow 2 (2 - b.exponent).toNat
  { low := (4 * b.mantissa - if b.lowerHalf then 1 else 2) * scale
    value := 4 * b.mantissa * scale
    high := (4 * b.mantissa + 2) * scale
    denominator
    closed := b.mantissa % 2 = 0 }

/-- The position of the decimal point: the `k` with `10 ^ (k - 1) ≤ n / d < 10 ^ k`. -/
def pointOf (n d : Nat) : Int :=
  let rec whole (k : Nat) (q : Nat) : Nat → Nat
    | 0 => k
    | fuel + 1 => if q = 0 then k else whole (k + 1) (q / 10) fuel
  let rec shift (k : Nat) (n : Nat) : Nat → Nat
    | 0 => k
    | fuel + 1 => if n * 10 ≥ d then k else shift (k + 1) (n * 10) fuel
  if n ≥ d then whole 0 (n / d) 400 else - (shift 0 n 400 : Int)

/-- Is `c · 10 ^ e` inside the interval? -/
def Interval.contains (i : Interval) (c : Nat) (e : Int) : Bool :=
  let n := if e ≥ 0 then c * Nat.pow 10 e.toNat * i.denominator else c * i.denominator
  let scale := if e ≥ 0 then 1 else Nat.pow 10 (-e).toNat
  if i.closed then i.low * scale ≤ n && n ≤ i.high * scale
  else i.low * scale < n && n < i.high * scale

/-- Where a number goes that lies in the middle between two numbers of a grid. -/
inductive Tie where
  | toEven
  | up
  deriving DecidableEq, Repr

/-- The nearest number of the grid with `count` digits, if one lies in the interval. -/
def Interval.onGrid (i : Interval) (tie : Tie) (point : Int) (count : Nat) : Option Digits :=
  let e := point - count
  let n := if e ≥ 0 then i.value else i.value * Nat.pow 10 (-e).toNat
  let d := if e ≥ 0 then i.denominator * Nat.pow 10 e.toNat else i.denominator
  let below := n / d
  let twiceRest := 2 * (n % d)
  let upFirst := twiceRest > d || (twiceRest = d && (tie = .up || below % 2 = 1))
  let (first, second) := if upFirst then (below + 1, below) else (below, below + 1)
  let answer (c : Nat) : Digits :=
    if c = Nat.pow 10 count then ⟨1, point + 1⟩ else ⟨c, point⟩
  if i.contains first e then some (answer first)
  else if i.contains second e then some (answer second)
  else none

/-- The shortest digits of a finite positive double; seventeen are always enough. -/
def shortest (tie : Tie) (b : Binary) : Digits :=
  let i := b.interval
  let point := pointOf i.value i.denominator
  ((List.range 17).findSome? fun n => i.onGrid tie point (n + 1)).getD ⟨0, 0⟩

/-- The decimal digits of a number as text. -/
def digitText (d : Digits) : String := toString d.digits

/-- The text of a number without an exponent. -/
def positionalText (d : Digits) : String :=
  let digits := digitText d
  let count := digits.length
  if d.point ≤ 0 then "0." ++ String.ofList (List.replicate (-d.point).toNat '0') ++ digits
  else if d.point.toNat ≥ count then
    digits ++ String.ofList (List.replicate (d.point.toNat - count) '0')
  else
    String.ofList (digits.toList.take d.point.toNat) ++ "." ++
      String.ofList (digits.toList.drop d.point.toNat)

end BrowserScript.Decimal
