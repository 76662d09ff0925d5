set_option autoImplicit false

namespace NodeProbe.Decimal

def digitValue (c : Char) : Nat := c.toNat - 48

abbrev digits (value : Nat) : List Char := Nat.toDigits 10 value

def signed : Int → List Char
  | .ofNat value => digits value
  | .negSucc value => '-' :: digits (value + 1)


-- The magnitude `mantissa * 2 ^ exponent` of a finite float.
structure Binary where
  mantissa : Nat
  exponent : Int
  -- The next smaller float is half as far away as the next larger one.
  narrowBelow : Bool
deriving DecidableEq, Repr

def Binary.ofFloat (x : Float) : Binary :=
  let bits := x.toBits.toNat
  let fraction := bits % Nat.pow 2 52
  let biased := bits / Nat.pow 2 52 % Nat.pow 2 11
  if biased = 0 then ⟨fraction, -1074, false⟩
  else ⟨Nat.pow 2 52 + fraction, Int.ofNat biased - 1075, fraction = 0 ∧ 1 < biased⟩

def isNegative (x : Float) : Bool := Nat.pow 2 63 ≤ x.toBits.toNat

structure Scaled where
  coefficient : Nat
  exponent : Int
deriving DecidableEq, Repr

inductive Tie
  | even
  | up
deriving DecidableEq, Repr

def Tie.choose (tie : Tie) (lower : Nat) : Nat :=
  match tie with
  | .even => if lower % 2 = 0 then lower else lower + 1
  | .up => lower + 1

def quarterUnit (exponent grid : Int) : Nat × Nat :=
  (Nat.pow 2 (exponent - 2).toNat * Nat.pow 10 (-grid).toNat, Nat.pow 2 (2 - exponent).toNat * Nat.pow 10 grid.toNat)

-- The point of the grid `10 ^ grid` that stands for the float, if one lies in its rounding interval. The
-- ends belong to the interval exactly if the mantissa is even.
def Binary.onGrid (x : Binary) (tie : Tie) (grid : Int) : Option Nat :=
  let unit := quarterUnit x.exponent grid
  let value := 4 * x.mantissa * unit.1
  let low := (4 * x.mantissa - if x.narrowBelow then 1 else 2) * unit.1
  let high := (4 * x.mantissa + 2) * unit.1
  let closed := x.mantissa % 2 = 0
  let lower := value / unit.2
  let inLower := 0 < lower ∧ (low < lower * unit.2 ∨ closed ∧ low = lower * unit.2)
  let inUpper := (lower + 1) * unit.2 < high ∨ closed ∧ (lower + 1) * unit.2 = high
  if inLower ∧ inUpper then
    let twice := 2 * value
    let middle := (2 * lower + 1) * unit.2
    some (if twice < middle then lower else if middle < twice then lower + 1 else tie.choose lower)
  else if inLower then some lower
  else if inUpper then some (lower + 1)
  else none

def Binary.search (x : Binary) (tie : Tie) : Nat → Int → Scaled
  | 0, grid => ⟨(x.onGrid tie grid).getD 0, grid⟩
  | steps + 1, grid =>
    match x.onGrid tie grid with
    | some coefficient => ⟨coefficient, grid⟩
    | none => x.search tie steps (grid - 1)

def Binary.ceiling (x : Binary) : Int :=
  let bits := Int.ofNat (Nat.log2 x.mantissa) + x.exponent + 1
  bits * 30103 / 100000 + 1

-- Twenty grids below the ceiling reach seventeen significant digits, which always suffice.
def Binary.shortest (x : Binary) (tie : Tie) : Scaled :=
  if x.mantissa = 0 then ⟨0, 0⟩ else x.search tie 20 x.ceiling


structure Layout where
  tie : Tie
  -- Whether a number is written without exponent, by the place of its point: `0.123` has place 0.
  plain : Int → Bool
  whole : List Char

-- A point or zeros always follow the digits from `10 ^ -5` up to below `10 ^ 16`.
def Layout.exponential : Layout := ⟨.even, fun place => -5 < place ∧ place ≤ 16, ['.', '0']⟩

def Layout.positional : Layout := ⟨.up, fun _ => true, []⟩

def zeros (count : Nat) : List Char := List.replicate count '0'

def dropTrailingZeros (run : List Char) : List Char :=
  (run.reverse.dropWhile (· = '0')).reverse

def Layout.placePoint (layout : Layout) (run : List Char) (place : Int) : List Char :=
  if place ≤ 0 then '0' :: '.' :: zeros (-place).toNat ++ run
  else if run.length ≤ place.toNat then run ++ zeros (place.toNat - run.length) ++ layout.whole
  else run.take place.toNat ++ '.' :: run.drop place.toNat

def withExponent (run : List Char) (place : Int) : List Char :=
  let mantissa := match run with
    | first :: second :: rest => first :: '.' :: second :: rest
    | single => single
  let exponent := place - 1
  mantissa ++ 'e' :: (if exponent < 0 then '-' else '+') :: digits exponent.natAbs

def Layout.magnitude (layout : Layout) (x : Binary) : List Char :=
  if x.mantissa = 0 then '0' :: layout.whole
  else
    let decimal := x.shortest layout.tie
    let all := digits decimal.coefficient
    let place := Int.ofNat all.length + decimal.exponent
    let run := dropTrailingZeros all
    if layout.plain place then layout.placePoint run place else withExponent run place

def Layout.write (layout : Layout) (x : Float) : List Char :=
  let text := layout.magnitude (.ofFloat x)
  if isNegative x then '-' :: text else text


def roundQuotient (numerator denominator : Nat) : Nat :=
  let lower := numerator / denominator
  let rest := 2 * (numerator % denominator)
  if rest < denominator then lower
  else if denominator < rest then lower + 1
  else Tie.even.choose lower

def fixed (places : Nat) (x : Float) : String :=
  let binary := Binary.ofFloat x
  let rounded := roundQuotient (binary.mantissa * Nat.pow 2 binary.exponent.toNat * Nat.pow 10 places)
    (Nat.pow 2 (-binary.exponent).toNat)
  let run := digits rounded
  let padded := List.replicate (places + 1 - run.length) '0' ++ run
  let whole := padded.take (padded.length - places)
  let text := if places = 0 then whole else whole ++ '.' :: padded.drop (padded.length - places)
  String.ofList (if isNegative x then '-' :: text else text)

end NodeProbe.Decimal
