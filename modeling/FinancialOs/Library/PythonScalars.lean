import Mathlib.Data.Rat.Floor
import Mathlib.Algebra.Order.Field.Rat

/-! Dynamically typed scalars as Python's JSON reader delivers them, and the
conversions the standard library defines on them. A float is the exact decimal
it prints as; the two infinities and NaN are kept apart. -/
namespace FinancialOs.Library

inductive PyFloat where
  | finite (q : ℚ)
  | infinite (negative : Bool)
  | nan
  deriving DecidableEq

namespace PyFloat

def abs : PyFloat → PyFloat
  | finite q => finite |q|
  | infinite _ => infinite false
  | nan => nan

def finite? : PyFloat → Option ℚ
  | finite q => some q
  | _ => none

/-- `x <= 0` on floats; NaN compares false. -/
def nonpos : PyFloat → Bool
  | finite q => q ≤ 0
  | infinite negative => negative
  | nan => false

/-- `q - x` for a finite `q`. -/
def subFrom (q : ℚ) : PyFloat → PyFloat
  | finite p => finite (q - p)
  | infinite negative => infinite !negative
  | nan => nan

end PyFloat

/-- What a failing statement raises; `raised` is a program's own exception. -/
inductive PyError where
  | typeError | valueError | overflowError | invalidOperation | attributeError
  | databaseError
  | raised (message : String)
  deriving DecidableEq, Repr

/-- The order of decimals; comparing with NaN raises. -/
def PyFloat.lt : PyFloat → PyFloat → Except PyError Bool
  | nan, _ => .error .invalidOperation
  | _, nan => .error .invalidOperation
  | finite p, finite q => .ok (p < q)
  | finite _, infinite negative => .ok (!negative)
  | infinite negative, finite _ => .ok negative
  | infinite n, infinite m => .ok (n && !m)

namespace NumberText

/-- Decimal digits with single underscores between them: their value, their count and the rest. -/
def digits : List Char → ℕ → ℕ → ℕ × ℕ × List Char
  | '_' :: d :: rest, value, count =>
    if 0 < count ∧ d.isDigit then digits rest (10 * value + (d.toNat - 48)) (count + 1)
    else (value, count, '_' :: d :: rest)
  | c :: rest, value, count =>
    if c.isDigit then digits rest (10 * value + (c.toNat - 48)) (count + 1)
    else (value, count, c :: rest)
  | [], value, count => (value, count, [])

def isBlank (c : Char) : Bool := c = ' ' ∨ c = '\t' ∨ c = '\n' ∨ c = '\r' ∨ c.toNat = 11 ∨ c.toNat = 12

def strip (cs : List Char) : List Char := ((cs.dropWhile isBlank).reverse.dropWhile isBlank).reverse

def sign : List Char → Bool × List Char
  | '-' :: rest => (true, rest)
  | '+' :: rest => (false, rest)
  | rest => (false, rest)

/-- The exponent part; absent it is zero, and text after it is an error. -/
def exponent : List Char → Option ℤ
  | [] => some 0
  | c :: rest =>
    if c = 'e' ∨ c = 'E' then
      let (negative, rest) := sign rest
      let (value, count, rest) := digits rest 0 0
      if count = 0 ∨ rest ≠ [] then none else some (if negative then -value else value)
    else none

/-- `mantissa · 10 ^ power`, overflowing to infinity as a double does. -/
def scaled (negative : Bool) (mantissa count : ℕ) (power : ℤ) : PyFloat :=
  if mantissa = 0 ∨ count + power < -400 then .finite 0
  else if 400 < count + power then .infinite negative
  else
    let size : ℚ := mantissa * 10 ^ power
    if 2 ^ 1024 - 2 ^ 970 ≤ size then .infinite negative
    else .finite (if negative then -size else size)

def unsigned (negative : Bool) (cs : List Char) : Option PyFloat :=
  let lower := cs.map Char.toLower
  if lower = "inf".toList ∨ lower = "infinity".toList then some (.infinite negative)
  else if lower = "nan".toList then some .nan
  else
    let (whole, wholeCount, rest) := digits cs 0 0
    let (fraction, fractionCount, rest) :=
      match rest with
      | '.' :: rest => digits rest 0 0
      | rest => (0, 0, rest)
    if wholeCount + fractionCount = 0 then none
    else (exponent rest).map fun power =>
      scaled negative (whole * 10 ^ fractionCount + fraction) (wholeCount + fractionCount)
        (power - fractionCount)

/-- The text `float` and `Decimal` accept. -/
def read (s : String) : Option PyFloat :=
  let (negative, cs) := sign (strip s.toList)
  unsigned negative cs

/-- The text `int` accepts. -/
def readInt (s : String) : Option ℤ :=
  let (negative, cs) := sign (strip s.toList)
  let (value, count, rest) := digits cs 0 0
  if count = 0 ∨ rest ≠ [] then none else some (if negative then -value else value)

def fraction : ℕ → ℚ → String
  | 0, _ => ""
  | fuel + 1, q =>
    let d := ⌊q * 10⌋
    toString d ++ (if q * 10 = d then "" else fraction fuel (q * 10 - d))

/-- Positional decimal text with at least one and at most seventeen fraction digits. -/
def render (q : ℚ) : String :=
  let size := |q|
  (if q < 0 then "-" else "") ++ toString ⌊size⌋ ++ "." ++ fraction 17 (size - ⌊size⌋)

end NumberText

inductive PyValue where
  | none
  | bool (b : Bool)
  | int (n : ℤ)
  | float (x : PyFloat)
  | str (s : String)
  | compound (text : String)
  deriving DecidableEq

namespace PyValue

def isNone : PyValue → Bool
  | .none => true
  | _ => false

/-- `bool(x)`; the text of an empty list or dict is its only falsy form. -/
def truthy : PyValue → Bool
  | .none => false
  | .bool b => b
  | .int n => n ≠ 0
  | .float (.finite q) => q ≠ 0
  | .float _ => true
  | .str s => s ≠ ""
  | .compound text => text ≠ "[]" ∧ text ≠ "\x7b\x7d"

/-- `x or y`. -/
def orElse (x y : PyValue) : PyValue := if x.truthy then x else y

/-- `isinstance(x, int)`, which a bool also satisfies. -/
def asInstanceInt : PyValue → Option ℤ
  | .bool b => some (if b then 1 else 0)
  | .int n => some n
  | _ => .none

/-- `float(x)`. -/
def toFloat : PyValue → Except PyError PyFloat
  | .none => .error .typeError
  | .bool b => .ok (.finite (if b then 1 else 0))
  | .int n => if n.natAbs < 2 ^ 1024 - 2 ^ 970 then .ok (.finite n) else .error .overflowError
  | .float x => .ok x
  | .str s => match NumberText.read s with
    | some x => .ok x
    | .none => .error .valueError
  | .compound _ => .error .typeError

/-- `int(x)`. -/
def toInt : PyValue → Except PyError ℤ
  | .none => .error .typeError
  | .bool b => .ok (if b then 1 else 0)
  | .int n => .ok n
  | .float (.finite q) => .ok (if 0 ≤ q then ⌊q⌋ else ⌈q⌉)
  | .float (.infinite _) => .error .overflowError
  | .float .nan => .error .valueError
  | .str s => match NumberText.readInt s with
    | some n => .ok n
    | .none => .error .valueError
  | .compound _ => .error .typeError

/-- `Decimal(str(x))` for a value that is not `None`. -/
def toDecimal : PyValue → Except PyError PyFloat
  | .int n => .ok (.finite n)
  | .float x => .ok x
  | .str s => match NumberText.read s with
    | some x => .ok x
    | .none => .error .invalidOperation
  | _ => .error .invalidOperation

/-- `str(x)`. -/
def text : PyValue → String
  | .none => "None"
  | .bool b => if b then "True" else "False"
  | .int n => toString n
  | .float (.finite q) => NumberText.render q
  | .float (.infinite negative) => if negative then "-inf" else "inf"
  | .float .nan => "nan"
  | .str s => s
  | .compound t => t

end PyValue

/-- An integer of a moderate size is a float. -/
theorem PyValue.toFloat_int {n : ℤ} (h : n.natAbs ≤ 10 ^ 18) : (PyValue.int n).toFloat = .ok (.finite n) := by
  have hdouble : 10 ^ 18 < 2 ^ 1024 - 2 ^ 970 := by decide +kernel
  rw [toFloat, if_pos (h.trans_lt hdouble)]

/-- A value the two conversions accept is read alike by both. -/
theorem PyValue.toDecimal_eq_toFloat {v : PyValue} {x y : PyFloat} (hx : v.toDecimal = .ok x)
    (hy : v.toFloat = .ok y) : x = y := by
  cases v with
  | none => cases hx
  | bool b => cases hx
  | int n =>
    simp only [toDecimal, toFloat] at hx hy
    split at hy
    · cases hx; cases hy; rfl
    · cases hy
  | float z => cases hx; cases hy; rfl
  | str s =>
    simp only [toDecimal, toFloat] at hx hy
    cases hr : NumberText.read s with
    | none => simp [hr] at hx
    | some z => simp only [hr] at hx hy; cases hx; cases hy; rfl
  | compound t => cases hx

example : NumberText.read " -1_250.5e2 " = some (.finite (-125050)) := by decide +kernel
example : NumberText.render (-5 / 4) = "-1.25" := by decide +kernel

end FinancialOs.Library
