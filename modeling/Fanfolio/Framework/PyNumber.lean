import Fanfolio.Framework.Text
import Mathlib.Data.Rat.Floor

/-!
# The numbers of a JSON document in Python

A number without a fraction and exponent is an integer of any size, any other is a float, which may
be infinite or no number. `int` reads integers from either and from texts.
-/

namespace Framework

/-- A float: a rational, an infinity or `nan`. -/
inductive PyFloat where
  | finite (q : Rat)
  | infinite (negative : Bool)
  | nan
deriving DecidableEq, Repr

inductive PyNumber where
  | int (n : Int)
  | float (x : PyFloat)
deriving DecidableEq, Repr

/-- `low <= value <= high`. -/
def PyNumber.between (low high : Int) : PyNumber → Bool
  | .int n => low ≤ n ∧ n ≤ high
  | .float (.finite q) => (low : Rat) ≤ q ∧ q ≤ high
  | .float _ => false

/-- The decimal digits of Unicode. -/
structure DecimalDigits where
  digit : Char → Option Nat
  ascii : ∀ c, c.toNat < 128 → digit c = if c.isDigit then some (c.toNat - 48) else none

/-- The digits of ASCII alone. -/
def DecimalDigits.asciiOnly : DecimalDigits :=
  ⟨fun c => if c.isDigit then some (c.toNat - 48) else none, fun _ _ => rfl⟩

/-- The digits of a text, with an underscore allowed between two of them. -/
def DecimalDigits.read (table : DecimalDigits) : List Char → Option (List Nat)
  | [] => none
  | [c] => (table.digit c).map ([·])
  | c :: '_' :: rest => do return (← table.digit c) :: (← table.read rest)
  | c :: rest => do return (← table.digit c) :: (← table.read rest)

/-- The white space that `int` skips. -/
def isIntSpace (c : Char) : Bool := isSpace c && !(28 ≤ c.toNat && c.toNat ≤ 31)

/-- The number of at most 4300 digits. -/
def DecimalDigits.natural (table : DecimalDigits) (chars : List Char) : Option Nat :=
  ((table.read chars).filter (·.length ≤ 4300)).map fun digits =>
    digits.foldl (fun n d => 10 * n + d) 0

/-- `int` of a text. -/
def DecimalDigits.integer (table : DecimalDigits) (s : String) : Option Int :=
  match (s.toList.dropWhile isIntSpace).rdropWhile isIntSpace with
  | '-' :: digits => (table.natural digits).map fun n => -(n : Int)
  | '+' :: digits => (table.natural digits).map fun n => (n : Int)
  | digits => (table.natural digits).map fun n => (n : Int)

/-- A rational without its fraction. -/
def truncate (q : Rat) : Int := q.num.tdiv q.den

end Framework
