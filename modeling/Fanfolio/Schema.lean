import Mathlib.Algebra.Ring.Int.Defs
import Mathlib.Data.Rat.Defs
import Mathlib.Data.String.Basic
import Mathlib.Data.Prod.Lex

/-!
# Identifiers, timestamps, JSON values and failures

Row identifiers are the strings the code stores. A timestamp is the number of microseconds
of a UTC instant. A call that fails leaves no trace: its transaction is rolled back.
-/

namespace Fanfolio

abbrev UserId := String
abbrev CardId := String
abbrev DropId := String
abbrev CodeId := String
abbrev UserCardId := String
abbrev LedgerId := String
abbrev Time := Nat

/-- `str(uuid4())`: a random identifier, which never contains a colon. -/
abbrev Uuid := { text : String // ':' ∉ text.toList }

/-- `timedelta(days=n)` in microseconds. -/
def days (n : Nat) : Time := n * 86400000000

inductive JsonScalar where
  | null
  | bool (b : Bool)
  | num (q : Rat)
  | str (s : String)
deriving DecidableEq, Repr

/-- The JSON values the code stores under a key: scalars and lists of scalars. -/
inductive Json where
  | scalar (v : JsonScalar)
  | list (vs : List JsonScalar)
deriving DecidableEq, Repr

namespace Json
def str (s : String) : Json := .scalar (.str s)
def num (q : Rat) : Json := .scalar (.num q)
def ofOption : Option String → Json
  | some s => str s
  | none => .scalar .null
end Json

/-- A JSON object, in key order. -/
abbrev JsonObject := List (String × Json)

def JsonObject.get (o : JsonObject) (key : String) : Option Json :=
  (o.find? (fun entry => entry.1 == key)).map Prod.snd

/-- `AppError`: the refusal that is answered to the caller. -/
structure AppError where
  statusCode : Nat
  code : String
  message : String
deriving DecidableEq, Repr

/-- Why a call failed: a refusal, a violated database constraint (by its name), or any other
exception that reaches the caller unhandled. -/
inductive Failure where
  | app (e : AppError)
  | integrity (constraint : String)
  | unhandled (exception : String)
deriving DecidableEq, Repr

/-- The failure is an `AppError`. -/
def Failure.isRefusal : Failure → Bool
  | .app _ => true
  | _ => false

end Fanfolio
