import Fanfolio.Framework.Checked
import Fanfolio.Framework.JsonValue
import Mathlib.Data.List.DropRight
import Mathlib.Data.Rat.Floor

/-!
# JSON documents in JavaScript

A program reads the fields of a document, of which each may be undefined, and converts values to
texts and to numbers. Numbers are rationals; their texts are a parameter. A conversion throws where
an object has a `toString` of its own, since that is no function.
-/

namespace Framework

inductive JsError where
  | typeError
deriving DecidableEq, Repr

/-- A value, or undefined. -/
abbrev JsField := Option (JsonValue ℚ)

/-- White space and the ends of lines. -/
def isJsSpace (c : Char) : Bool :=
  let n := c.toNat
  (9 ≤ n && n ≤ 13) || n == 32 || n == 0xA0 || n == 0x1680 || (0x2000 ≤ n && n ≤ 0x200A) ||
    n == 0x2028 || n == 0x2029 || n == 0x202F || n == 0x205F || n == 0x3000 || n == 0xFEFF

/-- The characters of `trim`. -/
def jsTrim (chars : List Char) : List Char := (chars.dropWhile isJsSpace).rdropWhile isJsSpace

/-- The value of a digit in a radix of at most 16. -/
def digitValue (c : Char) : Option Nat :=
  if c.isDigit then some (c.toNat - 48)
  else if 'a' ≤ c ∧ c ≤ 'f' then some (c.toNat - 87)
  else if 'A' ≤ c ∧ c ≤ 'F' then some (c.toNat - 55)
  else none

/-- The number that digits stand for, of which there is at least one. -/
def readDigits (radix : Nat) : List Char → Option Nat
  | [] => none
  | chars => chars.foldlM (fun n c => ((digitValue c).filter (· < radix)).map (radix * n + ·)) 0

/-- The part of a decimal number behind its digits. -/
def readExponent : List Char → Option Int
  | [] => some 0
  | 'e' :: rest | 'E' :: rest =>
    match rest with
    | '-' :: digits => (readDigits 10 digits).map fun n => -(n : Int)
    | '+' :: digits => (readDigits 10 digits).map fun n => (n : Int)
    | digits => (readDigits 10 digits).map fun n => (n : Int)
  | _ => none

/-- A decimal number without a sign. -/
def readDecimal (chars : List Char) : Option ℚ := do
  let (whole, rest) := chars.span Char.isDigit
  let (fraction, rest) := match rest with
    | '.' :: rest => rest.span Char.isDigit
    | rest => ([], rest)
  let digits ← readDigits 10 (whole ++ fraction)
  let exponent ← readExponent rest
  return (digits : ℚ) * 10 ^ (exponent - fraction.length)

/-- The number in a text, if it is finite. -/
def readNumber (s : String) : Option ℚ :=
  match jsTrim s.toList with
  | [] => some 0
  | '0' :: 'x' :: digits | '0' :: 'X' :: digits => (readDigits 16 digits).map (↑·)
  | '0' :: 'o' :: digits | '0' :: 'O' :: digits => (readDigits 8 digits).map (↑·)
  | '0' :: 'b' :: digits | '0' :: 'B' :: digits => (readDigits 2 digits).map (↑·)
  | '-' :: rest => (readDecimal rest).map (-·)
  | '+' :: rest => readDecimal rest
  | rest => readDecimal rest

/-- The text of a number that is a small integer. -/
def integerText (q : ℚ) : String := toString q.num

/-- `dividend % divisor`. -/
def jsRemainder (dividend divisor : ℚ) : ℚ :=
  let quotient := dividend / divisor
  dividend - divisor * (quotient.num.tdiv quotient.den : Int)

namespace JsonValue

mutual

/-- The value has a text: there is no `toString` on the way. -/
def hasText : JsonValue ℚ → Bool
  | .arr items => haveTexts items
  | .obj entries => (entries.lookup "toString").isNone
  | _ => true

def haveTexts : List (JsonValue ℚ) → Bool
  | [] => true
  | item :: rest => hasText item && haveTexts rest

end

mutual

/-- `String(value)`. -/
def text (numbers : ℚ → String) : JsonValue ℚ → Except JsError String
  | .null => .ok "null"
  | .bool b => .ok (if b then "true" else "false")
  | .num q => .ok (numbers q)
  | .str s => .ok s
  | .arr items => (",".intercalate ·) <$> itemTexts numbers items
  | .obj entries =>
    if (entries.lookup "toString").isNone then .ok "[object Object]" else .error .typeError

/-- The texts that an array joins: none for null. -/
def itemTexts (numbers : ℚ → String) : List (JsonValue ℚ) → Except JsError (List String)
  | [] => .ok []
  | .null :: rest => ("" :: ·) <$> itemTexts numbers rest
  | item :: rest => do
    let first ← text numbers item
    (first :: ·) <$> itemTexts numbers rest

end

/-- The value counts as true. -/
def truthy : JsonValue ℚ → Bool
  | .null => false
  | .bool b => b
  | .num q => q ≠ 0
  | .str s => s ≠ ""
  | .arr _ | .obj _ => true

/-- The fields of a value; only an object has any. -/
def fields : JsonValue ℚ → JsonEntries ℚ
  | .obj entries => entries
  | _ => []

/-- The own properties that `...value` copies; those of a text are its characters. -/
def ownEntries : JsonValue ℚ → JsonEntries ℚ
  | .obj entries => entries
  | .arr items => items.mapIdx fun index item => (toString index, item)
  | .str s => s.toList.mapIdx fun index c => (toString index, .str (String.singleton c))
  | _ => []

end JsonValue

namespace JsField

/-- `value ?? other`. -/
def coalesce : JsField → JsField → JsField
  | none, other | some .null, other => other
  | value, _ => value

def truthy (value : JsField) : Bool := value.any JsonValue.truthy

/-- `value || other`. -/
def orElse (value other : JsField) : JsField := if value.truthy then value else other

/-- The text that the value is, if it is one. -/
def asText : JsField → Option String
  | some (.str s) => some s
  | _ => none

def hasText (value : JsField) : Bool := value.all JsonValue.hasText

/-- `String(value)`, also the key under which a table is read. -/
def text (numbers : ℚ → String) : JsField → Except JsError String
  | none => .ok "undefined"
  | some value => value.text numbers

/-- `Number(value)`, if it is finite. -/
def number (numbers : ℚ → String) : JsField → Except JsError (Option ℚ)
  | none => .ok none
  | some .null => .ok (some 0)
  | some (.bool b) => .ok (some (if b then 1 else 0))
  | some (.num q) => .ok (some q)
  | some (.str s) => .ok (readNumber s)
  | some value => readNumber <$> value.text numbers

/-- The fields of `value || \x7b\x7d`. -/
def fields (value : JsField) : JsonEntries ℚ := (value.map JsonValue.fields).getD []

/-- `...value`. -/
def spread (value : JsField) : JsonEntries ℚ := (value.map JsonValue.ownEntries).getD []

/-- `value?.key`; a property is read off an object only. -/
def get (value : JsField) (key : String) : JsField := value.fields.lookup key

end JsField

/-- The state of a program: properties, of which some may be there and undefined. -/
structure JsState where
  properties : List (String × JsField)

namespace JsState

def get (state : JsState) (key : String) : JsField := (state.properties.lookup key).join

/-- `Object.hasOwn`. -/
def hasOwn (state : JsState) (key : String) : Bool := (state.properties.lookup key).isSome

end JsState

/-- The names that every object inherits. -/
def inheritedNames : List String :=
  ["constructor", "__defineGetter__", "__defineSetter__", "hasOwnProperty", "__lookupGetter__",
    "__lookupSetter__", "isPrototypeOf", "propertyIsEnumerable", "toString", "valueOf", "__proto__",
    "toLocaleString"]

/-- What a table of texts answers: one of its texts, or what it inherits under the name. -/
inductive JsMember where
  | own (s : String)
  | inherited (name : String)
deriving DecidableEq, Repr

/-- `table[key]`. -/
def jsMember (table : List (String × String)) (key : String) : Option JsMember :=
  match table.lookup key with
  | some s => some (.own s)
  | none => if key ∈ inheritedNames then some (.inherited key) else none

def JsMember.asText : JsMember → Option String
  | .own s => some s
  | .inherited _ => none

section

variable (numbers : ℚ → String)

mutual

theorem JsonValue.text_ok_iff : ∀ value : JsonValue ℚ,
    (∃ s, value.text numbers = .ok s) ↔ value.hasText
  | .null | .bool _ | .num _ | .str _ => by simp [JsonValue.text, JsonValue.hasText]
  | .arr items => by
    simp only [JsonValue.text, map_ok, JsonValue.hasText, ← JsonValue.itemTexts_ok_iff items]
    constructor
    · rintro ⟨_, texts, h, -⟩
      exact ⟨texts, h⟩
    · rintro ⟨texts, h⟩
      exact ⟨_, texts, h, rfl⟩
  | .obj entries => by
    simp only [JsonValue.text, JsonValue.hasText]
    split <;> simp [*]

theorem JsonValue.itemTexts_ok_iff : ∀ items : List (JsonValue ℚ),
    (∃ texts, JsonValue.itemTexts numbers items = .ok texts) ↔ JsonValue.haveTexts items
  | [] => by simp [JsonValue.itemTexts, JsonValue.haveTexts]
  | item :: rest => by
    have hrest := JsonValue.itemTexts_ok_iff rest
    have hitem := JsonValue.text_ok_iff item
    rw [JsonValue.haveTexts, Bool.and_eq_true, ← hrest, ← hitem]
    cases item with
    | null => simp [JsonValue.itemTexts, JsonValue.text]
    | _ => simp [JsonValue.itemTexts]

end

namespace JsField

variable {value : JsField}

theorem text_ok_iff : (∃ s, value.text numbers = .ok s) ↔ value.hasText := by
  cases value with
  | none => simp [text, hasText]
  | some v => simp [text, hasText, v.text_ok_iff numbers]

theorem number_ok_iff : (∃ q, value.number numbers = .ok q) ↔ value.hasText := by
  cases value with
  | none => simp [number, hasText]
  | some v =>
    rw [hasText, Option.all_some, ← v.text_ok_iff numbers]
    cases v with
    | arr | obj => simp [number]
    | _ => simp [number, JsonValue.text]

end JsField

end

theorem JsField.asText_eq_some_iff {value : JsField} {s : String} :
    value.asText = some s ↔ value = some (.str s) := by
  rcases value with _ | v
  · simp [JsField.asText]
  · cases v <;> simp [JsField.asText]

/-- What is inherited is no text. -/
theorem jsMember_bind_asText (table : List (String × String)) (key : String) :
    (jsMember table key).bind JsMember.asText = table.lookup key := by
  unfold jsMember
  cases table.lookup key with
  | some s => rfl
  | none => by_cases h : key ∈ inheritedNames <;> simp [h, JsMember.asText]

theorem jsMember_of_not_mem {key : String} (h : key ∉ inheritedNames)
    (table : List (String × String)) : jsMember table key = (table.lookup key).map .own := by
  unfold jsMember
  cases table.lookup key with
  | some s => rfl
  | none => simp [h]

theorem jsMember_of_mem {table : List (String × String)} {key : String}
    (h : key ∈ inheritedNames) (htable : table.lookup key = none) :
    jsMember table key = some (.inherited key) := by
  rw [jsMember, htable]
  exact if_pos h

theorem JsonValue.truthy_eq_false_iff {value : JsonValue ℚ} :
    value.truthy = false ↔ value = .null ∨ value ∈ [.bool false, .num 0, .str ""] := by
  cases value <;> simp [JsonValue.truthy]

theorem JsField.coalesce_of_ne_null {value : JsonValue ℚ} (h : value ≠ .null) (other : JsField) :
    JsField.coalesce (some value) other = some value := by
  cases value with
  | null => exact absurd rfl h
  | _ => rfl

/-- The two ways to replace a value differ where it does not count as true. -/
theorem JsField.orElse_eq_coalesce {value : JsField}
    (h : ∀ v, value = some v → v ∉ [.bool false, .num 0, .str ""]) (other : JsField) :
    value.orElse other = value.coalesce other := by
  cases value with
  | none => rfl
  | some v =>
    cases hv : v.truthy with
    | true =>
      have hnull : v ≠ .null := by
        rintro rfl
        cases hv
      rw [JsField.orElse, JsField.truthy, Option.any_some, hv, if_pos rfl,
        JsField.coalesce_of_ne_null hnull]
    | false =>
      obtain rfl := (JsonValue.truthy_eq_false_iff.mp hv).resolve_right (h v rfl)
      rfl

/-- What does not count as true has a text. -/
theorem JsField.hasText_of_not_truthy {value : JsField} (h : value.truthy = false) :
    value.hasText := by
  rcases value with _ | v
  · rfl
  · rcases JsonValue.truthy_eq_false_iff.mp h with rfl | hv
    · rfl
    · simp only [List.mem_cons, List.not_mem_nil, or_false] at hv
      rcases hv with rfl | rfl | rfl <;> rfl

theorem JsField.hasText_orElse {other : JsField} (h : other.hasText) (value : JsField) :
    (value.orElse other).hasText = value.hasText := by
  cases htruthy : value.truthy with
  | true => rw [JsField.orElse, if_pos htruthy]
  | false =>
    rw [JsField.orElse, htruthy, if_neg Bool.false_ne_true, h,
      JsField.hasText_of_not_truthy htruthy]

theorem JsField.hasText_coalesce {other : JsField} (h : other.hasText) (value : JsField) :
    (value.coalesce other).hasText = value.hasText := by
  rcases value with _ | v
  · exact h
  · by_cases hnull : v = .null
    · subst hnull
      exact h
    · rw [JsField.coalesce_of_ne_null hnull]

/-- A rational is its integer part and a rest between -1 and 1. -/
theorem sub_tdiv_bounds (q : ℚ) :
    -1 < q - (q.num.tdiv q.den : Int) ∧ q - (q.num.tdiv q.den : Int) < 1 := by
  have hden : (0 : ℚ) < q.den := by exact_mod_cast q.den_pos
  have hsplit : q - (q.num.tdiv q.den : Int) = (q.num.tmod q.den : Int) / q.den := by
    rw [eq_div_iff hden.ne', sub_mul, Rat.mul_den_eq_num, sub_eq_iff_eq_add']
    exact_mod_cast (Int.mul_tdiv_add_tmod q.num q.den).symm.trans (by ring)
  have hlow : -(q.den : Int) < q.num.tmod q.den := Int.lt_tmod_of_pos _ (by exact_mod_cast q.den_pos)
  have hhigh : q.num.tmod q.den < q.den := Int.tmod_lt_of_pos _ (by exact_mod_cast q.den_pos)
  rw [hsplit, lt_div_iff₀ hden, div_lt_iff₀ hden, neg_one_mul, one_mul]
  exact ⟨by exact_mod_cast hlow, by exact_mod_cast hhigh⟩

theorem jsRemainder_bounds {divisor : ℚ} (h : 0 < divisor) (dividend : ℚ) :
    -divisor < jsRemainder dividend divisor ∧ jsRemainder dividend divisor < divisor := by
  obtain ⟨hlow, hhigh⟩ := sub_tdiv_bounds (dividend / divisor)
  have hsplit : jsRemainder dividend divisor = divisor * (dividend / divisor -
      ((dividend / divisor).num.tdiv (dividend / divisor).den : Int)) := by
    rw [jsRemainder, mul_sub, mul_div_cancel₀ _ h.ne']
  rw [hsplit]
  constructor <;> nlinarith

theorem jsRemainder_of_lt {dividend divisor : ℚ} (h0 : 0 ≤ dividend) (h : dividend < divisor) :
    jsRemainder dividend divisor = dividend := by
  have hdivisor : 0 < divisor := lt_of_le_of_lt h0 h
  have hquotient : (dividend / divisor).num.tdiv (dividend / divisor).den = 0 := by
    apply Int.tdiv_eq_zero_of_lt
    · exact Rat.num_nonneg.mpr (by positivity)
    · exact Rat.num_lt_denom_iff.mpr ((div_lt_one hdivisor).mpr h)
  rw [jsRemainder, hquotient]
  simp

end Framework
