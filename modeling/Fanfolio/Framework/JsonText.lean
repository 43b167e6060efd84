import Fanfolio.Framework.JsonValue
import Mathlib.Tactic.IntervalCases

/-!
# JSON texts

A text is written in ASCII without white space, and characters beyond ASCII are escaped in UTF-16.
What is read may be any document. The reader is one of any numbers, which it is told how to read;
a surrogate on its own is read as a replacement character.
-/

namespace Framework.JsonText

/-- The value of a hexadecimal digit. -/
def hexValue (c : Char) : Option Nat :=
  if '0' ≤ c ∧ c ≤ '9' then some (c.toNat - 48)
  else if 'a' ≤ c ∧ c ≤ 'f' then some (c.toNat - 87)
  else if 'A' ≤ c ∧ c ≤ 'F' then some (c.toNat - 55)
  else none

/-- The four digits of a unit of UTF-16. -/
def unitDigits (unit : Nat) : List Char :=
  [(unit / 4096).digitChar, (unit / 256 % 16).digitChar, (unit / 16 % 16).digitChar,
    (unit % 16).digitChar]

def escapeUnit (unit : Nat) : List Char := '\\' :: 'u' :: unitDigits unit

/-- The letter of a short escape and the character it stands for. -/
def shortEscapes : List (Char × Char) :=
  [('"', '"'), ('\\', '\\'), ('n', '\n'), ('r', '\r'), ('t', '\t'), ('f', Char.ofNat 12),
    ('b', Char.ofNat 8)]

def escapeChar (c : Char) : List Char :=
  match shortEscapes.find? (·.2 == c) with
  | some (letter, _) => ['\\', letter]
  | none =>
    if 32 ≤ c.toNat ∧ c.toNat ≤ 126 then [c]
    else if c.toNat < 0x10000 then escapeUnit c.toNat
    else escapeUnit (0xD800 + (c.toNat - 0x10000) / 1024) ++
      escapeUnit (0xDC00 + (c.toNat - 0x10000) % 1024)

def quoted (s : String) : List Char := '"' :: s.toList.flatMap escapeChar ++ ['"']

def intText (n : Int) : List Char :=
  if n < 0 then '-' :: Nat.toDigits 10 n.natAbs else Nat.toDigits 10 n.natAbs

/-- The values of a flat object. -/
inductive Scalar where
  | str (s : String)
  | int (n : Int)
deriving DecidableEq, Repr

def Scalar.text : Scalar → List Char
  | .str s => quoted s
  | .int n => intText n

def memberText (member : String × Scalar) : List Char := quoted member.1 ++ ':' :: member.2.text

/-- The members up to the closing brace. -/
def membersText : List (String × Scalar) → List Char
  | [] => ['}']
  | [member] => memberText member ++ ['}']
  | member :: rest => memberText member ++ ',' :: membersText rest

/-- `json.dumps(..., separators=(",", ":"))` of a flat object. -/
def dumps (members : List (String × Scalar)) : List Char := '{' :: membersText members

def isSpace (c : Char) : Bool := c = ' ' ∨ c = '\t' ∨ c = '\n' ∨ c = '\r'

def skipSpace (text : List Char) : List Char := text.dropWhile isSpace

/-- What follows a character. -/
def expect (c : Char) : List Char → Option (List Char)
  | [] => none
  | c' :: rest => if c' = c then some rest else none

/-- A unit of UTF-16 in four hexadecimal digits. -/
def readUnit : List Char → Option (Nat × List Char)
  | a :: b :: c :: d :: rest => do
    return ((← hexValue a) * 4096 + (← hexValue b) * 256 + (← hexValue c) * 16 + (← hexValue d),
      rest)
  | _ => none

def isHigh (unit : Nat) : Bool := 0xD800 ≤ unit ∧ unit ≤ 0xDBFF

def isLow (unit : Nat) : Bool := 0xDC00 ≤ unit ∧ unit ≤ 0xDFFF

/-- The character of a unit. -/
def unitChar (unit : Nat) : Char :=
  if isHigh unit ∨ isLow unit then Char.ofNat 0xFFFD else Char.ofNat unit

/-- The character of one or two units, after the first `\u`. -/
def readUnits (text : List Char) : Option (Char × List Char) := do
  let (unit, rest) ← readUnit text
  match isHigh unit, (expect '\\' rest).bind (expect 'u') with
  | true, some rest' => do
    let (low, rest') ← readUnit rest'
    if isLow low then
      return (Char.ofNat (0x10000 + (unit - 0xD800) * 1024 + (low - 0xDC00)), rest')
    else return (unitChar unit, rest)
  | _, _ => return (unitChar unit, rest)

/-- The character of an escape, after the backslash. -/
def readEscape : List Char → Option (Char × List Char)
  | [] => none
  | letter :: rest =>
    if letter = 'u' then readUnits rest
    else if letter = '/' then some ('/', rest)
    else (shortEscapes.lookup letter).map (·, rest)

/-- The characters up to the closing quote. -/
def readChars : Nat → List Char → Option (List Char × List Char)
  | 0, _ => none
  | _ + 1, [] => none
  | fuel + 1, c :: rest =>
    if c = '"' then some ([], rest)
    else if c = '\\' then do
      let (c, rest) ← readEscape rest
      let (chars, rest) ← readChars fuel rest
      return (c :: chars, rest)
    else if c.toNat ≤ 31 then none
    else do
      let (chars, rest) ← readChars fuel rest
      return (c :: chars, rest)

/-- A string; no character of it is longer than what is read of it. -/
def readString (text : List Char) : Option (String × List Char) := do
  let rest ← expect '"' text
  let (chars, rest) ← readChars text.length rest
  return (String.ofList chars, rest)

/-- How numbers are read, an integer with its sign. -/
structure NumberReader (ν : Type) where
  int : List Char → Option ν
  float : List Char → ν
  nan : ν
  infinity : (negative : Bool) → ν

def signPart (signs : List Char) : List Char → List Char
  | [] => []
  | c :: _ => if c ∈ signs then [c] else []

/-- The digits of an integer, which are one zero or do not begin with one. -/
def integerPart : List Char → List Char
  | [] => []
  | c :: rest => if c = '0' then ['0'] else (c :: rest).takeWhile Char.isDigit

def fractionPart : List Char → List Char
  | [] => []
  | c :: rest =>
    let digits := rest.takeWhile Char.isDigit
    if c = '.' ∧ digits ≠ [] then c :: digits else []

def exponentPart : List Char → List Char
  | [] => []
  | c :: rest =>
    let sign := signPart ['+', '-'] rest
    let digits := (rest.drop sign.length).takeWhile Char.isDigit
    if (c = 'e' ∨ c = 'E') ∧ digits ≠ [] then c :: sign ++ digits else []

variable {ν : Type} (numbers : NumberReader ν)

/-- A number, if there is one; an integer may be too long to be read. -/
def readNumber (text : List Char) : Option (Option ν × List Char) :=
  let sign := signPart ['-'] text
  let digits := integerPart (text.drop sign.length)
  if digits = [] then none
  else
    let rest := text.drop (sign.length + digits.length)
    let fraction := fractionPart rest
    let exponent := exponentPart (rest.drop fraction.length)
    if fraction = [] ∧ exponent = [] then some (numbers.int (sign ++ digits), rest)
    else some (some (numbers.float (sign ++ digits ++ fraction ++ exponent)),
      rest.drop (fraction.length + exponent.length))

def constants : List (String × JsonValue ν) :=
  [("null", .null), ("true", .bool true), ("false", .bool false), ("NaN", .num numbers.nan),
    ("Infinity", .num (numbers.infinity false)), ("-Infinity", .num (numbers.infinity true))]

def readConstant (text : List Char) : Option (JsonValue ν × List Char) :=
  (constants numbers).findSome? fun (name, value) =>
    if name.toList.isPrefixOf text then some (value, text.drop name.length) else none

/-- A number or a constant. -/
def readAtom (text : List Char) : Option (JsonValue ν × List Char) :=
  match readNumber numbers text with
  | some (n, rest) => n.map fun n => (.num n, rest)
  | none => readConstant numbers text

mutual

/-- A value at the front of a text. -/
def readValue : Nat → List Char → Option (JsonValue ν × List Char)
  | 0, _ => none
  | _ + 1, [] => none
  | fuel + 1, c :: rest =>
    if c = '"' then do
      let (s, rest) ← readString (c :: rest)
      return (.str s, rest)
    else if c = '{' then
      match expect '}' (skipSpace rest) with
      | some rest => some (.obj [], rest)
      | none =>
        (readMembers fuel [] (skipSpace rest)).map fun (entries, rest) => (.obj entries, rest)
    else if c = '[' then
      match expect ']' (skipSpace rest) with
      | some rest => some (.arr [], rest)
      | none => (readItems fuel (skipSpace rest)).map fun (items, rest) => (.arr items, rest)
    else readAtom numbers (c :: rest)

/-- The members of an object, after those that were read. -/
def readMembers : Nat → JsonEntries ν → List Char → Option (JsonEntries ν × List Char)
  | 0, _, _ => none
  | fuel + 1, entries, text => do
    let (key, rest) ← readString text
    let rest ← expect ':' (skipSpace rest)
    let (value, rest) ← readValue fuel (skipSpace rest)
    let entries := entries.set key value
    match expect '}' (skipSpace rest) with
    | some rest => return (entries, rest)
    | none => do
      let rest ← expect ',' (skipSpace rest)
      readMembers fuel entries (skipSpace rest)

/-- The items of an array. -/
def readItems : Nat → List Char → Option (List (JsonValue ν) × List Char)
  | 0, _ => none
  | fuel + 1, text => do
    let (item, rest) ← readValue fuel text
    match expect ']' (skipSpace rest) with
    | some rest => return ([item], rest)
    | none => do
      let rest ← expect ',' (skipSpace rest)
      let (items, rest) ← readItems fuel (skipSpace rest)
      return (item :: items, rest)

end

/-- `json.loads` of a text. -/
def loads (text : List Char) : Option (JsonValue ν) := do
  let (value, rest) ← readValue numbers (text.length + 1) (skipSpace text)
  if skipSpace rest = [] then return value else none

theorem hexValue_digitChar : ∀ n < 16, hexValue n.digitChar = some n := by decide

section

variable {c : Char} {rest : List Char}

theorem readUnit_digits {unit : Nat} (h : unit < 0x10000) :
    readUnit (unitDigits unit ++ rest) = some (unit, rest) := by
  simp only [unitDigits, List.cons_append, List.nil_append, readUnit,
    hexValue_digitChar (unit / 4096) (by omega), hexValue_digitChar (unit / 256 % 16) (by omega),
    hexValue_digitChar (unit / 16 % 16) (by omega), hexValue_digitChar (unit % 16) (by omega),
    Option.bind_eq_bind, Option.bind_some, Option.pure_def, Option.some.injEq, Prod.mk.injEq,
    and_true]
  omega

/-- A character is no surrogate. -/
theorem toNat_cases (c : Char) :
    c.toNat < 0xD800 ∨ (0xDFFF < c.toNat ∧ c.toNat < 0x110000) := c.valid

theorem readUnits_basic (h : c.toNat < 0x10000) :
    readUnits (unitDigits c.toNat ++ rest) = some (c, rest) := by
  have hcases := toNat_cases c
  have hhigh : isHigh c.toNat = false := by simp [isHigh]; omega
  have hlow : isLow c.toNat = false := by simp [isLow]; omega
  simp [readUnits, readUnit_digits h, hhigh, unitChar, hlow]

/-- Two units are one character beyond the basic plane. -/
theorem readUnits_pair {high low : Nat} (hhigh : isHigh high) (hlow : isLow low) :
    readUnits (unitDigits high ++ (escapeUnit low ++ rest)) =
      some (Char.ofNat (0x10000 + (high - 0xD800) * 1024 + (low - 0xDC00)), rest) := by
  have hhigh' : high < 0x10000 := by
    simp only [isHigh, decide_eq_true_eq] at hhigh
    omega
  have hlow' : low < 0x10000 := by
    simp only [isLow, decide_eq_true_eq] at hlow
    omega
  simp only [readUnits, readUnit_digits hhigh', readUnit_digits hlow', escapeUnit,
    List.cons_append, expect, if_true, Option.bind_eq_bind, Option.bind_some, hhigh, hlow,
    Option.pure_def]

theorem readUnits_beyond (h : 0x10000 ≤ c.toNat) :
    readUnits (unitDigits (0xD800 + (c.toNat - 0x10000) / 1024) ++
      (escapeUnit (0xDC00 + (c.toNat - 0x10000) % 1024) ++ rest)) = some (c, rest) := by
  have hcases := toNat_cases c
  have hhigh : isHigh (0xD800 + (c.toNat - 0x10000) / 1024) := by
    simp only [isHigh, decide_eq_true_eq]
    omega
  have hlow : isLow (0xDC00 + (c.toNat - 0x10000) % 1024) := by
    simp only [isLow, decide_eq_true_eq]
    omega
  have hjoin : 0x10000 + (0xD800 + (c.toNat - 0x10000) / 1024 - 0xD800) * 1024 +
      (0xDC00 + (c.toNat - 0x10000) % 1024 - 0xDC00) = c.toNat := by omega
  rw [readUnits_pair hhigh hlow, hjoin, Char.ofNat_toNat]

theorem shortEscapes_read : ∀ entry ∈ shortEscapes,
    entry.1 ≠ 'u' ∧ entry.1 ≠ '/' ∧ shortEscapes.lookup entry.1 = some entry.2 := by
  decide

theorem readChars_escape {fuel : Nat} {text : List Char} (h : readEscape text = some (c, rest)) :
    readChars (fuel + 1) ('\\' :: text) =
      (readChars fuel rest).map fun (chars, rest) => (c :: chars, rest) := by
  have hquote : '\\' ≠ '"' := by decide
  simp only [readChars, if_neg hquote, if_true, h, Option.bind_eq_bind, Option.bind_some]
  cases readChars fuel rest <;> rfl

/-- The reader takes back one character that was written. -/
theorem readChars_escapeChar (fuel : Nat) : readChars (fuel + 1) (escapeChar c ++ rest) =
    (readChars fuel rest).map fun (chars, rest) => (c :: chars, rest) := by
  have hunits : ∀ text, readEscape ('u' :: text) = readUnits text := fun text => by
    simp [readEscape]
  rw [escapeChar]
  split
  · rename_i letter c' hfound
    have hchar : c' = c := by simpa using List.find?_some hfound
    obtain ⟨hunit, hslash, hletter⟩ := shortEscapes_read _ (List.mem_of_find?_eq_some hfound)
    apply readChars_escape
    change readEscape (letter :: rest) = some (c, rest)
    rw [readEscape, if_neg hunit, if_neg hslash, hletter, hchar]
    rfl
  · rename_i hfound
    split_ifs with hplain hbasic
    · have hquote : c ≠ '"' := by
        rintro rfl
        exact absurd hfound (by decide)
      have hescape : c ≠ '\\' := by
        rintro rfl
        exact absurd hfound (by decide)
      have hcontrol : ¬c.toNat ≤ 31 := by omega
      simp only [List.cons_append, List.nil_append, readChars, if_neg hquote, if_neg hescape,
        if_neg hcontrol]
      cases readChars fuel rest <;> rfl
    · apply readChars_escape
      exact (hunits _).trans (readUnits_basic hbasic)
    · rw [List.append_assoc]
      apply readChars_escape
      exact (hunits _).trans (readUnits_beyond (not_lt.mp hbasic))

theorem readChars_quoted {chars : List Char} {fuel : Nat} (h : chars.length < fuel) :
    readChars fuel (chars.flatMap escapeChar ++ '"' :: rest) = some (chars, rest) := by
  induction chars generalizing fuel with
  | nil =>
    obtain ⟨fuel, rfl⟩ := Nat.exists_eq_succ_of_ne_zero (Nat.ne_of_gt h)
    simp [readChars]
  | cons c chars ih =>
    obtain ⟨fuel, rfl⟩ := Nat.exists_eq_succ_of_ne_zero (Nat.ne_of_gt (Nat.zero_lt_of_lt h))
    rw [List.flatMap_cons, List.append_assoc, Nat.succ_eq_add_one, readChars_escapeChar,
      ih (by simpa using h)]
    rfl

theorem length_escapeChar_pos (c : Char) : 1 ≤ (escapeChar c).length := by
  rw [escapeChar]
  split
  · simp
  · split_ifs <;> simp [escapeUnit]

theorem length_le_escaped (chars : List Char) :
    chars.length ≤ (chars.flatMap escapeChar).length := by
  induction chars with
  | nil => simp
  | cons c chars ih =>
    have hpos := length_escapeChar_pos c
    rw [List.flatMap_cons, List.length_append, List.length_cons]
    omega

theorem readString_quoted (s : String) : readString (quoted s ++ rest) = some (s, rest) := by
  have hfront : quoted s ++ rest = '"' :: (s.toList.flatMap escapeChar ++ '"' :: rest) := by
    simp [quoted]
  have hfuel : s.toList.length < (quoted s ++ rest).length := by
    have hle := length_le_escaped s.toList
    rw [hfront]
    simp only [List.length_cons, List.length_append]
    omega
  have hexpect :
      expect '"' (quoted s ++ rest) = some (s.toList.flatMap escapeChar ++ '"' :: rest) := by
    rw [hfront, expect, if_pos rfl]
  simp only [readString, hexpect, Option.bind_eq_bind, Option.bind_some, readChars_quoted hfuel,
    Option.pure_def, String.ofList_toList]

end

section

variable {numbers} {c : Char} {rest : List Char}

theorem isDigit_of_mem {k : Nat} {d : Char} (h : d ∈ Nat.toDigits 10 k) : d.isDigit :=
  Nat.isDigit_of_mem_toDigits (by decide) le_rfl h

/-- Only the digits of zero begin with a zero. -/
theorem toDigits_head {k : Nat} (h : 0 < k) :
    ∃ d digits, Nat.toDigits 10 k = d :: digits ∧ d ≠ '0' := by
  induction k using Nat.strong_induction_on with
  | _ k ih =>
    by_cases hsmall : k < 10
    · refine ⟨k.digitChar, [], Nat.toDigits_of_lt_base hsmall, ?_⟩
      interval_cases k <;> decide
    · obtain ⟨d, digits, hdigits, hd⟩ := ih (k / 10) (by omega) (by omega)
      exact ⟨d, digits ++ [(k % 10).digitChar],
        by rw [Nat.toDigits_of_base_le (by decide) (by omega), hdigits, List.cons_append], hd⟩

theorem takeWhile_toDigits (k : Nat) (hc : c.isDigit = false) :
    (Nat.toDigits 10 k ++ c :: rest).takeWhile Char.isDigit = Nat.toDigits 10 k := by
  rw [List.takeWhile_append_of_pos fun d => isDigit_of_mem,
    List.takeWhile_cons_of_neg (by simp [hc]), List.append_nil]

theorem integerPart_toDigits (k : Nat) (hc : c.isDigit = false) :
    integerPart (Nat.toDigits 10 k ++ c :: rest) = Nat.toDigits 10 k := by
  have htake : (Nat.toDigits 10 k ++ c :: rest).takeWhile Char.isDigit = Nat.toDigits 10 k :=
    takeWhile_toDigits k hc
  rcases Nat.eq_zero_or_pos k with rfl | hpos
  · rfl
  · obtain ⟨d, digits, hdigits, hd⟩ := toDigits_head hpos
    rw [hdigits, List.cons_append] at htake ⊢
    rw [integerPart, if_neg hd, htake]

/-- Digits that are followed by something else are an integer. -/
theorem readNumber_toDigits (sign : List Char) (hsign : sign = [] ∨ sign = ['-']) (k : Nat)
    (hc : c.isDigit = false) (hdot : c ≠ '.') (hexp : ¬(c = 'e' ∨ c = 'E')) :
    readNumber numbers (sign ++ (Nat.toDigits 10 k ++ c :: rest)) =
      some (numbers.int (sign ++ Nat.toDigits 10 k), c :: rest) := by
  have hpart : signPart ['-'] (sign ++ (Nat.toDigits 10 k ++ c :: rest)) = sign := by
    rcases hsign with rfl | rfl
    · obtain ⟨d, digits, hdigits⟩ :=
        List.exists_cons_of_ne_nil (Nat.toDigits_ne_nil (n := k) (b := 10))
      have hd : d ≠ '-' := by
        rintro rfl
        exact absurd (isDigit_of_mem (k := k) (hdigits ▸ List.mem_cons_self)) (by decide)
      simp [hdigits, signPart, hd]
    · simp [signPart]
  have hrest : (sign ++ (Nat.toDigits 10 k ++ c :: rest)).drop
      (sign.length + (Nat.toDigits 10 k).length) = c :: rest := by
    rw [← List.append_assoc, ← List.length_append, List.drop_left]
  have hfraction : fractionPart (c :: rest) = [] := by simp [fractionPart, hdot]
  have hexponent : exponentPart (c :: rest) = [] := by
    rw [exponentPart, if_neg]
    exact fun h => hexp h.1
  simp only [readNumber, hpart, List.drop_left, integerPart_toDigits k hc, Nat.toDigits_ne_nil,
    if_false, hrest, hfraction, List.length_nil, List.drop_zero, hexponent, and_self, if_true]

theorem readAtom_intText {n : Int} {m : ν} (hint : numbers.int (intText n) = some m)
    (hc : c.isDigit = false) (hdot : c ≠ '.') (hexp : ¬(c = 'e' ∨ c = 'E')) :
    readAtom numbers (intText n ++ c :: rest) = some (.num m, c :: rest) := by
  have hnumber : readNumber numbers (intText n ++ c :: rest) =
      some (numbers.int (intText n), c :: rest) := by
    rw [intText]
    split
    · exact readNumber_toDigits ['-'] (.inr rfl) _ hc hdot hexp
    · exact readNumber_toDigits [] (.inl rfl) _ hc hdot hexp
  simp only [readAtom, hnumber, hint, Option.map_some]

theorem intText_head (n : Int) : ∃ d digits, intText n = d :: digits ∧ (d = '-' ∨ d.isDigit) := by
  rw [intText]
  split
  · exact ⟨'-', _, rfl, .inl rfl⟩
  · obtain ⟨d, digits, hdigits⟩ :=
      List.exists_cons_of_ne_nil (Nat.toDigits_ne_nil (n := n.natAbs) (b := 10))
    exact ⟨d, digits, hdigits, .inr (isDigit_of_mem (hdigits ▸ List.mem_cons_self))⟩

end

theorem skipSpace_cons {c : Char} {rest : List Char} (h : isSpace c = false) :
    skipSpace (c :: rest) = c :: rest :=
  List.dropWhile_cons_of_neg (by simp [h])

theorem expect_skipSpace {c : Char} {rest : List Char} (h : isSpace c = false) :
    expect c (skipSpace (c :: rest)) = some rest := by
  rw [skipSpace_cons h, expect, if_pos rfl]

/-- What a value is read as. -/
def Scalar.value (ofInt : Int → ν) : Scalar → JsonValue ν
  | .str s => .str s
  | .int n => .num (ofInt n)

/-- The entries after the members of a flat object. -/
def entriesOf (ofInt : Int → ν) (entries : JsonEntries ν) (members : List (String × Scalar)) :
    JsonEntries ν :=
  members.foldl (fun entries member => entries.set member.1 (member.2.value ofInt)) entries

/-- The integers of a flat object can be read. -/
def IntsRead (numbers : NumberReader ν) (ofInt : Int → ν) (members : List (String × Scalar)) :
    Prop :=
  ∀ key n, (key, .int n) ∈ members → numbers.int (intText n) = some (ofInt n)

section

variable {numbers} {ofInt : Int → ν} {c : Char} {rest : List Char}

theorem Scalar.skipSpace_text (value : Scalar) :
    skipSpace (value.text ++ rest) = value.text ++ rest := by
  cases value with
  | str s => exact skipSpace_cons (by decide)
  | int n =>
    obtain ⟨d, digits, hdigits, hd⟩ := intText_head n
    have hspace : isSpace d = false := by
      rw [isSpace, decide_eq_false_iff_not]
      rintro (rfl | rfl | rfl | rfl) <;> exact absurd hd (by decide)
    rw [Scalar.text, hdigits]
    exact skipSpace_cons hspace

/-- A value is read back if a comma or a brace follows it. -/
theorem readValue_scalar (value : Scalar) (fuel : Nat)
    (hint : ∀ n, value = .int n → numbers.int (intText n) = some (ofInt n))
    (hc : c = ',' ∨ c = '}') :
    readValue numbers (fuel + 1) (value.text ++ c :: rest) =
      some (value.value ofInt, c :: rest) := by
  cases value with
  | str s =>
    have hread : readString (quoted s ++ c :: rest) = some (s, c :: rest) := readString_quoted s
    rw [Scalar.text]
    rw [quoted, List.cons_append, List.cons_append] at hread ⊢
    rw [readValue, if_pos rfl, hread]
    rfl
  | int n =>
    obtain ⟨d, digits, hdigits, hd⟩ := intText_head n
    have hatom : readAtom numbers (intText n ++ c :: rest) = some (.num (ofInt n), c :: rest) := by
      rcases hc with rfl | rfl
      · exact readAtom_intText (hint n rfl) (by decide) (by decide) (by decide)
      · exact readAtom_intText (hint n rfl) (by decide) (by decide) (by decide)
    have hquote : d ≠ '"' ∧ d ≠ '{' ∧ d ≠ '[' := by
      refine ⟨?_, ?_, ?_⟩ <;> rintro rfl <;> exact absurd hd (by decide)
    rw [Scalar.text]
    rw [hdigits, List.cons_append] at hatom ⊢
    rw [readValue, if_neg hquote.1, if_neg hquote.2.1, if_neg hquote.2.2, hatom]
    rfl

/-- The last member. -/
theorem readMembers_last {member : String × Scalar} {entries : JsonEntries ν} (fuel : Nat)
    (hint : IntsRead numbers ofInt [member]) :
    readMembers numbers (fuel + 2) entries (memberText member ++ '}' :: rest) =
      some (entries.set member.1 (member.2.value ofInt), rest) := by
  obtain ⟨key, value⟩ := member
  have hvalue : readValue numbers (fuel + 1) (value.text ++ '}' :: rest) =
      some (value.value ofInt, '}' :: rest) :=
    readValue_scalar value fuel (fun n hn => hint key n (by simp [hn])) (.inr rfl)
  have hcolon : ∀ text, expect ':' (skipSpace (':' :: text)) = some text := fun text =>
    expect_skipSpace (by decide)
  have hbrace : expect '}' (skipSpace ('}' :: rest)) = some rest := expect_skipSpace (by decide)
  rw [memberText, readMembers, List.append_assoc]
  simp only [readString_quoted, List.cons_append, Option.bind_eq_bind, Option.bind_some, hcolon,
    Scalar.skipSpace_text, hvalue, hbrace, Option.pure_def]

/-- A member before another one. -/
theorem readMembers_more {member : String × Scalar} {entries : JsonEntries ν} (fuel : Nat)
    (hint : IntsRead numbers ofInt [member]) :
    readMembers numbers (fuel + 2) entries (memberText member ++ ',' :: rest) =
      readMembers numbers (fuel + 1) (entries.set member.1 (member.2.value ofInt))
        (skipSpace rest) := by
  obtain ⟨key, value⟩ := member
  have hvalue : readValue numbers (fuel + 1) (value.text ++ ',' :: rest) =
      some (value.value ofInt, ',' :: rest) :=
    readValue_scalar value fuel (fun n hn => hint key n (by simp [hn])) (.inl rfl)
  have hcolon : ∀ text, expect ':' (skipSpace (':' :: text)) = some text := fun text =>
    expect_skipSpace (by decide)
  have hcomma : expect ',' (skipSpace (',' :: rest)) = some rest := expect_skipSpace (by decide)
  have hbrace : expect '}' (skipSpace (',' :: rest)) = none := by
    rw [skipSpace_cons (by decide)]
    rfl
  rw [memberText, readMembers, List.append_assoc]
  simp only [readString_quoted, List.cons_append, Option.bind_eq_bind, Option.bind_some, hcolon,
    Scalar.skipSpace_text, hvalue, hbrace, hcomma]

theorem membersText_head (member : String × Scalar) (members : List (String × Scalar)) :
    ∃ rest, membersText (member :: members) = '"' :: rest := by
  cases members with
  | nil => exact ⟨_, rfl⟩
  | cons next members => exact ⟨_, rfl⟩

theorem length_le_membersText (members : List (String × Scalar)) :
    members.length ≤ (membersText members).length := by
  induction members with
  | nil => simp
  | cons member members ih =>
    cases members with
    | nil => simp [membersText]
    | cons next members =>
      simp only [membersText, List.length_append, List.length_cons] at ih ⊢
      omega

theorem readMembers_membersText {member : String × Scalar} {members : List (String × Scalar)}
    {entries : JsonEntries ν} (fuel : Nat) (hints : IntsRead numbers ofInt (member :: members))
    (hfuel : members.length ≤ fuel) :
    readMembers numbers (fuel + 2) entries (membersText (member :: members)) =
      some (entriesOf ofInt entries (member :: members), []) := by
  induction members generalizing member entries fuel with
  | nil => exact readMembers_last fuel hints
  | cons next members ih =>
    obtain ⟨fuel, rfl⟩ := Nat.exists_eq_add_of_le' (Nat.one_le_of_lt hfuel)
    obtain ⟨text, htext⟩ := membersText_head next members
    have hfirst : IntsRead numbers ofInt [member] := fun key n hn =>
      hints key n (List.mem_cons.mpr (.inl (List.mem_singleton.mp hn)))
    have hspace : skipSpace (membersText (next :: members)) = membersText (next :: members) := by
      rw [htext]
      exact skipSpace_cons (by decide)
    calc readMembers numbers (fuel + 1 + 2) entries (membersText (member :: next :: members))
        = readMembers numbers (fuel + 2) (entries.set member.1 (member.2.value ofInt))
            (skipSpace (membersText (next :: members))) := readMembers_more (fuel + 1) hfirst
      _ = some (entriesOf ofInt entries (member :: next :: members), []) := by
        rw [hspace, ih fuel (fun key n hn => hints key n (List.mem_cons_of_mem _ hn))
          (by simpa using hfuel)]
        rfl

/-- A flat object is read back. -/
theorem loads_dumps {members : List (String × Scalar)} (hints : IntsRead numbers ofInt members) :
    loads numbers (dumps members) = some (.obj (entriesOf ofInt [] members)) := by
  have hspace : skipSpace (dumps members) = dumps members := skipSpace_cons (by decide)
  have hvalue : readValue numbers ((dumps members).length + 1) (dumps members) =
      some (.obj (entriesOf ofInt [] members), []) := by
    cases members with
    | nil => rfl
    | cons member members =>
      obtain ⟨text, htext⟩ := membersText_head member members
      have hlength := length_le_membersText (member :: members)
      obtain ⟨fuel, hfuel⟩ : ∃ fuel, (dumps (member :: members)).length = fuel + 2 ∧
          members.length ≤ fuel := by
        refine ⟨(membersText (member :: members)).length - 1, ?_, ?_⟩
        · simp only [dumps, List.length_cons] at hlength ⊢
          omega
        · rw [List.length_cons] at hlength
          omega
      have hopen : skipSpace (membersText (member :: members)) = membersText (member :: members) ∧
          expect '}' (membersText (member :: members)) = none := by
        rw [htext]
        exact ⟨skipSpace_cons (by decide), rfl⟩
      rw [hfuel.1, dumps, readValue, if_neg (by decide), if_pos rfl, hopen.1, hopen.2]
      simp only [readMembers_membersText fuel hints hfuel.2, Option.map_some]
  simp only [loads, hspace, hvalue, Option.bind_eq_bind, Option.bind_some]
  rfl

end

end Framework.JsonText
