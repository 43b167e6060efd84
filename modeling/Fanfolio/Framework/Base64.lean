import Mathlib.Data.List.Basic
import Mathlib.Data.Fintype.Basic

/-!
# Base64 without padding

Bytes are written in groups of three as four characters of the URL-safe alphabet, and the padding is
left out. The decoder reads what comes: it skips characters outside the alphabet, and stops at the
padding that ends a group.
-/

namespace Framework.Base64

/-- The alphabet. -/
def char (n : Nat) : Char :=
  if n < 26 then Char.ofNat (65 + n)
  else if n < 52 then Char.ofNat (71 + n)
  else if n < 62 then Char.ofNat (n - 4)
  else if n = 62 then '-' else '_'

/-- The value of a character; that of the standard alphabet is read as well. -/
def value (c : Char) : Option Nat :=
  if 'A' ≤ c ∧ c ≤ 'Z' then some (c.toNat - 65)
  else if 'a' ≤ c ∧ c ≤ 'z' then some (c.toNat - 71)
  else if '0' ≤ c ∧ c ≤ '9' then some (c.toNat + 4)
  else if c = '-' ∨ c = '+' then some 62
  else if c = '_' ∨ c = '/' then some 63
  else none

/-- `urlsafe_b64encode(value).rstrip(b"=")`. -/
def encode : List UInt8 → List Char
  | [] => []
  | [a] => [char (a.toNat / 4), char (a.toNat % 4 * 16)]
  | [a, b] =>
    [char (a.toNat / 4), char (a.toNat % 4 * 16 + b.toNat / 16), char (b.toNat % 16 * 4)]
  | a :: b :: c :: rest =>
    char (a.toNat / 4) :: char (a.toNat % 4 * 16 + b.toNat / 16) ::
      char (b.toNat % 16 * 4 + c.toNat / 64) :: char (c.toNat % 64) :: encode rest

/-- `a2b_base64`, with the characters of the group that were read, what is left of the last one, and
the padding after it. -/
def decodeFrom (position left pads : Nat) : List Char → Option (List UInt8)
  | [] => if position = 0 then some [] else none
  | c :: rest =>
    if c = '=' then
      if position < 2 then decodeFrom position left pads rest
      else if 4 ≤ position + (pads + 1) then some []
      else decodeFrom position left (pads + 1) rest
    else
      match value c with
      | none => decodeFrom position left pads rest
      | some n =>
        match position with
        | 0 => decodeFrom 1 n 0 rest
        | 1 => (decodeFrom 2 (n % 16) 0 rest).map (UInt8.ofNat (left * 4 + n / 16) :: ·)
        | 2 => (decodeFrom 3 (n % 4) 0 rest).map (UInt8.ofNat (left * 16 + n / 4) :: ·)
        | _ => (decodeFrom 0 0 0 rest).map (UInt8.ofNat (left * 64 + n) :: ·)

/-- `urlsafe_b64decode(value + "=" * (-len(value) % 4))`, of a text in ASCII. -/
def decode (chars : List Char) : Option (List UInt8) :=
  decodeFrom 0 0 0 (chars ++ List.replicate ((4 - chars.length % 4) % 4) '=')

/-- A character of the alphabet is ASCII, and neither padding nor a dot. -/
theorem char_spec : ∀ n < 64,
    value (char n) = some n ∧ char n ≠ '=' ∧ char n ≠ '.' ∧ (char n).toNat < 128 := by
  decide

section

variable {m n left pads : Nat} {rest : List Char}

theorem decodeFrom_first (hn : n < 64) :
    decodeFrom 0 left pads (char n :: rest) = decodeFrom 1 n 0 rest := by
  obtain ⟨hvalue, hpad, -⟩ := char_spec n hn
  simp only [decodeFrom, hpad, if_false, hvalue]

theorem decodeFrom_second (hn : n < 64) : decodeFrom 1 left pads (char n :: rest) =
    (decodeFrom 2 (n % 16) 0 rest).map (UInt8.ofNat (left * 4 + n / 16) :: ·) := by
  obtain ⟨hvalue, hpad, -⟩ := char_spec n hn
  simp only [decodeFrom, hpad, if_false, hvalue]

theorem decodeFrom_third (hn : n < 64) : decodeFrom 2 left pads (char n :: rest) =
    (decodeFrom 3 (n % 4) 0 rest).map (UInt8.ofNat (left * 16 + n / 4) :: ·) := by
  obtain ⟨hvalue, hpad, -⟩ := char_spec n hn
  simp only [decodeFrom, hpad, if_false, hvalue]

theorem decodeFrom_fourth (hn : n < 64) : decodeFrom 3 left pads (char n :: rest) =
    (decodeFrom 0 0 0 rest).map (UInt8.ofNat (left * 64 + n) :: ·) := by
  obtain ⟨hvalue, hpad, -⟩ := char_spec n hn
  simp only [decodeFrom, hpad, if_false, hvalue]

end

theorem ofNat_of_eq {a : UInt8} {n : Nat} (h : n = a.toNat) : UInt8.ofNat n = a := by
  rw [h]
  exact UInt8.ofNat_toNat

/-- Each character gives what it adds to the bytes of its group. -/
theorem decodeFrom_encode (bytes : List UInt8) :
    decodeFrom 0 0 0 (encode bytes ++ List.replicate ((4 - (encode bytes).length % 4) % 4) '=') =
      some bytes := by
  induction bytes using encode.induct with
  | case1 => rfl
  | case2 a =>
    have ha := a.toNat_lt
    simp only [encode, List.cons_append, List.nil_append, List.length_cons, List.length_nil]
    rw [decodeFrom_first (by omega), decodeFrom_second (by omega),
      ofNat_of_eq (a := a) (by omega)]
    rfl
  | case3 a b =>
    have ha := a.toNat_lt
    have hb := b.toNat_lt
    simp only [encode, List.cons_append, List.nil_append, List.length_cons, List.length_nil]
    rw [decodeFrom_first (by omega), decodeFrom_second (by omega), decodeFrom_third (by omega),
      ofNat_of_eq (a := a) (by omega), ofNat_of_eq (a := b) (by omega)]
    rfl
  | case4 a b c rest ih =>
    have ha := a.toNat_lt
    have hb := b.toNat_lt
    have hc := c.toNat_lt
    have hlength : (encode rest).length + 1 + 1 + 1 + 1 = (encode rest).length + 4 := rfl
    simp only [encode, List.cons_append, List.length_cons, hlength, Nat.add_mod_right]
    rw [decodeFrom_first (by omega), decodeFrom_second (by omega), decodeFrom_third (by omega),
      decodeFrom_fourth (by omega), ih, ofNat_of_eq (a := a) (by omega),
      ofNat_of_eq (a := b) (by omega), ofNat_of_eq (a := c) (by omega)]
    rfl

theorem decode_encode (bytes : List UInt8) : decode (encode bytes) = some bytes :=
  decodeFrom_encode bytes

theorem mem_encode {bytes : List UInt8} {c : Char} (h : c ∈ encode bytes) :
    ∃ n < 64, c = char n := by
  induction bytes using encode.induct with
  | case1 => cases h
  | case2 a =>
    have ha := a.toNat_lt
    simp only [encode, List.mem_cons, List.not_mem_nil, or_false] at h
    rcases h with rfl | rfl
    · exact ⟨_, by omega, rfl⟩
    · exact ⟨_, by omega, rfl⟩
  | case3 a b =>
    have ha := a.toNat_lt
    have hb := b.toNat_lt
    simp only [encode, List.mem_cons, List.not_mem_nil, or_false] at h
    rcases h with rfl | rfl | rfl
    · exact ⟨_, by omega, rfl⟩
    · exact ⟨_, by omega, rfl⟩
    · exact ⟨_, by omega, rfl⟩
  | case4 a b c' rest ih =>
    have ha := a.toNat_lt
    have hb := b.toNat_lt
    have hc := c'.toNat_lt
    simp only [encode, List.mem_cons] at h
    rcases h with rfl | rfl | rfl | rfl | h
    · exact ⟨_, by omega, rfl⟩
    · exact ⟨_, by omega, rfl⟩
    · exact ⟨_, by omega, rfl⟩
    · exact ⟨_, by omega, rfl⟩
    · exact ih h

theorem noDot_encode (bytes : List UInt8) : '.' ∉ encode bytes := by
  intro h
  obtain ⟨n, hn, heq⟩ := mem_encode h
  exact (char_spec n hn).2.2.1 heq.symm

theorem ascii_encode {bytes : List UInt8} {c : Char} (h : c ∈ encode bytes) : c.toNat < 128 := by
  obtain ⟨n, hn, rfl⟩ := mem_encode h
  exact (char_spec n hn).2.2.2

end Framework.Base64
