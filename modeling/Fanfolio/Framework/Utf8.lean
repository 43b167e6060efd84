import Fanfolio.Framework.Transducer

/-!
# Decoding UTF-8 as it arrives

The decoder holds the character it is in: how many bytes it still owes, what the next one may be.
A byte that cannot follow is a replacement character, and is then read from the start.
-/

namespace Framework.Utf8

/-- The character that has begun, and the bounds of its next byte. -/
structure State where
  needed : Nat
  codePoint : Nat
  lower : Nat
  upper : Nat
deriving DecidableEq, Repr

/-- Between two characters. -/
def State.between : State := ⟨0, 0, 0x80, 0xBF⟩

def replacement : Char := Char.ofNat 0xFFFD

/-- The first byte of a character. -/
def leadByte (b : Nat) : State × List Char :=
  if b ≤ 0x7F then (.between, [Char.ofNat b])
  else if 0xC2 ≤ b ∧ b ≤ 0xDF then (⟨1, b % 32, 0x80, 0xBF⟩, [])
  else if 0xE0 ≤ b ∧ b ≤ 0xEF then
    (⟨2, b % 16, if b = 0xE0 then 0xA0 else 0x80, if b = 0xED then 0x9F else 0xBF⟩, [])
  else if 0xF0 ≤ b ∧ b ≤ 0xF4 then
    (⟨3, b % 8, if b = 0xF0 then 0x90 else 0x80, if b = 0xF4 then 0x8F else 0xBF⟩, [])
  else (.between, [replacement])

/-- A byte; the last one of a character gives it out. -/
def readByte (s : State) (b : UInt8) : State × List Char :=
  if s.needed = 0 then leadByte b.toNat
  else if s.lower ≤ b.toNat ∧ b.toNat ≤ s.upper then
    let codePoint := s.codePoint * 64 + b.toNat % 64
    if s.needed = 1 then (.between, [Char.ofNat codePoint])
    else (⟨s.needed - 1, codePoint, 0x80, 0xBF⟩, [])
  else
    let (s', out) := leadByte b.toNat
    (s', replacement :: out)

def decoder : Transducer State UInt8 Char := .ofSymbol readByte

def byteOrderMark : Char := Char.ofNat 0xFEFF

/-- A byte order mark at the start is no part of the text. -/
def dropMark (started : Bool) (c : Char) : Bool × List Char :=
  (true, if started = false ∧ c = byteOrderMark then [] else [c])

/-- `new TextDecoder()`, fed with `{ stream: true }`. -/
def textDecoder : Transducer (State × Bool) UInt8 Char := decoder.comp (.ofSymbol dropMark)

def textDecoder.start : State × Bool := (.between, false)

def encode (text : List Char) : List UInt8 := text.flatMap String.utf8EncodeChar

section

variable {s : State} {b : UInt8}

theorem readByte_between (b : UInt8) : readByte .between b = leadByte b.toNat := rfl

theorem readByte_last (hneeded : s.needed = 1) (hb : s.lower ≤ b.toNat ∧ b.toNat ≤ s.upper) :
    readByte s b = (.between, [Char.ofNat (s.codePoint * 64 + b.toNat % 64)]) := by
  rw [readByte, if_neg (by omega), if_pos hb, if_pos hneeded]

theorem readByte_more {n : Nat} (hneeded : s.needed = n + 2)
    (hb : s.lower ≤ b.toNat ∧ b.toNat ≤ s.upper) :
    readByte s b = (⟨n + 1, s.codePoint * 64 + b.toNat % 64, 0x80, 0xBF⟩, []) := by
  rw [readByte, if_neg (by omega), if_pos hb, if_neg (by omega), hneeded]
  rfl

theorem leadByte_two {n : Nat} (h : 2 ≤ n) (h' : n < 32) :
    leadByte (n + 0xC0) = (⟨1, n, 0x80, 0xBF⟩, []) := by
  have hmod : (n + 0xC0) % 32 = n := by omega
  rw [leadByte, if_neg (by omega), if_pos (by omega), hmod]

theorem leadByte_three {n : Nat} (h : n < 16) : leadByte (n + 0xE0) =
    (⟨2, n, if n = 0 then 0xA0 else 0x80, if n = 13 then 0x9F else 0xBF⟩, []) := by
  have hmod : (n + 0xE0) % 16 = n := by omega
  have hzero : n + 0xE0 = 0xE0 ↔ n = 0 := by omega
  have hlast : n + 0xE0 = 0xED ↔ n = 13 := by omega
  rw [leadByte, if_neg (by omega), if_neg (by omega), if_pos (by omega), hmod]
  simp only [hzero, hlast]

theorem leadByte_four {n : Nat} (h : n < 5) : leadByte (n + 0xF0) =
    (⟨3, n, if n = 0 then 0x90 else 0x80, if n = 4 then 0x8F else 0xBF⟩, []) := by
  have hmod : (n + 0xF0) % 8 = n := by omega
  have hzero : n + 0xF0 = 0xF0 ↔ n = 0 := by omega
  have hlast : n + 0xF0 = 0xF4 ↔ n = 4 := by omega
  rw [leadByte, if_neg (by omega), if_neg (by omega), if_neg (by omega), if_pos (by omega), hmod]
  simp only [hzero, hlast]

end

theorem toNat_byte {n : Nat} (h : n < 256) : (UInt8.ofNat n).toNat = n := by
  rw [UInt8.toNat_ofNat', Nat.mod_eq_of_lt h]

/-- The bytes of a character give it out and nothing else. -/
theorem decode_char (c : Char) :
    decoder.step .between (String.utf8EncodeChar c) = (.between, [c]) := by
  have hvalid : c.toNat < 0xD800 ∨ (0xDFFF < c.toNat ∧ c.toNat < 0x110000) := c.valid
  have hc : c.val.toNat = c.toNat := rfl
  rw [String.utf8EncodeChar]
  simp only [hc]
  generalize hn : c.toNat = n at hvalid
  have hchar : Char.ofNat n = c := by rw [← hn, Char.ofNat_toNat]
  have htail (k : Nat) : (UInt8.ofNat (k % 64 + 128)).toNat = k % 64 + 128 :=
    toNat_byte (by omega)
  split_ifs with h1 h2 h3
  · have hlead : readByte .between (UInt8.ofNat n) = (.between, [c]) := by
      rw [readByte_between, toNat_byte (by omega), leadByte, if_pos h1, hchar]
    simp only [decoder, Transducer.ofSymbol, Transducer.readSymbols, hlead, List.append_nil]
  · have hlead : readByte .between (UInt8.ofNat (n / 64 % 32 + 192)) =
        (⟨1, n / 64, 0x80, 0xBF⟩, []) := by
      have hmod : n / 64 % 32 = n / 64 := by omega
      rw [readByte_between, toNat_byte (by omega), hmod, leadByte_two (by omega) (by omega)]
    have hlast : readByte ⟨1, n / 64, 0x80, 0xBF⟩ (UInt8.ofNat (n % 64 + 128)) =
        (.between, [c]) := by
      have hjoin : n / 64 * 64 + (n % 64 + 128) % 64 = n := by omega
      rw [readByte_last rfl (by rw [htail]; dsimp only; omega), htail, hjoin, hchar]
    simp only [decoder, Transducer.ofSymbol, Transducer.readSymbols, hlead, hlast,
      List.append_nil, List.nil_append]
  · have hlead : readByte .between (UInt8.ofNat (n / 4096 % 16 + 224)) =
        (⟨2, n / 4096, if n / 4096 = 0 then 0xA0 else 0x80,
          if n / 4096 = 13 then 0x9F else 0xBF⟩, []) := by
      have hmod : n / 4096 % 16 = n / 4096 := by omega
      rw [readByte_between, toNat_byte (by omega), hmod, leadByte_three (by omega)]
    -- The narrower bounds keep out what is written in fewer bytes, and the surrogates.
    have hmore : readByte ⟨2, n / 4096, if n / 4096 = 0 then 0xA0 else 0x80,
        if n / 4096 = 13 then 0x9F else 0xBF⟩ (UInt8.ofNat (n / 64 % 64 + 128)) =
        (⟨1, n / 64, 0x80, 0xBF⟩, []) := by
      have hjoin : n / 4096 * 64 + (n / 64 % 64 + 128) % 64 = n / 64 := by omega
      rw [readByte_more (n := 0) rfl (by rw [htail]; dsimp only; split_ifs <;> omega), htail,
        hjoin]
    have hlast : readByte ⟨1, n / 64, 0x80, 0xBF⟩ (UInt8.ofNat (n % 64 + 128)) =
        (.between, [c]) := by
      have hjoin : n / 64 * 64 + (n % 64 + 128) % 64 = n := by omega
      rw [readByte_last rfl (by rw [htail]; dsimp only; omega), htail, hjoin, hchar]
    simp only [decoder, Transducer.ofSymbol, Transducer.readSymbols, hlead, hmore, hlast,
      List.append_nil, List.nil_append]
  · have hlead : readByte .between (UInt8.ofNat (n / 262144 % 8 + 240)) =
        (⟨3, n / 262144, if n / 262144 = 0 then 0x90 else 0x80,
          if n / 262144 = 4 then 0x8F else 0xBF⟩, []) := by
      have hmod : n / 262144 % 8 = n / 262144 := by omega
      rw [readByte_between, toNat_byte (by omega), hmod, leadByte_four (by omega)]
    have hsecond : readByte ⟨3, n / 262144, if n / 262144 = 0 then 0x90 else 0x80,
        if n / 262144 = 4 then 0x8F else 0xBF⟩ (UInt8.ofNat (n / 4096 % 64 + 128)) =
        (⟨2, n / 4096, 0x80, 0xBF⟩, []) := by
      have hjoin : n / 262144 * 64 + (n / 4096 % 64 + 128) % 64 = n / 4096 := by omega
      rw [readByte_more (n := 1) rfl (by rw [htail]; dsimp only; split_ifs <;> omega), htail,
        hjoin]
    have hthird : readByte ⟨2, n / 4096, 0x80, 0xBF⟩ (UInt8.ofNat (n / 64 % 64 + 128)) =
        (⟨1, n / 64, 0x80, 0xBF⟩, []) := by
      have hjoin : n / 4096 * 64 + (n / 64 % 64 + 128) % 64 = n / 64 := by omega
      rw [readByte_more (n := 0) rfl (by rw [htail]; dsimp only; omega), htail, hjoin]
    have hlast : readByte ⟨1, n / 64, 0x80, 0xBF⟩ (UInt8.ofNat (n % 64 + 128)) =
        (.between, [c]) := by
      have hjoin : n / 64 * 64 + (n % 64 + 128) % 64 = n := by omega
      rw [readByte_last rfl (by rw [htail]; dsimp only; omega), htail, hjoin, hchar]
    simp only [decoder, Transducer.ofSymbol, Transducer.readSymbols, hlead, hsecond, hthird,
      hlast, List.append_nil, List.nil_append]

/-- What was encoded is decoded, and nothing is left over. -/
theorem decode_encode (text : List Char) :
    decoder.step .between (encode text) = (.between, text) := by
  induction text with
  | nil => rfl
  | cons c text ih =>
    have hcons : encode (c :: text) = String.utf8EncodeChar c ++ encode text := rfl
    rw [hcons, decoder.step_append, decode_char, ih]
    rfl

theorem dropMark_started (text : List Char) :
    Transducer.readSymbols dropMark true text = (true, text) := by
  induction text with
  | nil => rfl
  | cons c text ih =>
    have hkept : dropMark true c = (true, [c]) := by simp [dropMark]
    rw [Transducer.readSymbols, hkept]
    simp only [ih, List.singleton_append]

/-- A text that does not begin with a byte order mark. -/
theorem textDecoder_encode {c : Char} (hc : c ≠ byteOrderMark) (text : List Char) :
    textDecoder.step textDecoder.start (encode (c :: text)) = ((.between, true), c :: text) := by
  have hkept : dropMark false c = (true, [c]) := by simp [dropMark, hc]
  simp only [textDecoder, Transducer.comp, Transducer.compStep, textDecoder.start, decode_encode,
    Transducer.ofSymbol, Transducer.readSymbols, hkept, dropMark_started, List.singleton_append]

/-- The byte order mark at the beginning is no part of the text. -/
theorem textDecoder_mark (text : List Char) :
    textDecoder.step textDecoder.start (encode (byteOrderMark :: text)) = ((.between, true), text) := by
  have hdropped : dropMark false byteOrderMark = (true, []) := by simp [dropMark]
  simp only [textDecoder, Transducer.comp, Transducer.compStep, textDecoder.start, decode_encode,
    Transducer.ofSymbol, Transducer.readSymbols, hdropped, dropMark_started, List.nil_append]

end Framework.Utf8
