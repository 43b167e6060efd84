import Fanfolio.Framework.Paging
import Fanfolio.Framework.Transducer

/-!
# Frames

Bytes are sent in frames: the length of each in four bytes, the most significant one first, and
then its content. A length of zero ends the stream.
-/

namespace Framework.Frames

/-- Four bytes, the most significant one first. -/
def lengthBytes (n : ℕ) : List UInt8 :=
  [.ofNat (n / 0x1000000), .ofNat (n / 0x10000), .ofNat (n / 0x100), .ofNat n]

def frame (content : List UInt8) : List UInt8 := lengthBytes content.length ++ content

def write (contents : List (List UInt8)) : List UInt8 := contents.flatMap frame ++ lengthBytes 0

/-- What a reader finds in a stream. -/
inductive Item where
  | byte (b : UInt8)
  | over
deriving DecidableEq, Repr

/-- So many bytes of a length are read, so many of a content are missing, or the stream is over. -/
inductive State where
  | length (read value : ℕ)
  | content (missing : ℕ)
  | over
deriving DecidableEq, Repr

def State.start : State := .length 0 0

def readByte : State → UInt8 → State × List Item
  | .length read value, b =>
    let value := value * 256 + b.toNat
    if read < 3 then (.length (read + 1) value, [])
    else if value = 0 then (.over, [.over]) else (.content value, [])
  | .content missing, b => (if missing ≤ 1 then .start else .content (missing - 1), [.byte b])
  | .over, _ => (.over, [])

open Transducer

theorem readByte_length {read : ℕ} (h : read < 3) (value : ℕ) (b : UInt8) :
    readByte (.length read value) b = (.length (read + 1) (value * 256 + b.toNat), []) := by
  simp only [readByte, if_pos h]

theorem readByte_last (value : ℕ) (b : UInt8) : readByte (.length 3 value) b =
    if value * 256 + b.toNat = 0 then (.over, [.over])
    else (.content (value * 256 + b.toNat), []) := rfl

theorem read_length {n : ℕ} (h : n < 0x100000000) : readSymbols readByte .start (lengthBytes n) =
    if n = 0 then (.over, [.over]) else (.content n, []) := by
  have hvalue : (((0 * 256 + (UInt8.ofNat (n / 0x1000000)).toNat) * 256 +
      (UInt8.ofNat (n / 0x10000)).toNat) * 256 + (UInt8.ofNat (n / 0x100)).toNat) * 256 +
        (UInt8.ofNat n).toNat = n := by
    simp only [UInt8.toNat_ofNat', Nat.reducePow]
    omega
  have hthree : ∀ read < 3, ∀ value b rest, readSymbols readByte (.length read value) (b :: rest) =
      readSymbols readByte (.length (read + 1) (value * 256 + b.toNat)) rest := by
    intro read hread value b rest
    rw [readSymbols, readByte_length hread]
    rfl
  rw [lengthBytes, State.start, hthree 0 (by decide), hthree 1 (by decide), hthree 2 (by decide),
    readSymbols, readByte_last, hvalue]
  by_cases hn : n = 0
  · rw [if_pos hn]
    rfl
  · rw [if_neg hn]
    rfl

theorem read_content (b : UInt8) (rest : List UInt8) :
    readSymbols readByte (.content (rest.length + 1)) (b :: rest) =
      (.start, (b :: rest).map .byte) := by
  induction rest generalizing b with
  | nil => rfl
  | cons b' rest ih =>
    have hbyte : readByte (.content ((b' :: rest).length + 1)) b =
        (.content (rest.length + 1), [.byte b]) := by
      simp only [readByte, List.length_cons]
      rw [if_neg (by omega), Nat.add_sub_cancel]
    rw [readSymbols, hbyte]
    simp only [ih, List.map_cons, List.singleton_append]

theorem read_frame {content : List UInt8} (hne : content ≠ []) (h : content.length < 0x100000000) :
    readSymbols readByte .start (frame content) = (.start, content.map .byte) := by
  obtain ⟨b, rest, rfl⟩ := List.exists_cons_of_ne_nil hne
  have hlength : (b :: rest).length ≠ 0 := Nat.succ_ne_zero _
  rw [frame, readSymbols_append, read_length h, if_neg hlength]
  exact congrArg (fun read : State × List Item => (read.1, [] ++ read.2)) (read_content b rest)

theorem read_frames {contents : List (List UInt8)}
    (h : ∀ content ∈ contents, content ≠ [] ∧ content.length < 0x100000000) :
    readSymbols readByte .start (contents.flatMap frame) =
      (.start, contents.flatten.map .byte) := by
  induction contents with
  | nil => rfl
  | cons content contents ih =>
    obtain ⟨hcontent, hrest⟩ := List.forall_mem_cons.mp h
    rw [List.flatMap_cons, readSymbols_append, read_frame hcontent.1 hcontent.2]
    simp only [ih hrest, List.flatten_cons, List.map_append]

/-- What was sent in frames that are not empty is read, and nothing beyond their end. -/
theorem read_write {contents : List (List UInt8)}
    (h : ∀ content ∈ contents, content ≠ [] ∧ content.length < 0x100000000) :
    readSymbols readByte .start (write contents) =
      (.over, contents.flatten.map .byte ++ [.over]) := by
  rw [write, readSymbols_append, read_frames h]
  rfl

/-- The end is the last byte. -/
theorem read_dropLast {contents : List (List UInt8)}
    (h : ∀ content ∈ contents, content ≠ [] ∧ content.length < 0x100000000) :
    readSymbols readByte .start (write contents).dropLast =
      (.length 3 0, contents.flatten.map .byte) := by
  have hlast : (write contents).dropLast = contents.flatMap frame ++ [0, 0, 0] :=
    List.dropLast_append_of_ne_nil (by decide)
  have hrest : readSymbols readByte .start [0, 0, 0] = (.length 3 0, []) := by decide
  rw [hlast, readSymbols_append, read_frames h, hrest, List.append_nil]

/-- The pieces of a content, all but the last of the given size. -/
def chunks (size : ℕ) (content : List UInt8) : List (List UInt8) :=
  (List.range (pageCount size content.length)).map fun i => (content.drop (i * size)).take size

variable {size : ℕ} (content : List UInt8)

theorem flatten_chunks (h : 0 < size) : (chunks size content).flatten = content := by
  have hpages : (chunks size content).flatten =
      rowsOfPages size (pageCount size content.length) fun _ => content := by
    rw [chunks, rowsOfPages, List.flatMap_def]
    simp only [pageOf, Nat.add_sub_cancel]
  rw [hpages, rowsOfPages_const, List.take_of_length_le (le_pageCount_mul h _)]

theorem mem_chunks (h : 0 < size) : ∀ chunk ∈ chunks size content,
    chunk ≠ [] ∧ chunk.length ≤ size := by
  intro chunk hchunk
  obtain ⟨i, hi, rfl⟩ := List.mem_map.mp hchunk
  rw [List.mem_range] at hi
  have hstart : i * size < content.length := by
    by_contra hbeyond
    have hcount : pageCount size content.length ≤ i := by
      rw [pageCount, Nat.div_le_iff_le_mul_add_pred h]
      have hcomm : size * i = i * size := Nat.mul_comm _ _
      omega
    omega
  refine ⟨?_, List.length_take_le _ _⟩
  rw [← List.length_pos_iff, List.length_take, List.length_drop]
  omega

end Framework.Frames
