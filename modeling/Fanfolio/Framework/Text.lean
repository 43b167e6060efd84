import Mathlib.Algebra.Order.BigOperators.Group.List
import Mathlib.Algebra.Order.Ring.Nat
import Mathlib.Data.List.DropRight
import Mathlib.Data.String.Basic

/-!
# Text that is normalised

White space is stripped and letters are put in upper case. Beyond ASCII the upper case of a
character is a table, and may have several characters. Texts that begin differently are different,
whatever follows.
-/

namespace Framework

/-- The characters that `str.strip` removes. -/
def isSpace (c : Char) : Bool :=
  let n := c.toNat
  (9 ≤ n && n ≤ 13) || (28 ≤ n && n ≤ 32) || n == 0x85 || n == 0xA0 || n == 0x1680 ||
    (0x2000 ≤ n && n ≤ 0x200A) || n == 0x2028 || n == 0x2029 || n == 0x202F || n == 0x205F ||
    n == 0x3000

def strip (s : String) : String :=
  String.ofList ((s.toList.dropWhile isSpace).rdropWhile isSpace)

/-- The upper case of every character. -/
structure UpperCase where
  upper : Char → List Char
  ascii : ∀ c, c.toNat < 128 → upper c = [c.toUpper]

namespace UpperCase

def text (table : UpperCase) (s : String) : String := String.ofList (s.toList.flatMap table.upper)

/-- The table that leaves everything but the letters of ASCII alone. -/
def asciiOnly : UpperCase := ⟨fun c => [c.toUpper], fun _ _ => rfl⟩

end UpperCase

theorem append_ne_append {a b : String}
    (h : ¬a.toList <+: b.toList ∧ ¬b.toList <+: a.toList) (x y : String) : a ++ x ≠ b ++ y := by
  intro heq
  have hlist : a.toList ++ x.toList = b.toList ++ y.toList := by
    rw [← String.toList_append, heq, String.toList_append]
  have hprefix : a.toList <+: b.toList ++ y.toList := hlist ▸ List.prefix_append a.toList x.toList
  rcases List.prefix_or_prefix_of_prefix hprefix (List.prefix_append b.toList y.toList) with ha | hb
  · exact h.1 ha
  · exact h.2 hb

/-- Some prefix leads to new texts only. -/
theorem exists_fresh_prefix (ids : List String) : ∃ p : String, ∀ id ∈ ids, ∀ s, id ≠ p ++ s := by
  refine ⟨String.ofList (List.replicate ((ids.map String.length).sum + 1) 'k'), ?_⟩
  intro id hid s heq
  have hlength := congrArg String.length heq
  have hle : id.length ≤ (ids.map String.length).sum :=
    List.single_le_sum (by simp) _ (List.mem_map_of_mem hid)
  simp only [String.length_append, String.length_ofList, List.length_replicate] at hlength
  omega

/-- Two ways to cut a text at a mark: at the same place, or one behind the other. -/
theorem append_mark_cases {α : Type*} {a b x y : List α} {mark : α}
    (h : a ++ mark :: x = b ++ mark :: y) :
    a = b ∧ x = y ∨ (∃ q, y = q ++ mark :: x) ∨ ∃ q, x = q ++ mark :: y := by
  rcases List.append_eq_append_iff.mp h with ⟨q, hb, hx⟩ | ⟨q, ha, hy⟩
  · cases q with
    | nil =>
      obtain ⟨-, rfl⟩ := List.cons.inj hx
      exact .inl ⟨by rw [hb, List.append_nil], rfl⟩
    | cons c q =>
      obtain ⟨rfl, rfl⟩ := List.cons.inj hx
      exact .inr (.inr ⟨q, rfl⟩)
  · cases q with
    | nil =>
      obtain ⟨-, rfl⟩ := List.cons.inj hy
      exact .inl ⟨by rw [ha, List.append_nil], rfl⟩
    | cons c q =>
      obtain ⟨rfl, rfl⟩ := List.cons.inj hy
      exact .inr (.inl ⟨q, rfl⟩)

/-- What follows the last mark of a text is the same whichever way it is cut. -/
theorem append_mark_last {α : Type*} {a b x y : List α} {mark : α}
    (h : a ++ mark :: x = b ++ mark :: y) (hx : mark ∉ x) (hy : mark ∉ y) : x = y := by
  rcases append_mark_cases h with ⟨-, hsame⟩ | ⟨q, rfl⟩ | ⟨q, rfl⟩
  · exact hsame
  · simp at hy
  · simp at hx

theorem strip_of_noSpace {s : String} (h : ∀ c ∈ s.toList, isSpace c = false) : strip s = s := by
  have hfront : s.toList.dropWhile isSpace = s.toList := by
    rw [List.dropWhile_eq_self_iff]
    intro hlt
    rw [h _ (List.getElem_mem hlt)]
    exact Bool.false_ne_true
  have hback : s.toList.rdropWhile isSpace = s.toList := by
    rw [List.rdropWhile_eq_self_iff]
    intro hne
    rw [h _ (List.getLast_mem hne)]
    exact Bool.false_ne_true
  rw [strip, hfront, hback, String.ofList_toList]

theorem isSpace_eq_false {c : Char} (h : 33 ≤ c.toNat) (h' : c.toNat < 128) :
    isSpace c = false := by
  simp only [isSpace, Bool.or_eq_false_iff, Bool.and_eq_false_iff, decide_eq_false_iff_not,
    beq_eq_false_iff_ne]
  omega

theorem isLower_iff {c : Char} : c.isLower ↔ 'a'.val ≤ c.val ∧ c.val ≤ 'z'.val := by
  show (decide (c.val ≥ 'a'.val) && decide (c.val ≤ 'z'.val)) = true ↔ _
  rw [Bool.and_eq_true, decide_eq_true_eq, decide_eq_true_eq, ge_iff_le]

theorem isLower_iff_toNat {c : Char} : c.isLower ↔ 97 ≤ c.toNat ∧ c.toNat ≤ 122 := by
  simp [isLower_iff, UInt32.le_iff_toNat_le, ← Char.toNat_val]

theorem isUpper_iff_toNat {c : Char} : c.isUpper ↔ 65 ≤ c.toNat ∧ c.toNat ≤ 90 := by
  show decide (c.val ≥ 'A'.val ∧ c.val ≤ 'Z'.val) = true ↔ _
  simp [UInt32.le_iff_toNat_le, ← Char.toNat_val]

theorem isDigit_iff_toNat {c : Char} : c.isDigit ↔ 48 ≤ c.toNat ∧ c.toNat ≤ 57 :=
  Char.isDigit_iff_toNat

theorem toUpper_eq_self_iff {c : Char} : c.toUpper = c ↔ c.isLower = false := by
  have hmoves : ∀ k v : UInt32, v + k = v → k = 0 := by
    intro k v h
    simpa using h
  rw [← Bool.not_eq_true, isLower_iff]
  unfold Char.toUpper
  split
  · rename_i hc
    refine iff_of_false (fun heq => ?_) (not_not.mpr hc)
    rw [Char.ext_iff] at heq
    have hzero := hmoves _ _ heq
    revert hzero
    decide
  · rename_i hc
    exact iff_of_true rfl hc

/-- A text of ASCII is in upper case already exactly if it has no lower-case letter. -/
theorem UpperCase.text_eq_self_iff (table : UpperCase) {s : String}
    (h : ∀ c ∈ s.toList, c.toNat < 128) :
    table.text s = s ↔ ∀ c ∈ s.toList, c.isLower = false := by
  have hupper : s.toList.flatMap table.upper = s.toList.map Char.toUpper := by
    rw [List.map_eq_flatMap]
    exact List.flatMap_congr fun c hc => table.ascii c (h c hc)
  rw [UpperCase.text, hupper, ← String.toList_inj, String.toList_ofList]
  nth_rewrite 2 [← List.map_id s.toList]
  rw [List.map_inj_left]
  exact forall₂_congr fun c _ => toUpper_eq_self_iff

end Framework
