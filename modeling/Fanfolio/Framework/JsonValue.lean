import Mathlib.Data.List.Basic

/-!
# JSON documents

A document over any numbers. An object is the list of its entries, of which the first with a key
counts; to write an entry keeps its place.
-/

namespace Framework

/-- A JSON document whose numbers are of `ν`. -/
inductive JsonValue (ν : Type) where
  | null
  | bool (b : Bool)
  | num (n : ν)
  | str (s : String)
  | arr (items : List (JsonValue ν))
  | obj (entries : List (String × JsonValue ν))
deriving Repr

namespace JsonValue

variable {ν μ : Type}

mutual

/-- The same document over other numbers. -/
def mapNumbers (f : ν → μ) : JsonValue ν → JsonValue μ
  | .null => .null
  | .bool b => .bool b
  | .num n => .num (f n)
  | .str s => .str s
  | .arr items => .arr (mapItems f items)
  | .obj entries => .obj (mapEntries f entries)

def mapItems (f : ν → μ) : List (JsonValue ν) → List (JsonValue μ)
  | [] => []
  | item :: rest => mapNumbers f item :: mapItems f rest

def mapEntries (f : ν → μ) : List (String × JsonValue ν) → List (String × JsonValue μ)
  | [] => []
  | (key, value) :: rest => (key, mapNumbers f value) :: mapEntries f rest

end

end JsonValue

/-- The entries of an object. -/
abbrev JsonEntries (ν : Type) := List (String × JsonValue ν)

namespace JsonEntries

variable {ν : Type}

/-- Write an entry, in its place if it is there. -/
def set : JsonEntries ν → String → JsonValue ν → JsonEntries ν
  | [], key, value => [(key, value)]
  | (key', value') :: rest, key, value =>
    if key' = key then (key, value) :: rest else (key', value') :: set rest key value

/-- Write an entry that is not there. -/
def setDefault (entries : JsonEntries ν) (key : String) (value : JsonValue ν) : JsonEntries ν :=
  if (entries.lookup key).isSome then entries else entries ++ [(key, value)]

/-- The entries without a key. -/
def remove (entries : JsonEntries ν) (key : String) : JsonEntries ν :=
  entries.filter fun entry => entry.1 ≠ key

/-- Write an entry, or take it away. -/
def assign (entries : JsonEntries ν) (key : String) : Option (JsonValue ν) → JsonEntries ν
  | some value => entries.set key value
  | none => entries.remove key

/-- Write entries, of which each key has one at most, and take those away that have no value. -/
def assignAll (entries : JsonEntries ν) : List (String × Option (JsonValue ν)) → JsonEntries ν
  | [] => entries
  | (key, value) :: rest => assign (assignAll entries rest) key value

variable {entries : JsonEntries ν} {key key' : String} {value : JsonValue ν}

theorem lookup_cons_eq {β : Type*} {b : β} {rest : List (String × β)} :
    List.lookup key' ((key, b) :: rest) = if key' = key then some b else rest.lookup key' := by
  rw [List.lookup_cons]
  by_cases h : key' = key
  · simp [h]
  · simp [h, beq_eq_false_iff_ne.mpr h]

theorem lookup_eq_none_iff_keys {β : Type*} {entries : List (String × β)} :
    entries.lookup key = none ↔ key ∉ entries.map Prod.fst := by
  rw [List.lookup_eq_none_iff]
  simp only [bne_iff_ne, List.mem_map, not_exists, not_and]
  exact forall₂_congr fun entry _ => ⟨Ne.symm, Ne.symm⟩

@[simp] theorem lookup_set : (entries.set key value).lookup key' =
    if key' = key then some value else entries.lookup key' := by
  induction entries with
  | nil => rw [set, lookup_cons_eq]
  | cons entry rest ih =>
    obtain ⟨first, value'⟩ := entry
    rw [set]
    by_cases hfirst : first = key
    · rw [if_pos hfirst, lookup_cons_eq, lookup_cons_eq, hfirst]
      split <;> rfl
    · rw [if_neg hfirst, lookup_cons_eq, ih, lookup_cons_eq]
      by_cases hfound : key' = first
      · simp [hfound, hfirst]
      · simp [hfound]

@[simp] theorem lookup_setDefault : (entries.setDefault key value).lookup key' =
    if key' = key then some ((entries.lookup key).getD value) else entries.lookup key' := by
  unfold setDefault
  cases hlookup : entries.lookup key with
  | some found => by_cases h : key' = key <;> simp [h, hlookup]
  | none =>
    simp only [Option.isSome_none, Bool.false_eq_true, if_false, List.lookup_append,
      lookup_cons_eq, List.lookup_nil]
    by_cases h : key' = key <;> simp [h, hlookup]

theorem set_of_lookup (h : entries.lookup key = some value) : entries.set key value = entries := by
  induction entries with
  | nil => cases h
  | cons entry rest ih =>
    obtain ⟨first, value'⟩ := entry
    rw [set]
    rw [lookup_cons_eq] at h
    by_cases hfirst : first = key
    · rw [if_pos hfirst.symm, Option.some.injEq] at h
      rw [if_pos hfirst, hfirst, h]
    · rw [if_neg (Ne.symm hfirst)] at h
      rw [if_neg hfirst, ih h]

theorem setDefault_of_isSome (h : (entries.lookup key).isSome) :
    entries.setDefault key value = entries := if_pos h

@[simp] theorem lookup_remove : (entries.remove key).lookup key' =
    if key' = key then none else entries.lookup key' := by
  induction entries with
  | nil => simp [remove]
  | cons entry rest ih =>
    obtain ⟨first, value'⟩ := entry
    rw [remove] at ih ⊢
    by_cases hfirst : first = key
    · rw [List.filter_cons_of_neg (by simp [hfirst]), ih, lookup_cons_eq, hfirst]
      split <;> rfl
    · rw [List.filter_cons_of_pos (by simp [hfirst]), lookup_cons_eq, ih, lookup_cons_eq]
      by_cases h : key' = first
      · simp [h, hfirst]
      · simp [h]

@[simp] theorem lookup_assign {assigned : Option (JsonValue ν)} :
    (entries.assign key assigned).lookup key' =
      if key' = key then assigned else entries.lookup key' := by
  cases assigned with
  | some value => rw [assign, lookup_set]
  | none => rw [assign, lookup_remove]

theorem lookup_assignAll (entries : JsonEntries ν) (key : String)
    (properties : List (String × Option (JsonValue ν))) :
    (entries.assignAll properties).lookup key =
      (properties.lookup key).getD (entries.lookup key) := by
  induction properties with
  | nil => rfl
  | cons property rest ih =>
    obtain ⟨first, assigned⟩ := property
    rw [assignAll, lookup_assign, ih, lookup_cons_eq]
    split <;> rfl

@[simp] theorem lookup_mapEntries {μ : Type} (f : ν → μ) (entries : JsonEntries ν) (key : String) :
    (JsonValue.mapEntries f entries).lookup key =
      (entries.lookup key).map (JsonValue.mapNumbers f) := by
  induction entries with
  | nil => rfl
  | cons entry rest ih =>
    obtain ⟨first, value⟩ := entry
    rw [JsonValue.mapEntries, lookup_cons_eq, lookup_cons_eq, ih]
    split <;> rfl

end JsonEntries

end Framework
