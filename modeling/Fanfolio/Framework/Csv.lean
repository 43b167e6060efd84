import Fanfolio.Framework.Transducer

/-!
# Comma-separated values

Rows of texts, one to a line. A field is put in quotes only where it must be: if it holds a comma,
a quote or the end of a line. The reader takes what comes, character by character.
-/

namespace Framework.Csv

abbrev Row := List (List Char)

/-- The characters that a field is quoted for. -/
def isSpecial (c : Char) : Bool := c == ',' || c == '"' || c == '\r' || c == '\n'

def doubled (c : Char) : List Char := if c = '"' then ['"', '"'] else [c]

def quoted (field : List Char) : List Char := '"' :: (field.flatMap doubled ++ ['"'])

def writeField (field : List Char) : List Char :=
  if field.any isSpecial then quoted field else field

/-- The fields of a row, with a comma before each but the first. -/
def writeFields : Row → List Char
  | [] => []
  | [field] => writeField field
  | field :: fields => writeField field ++ ',' :: writeFields fields

/-- A row; one empty field is told from no field by its quotes. -/
def writeRow (row : Row) : List Char :=
  (if row = [[]] then quoted [] else writeFields row) ++ ['\r', '\n']

def write (rows : List Row) : List Char := rows.flatMap writeRow

inductive Phase where
  | row
  | afterReturn
  | field
  | inField
  | inQuotes
  | quoteInQuotes
deriving DecidableEq, Repr

structure State where
  phase : Phase := .row
  fields : Row := []
  field : List Char := []
deriving DecidableEq, Repr

/-- A character at the beginning of a field, inside a bare one, or after a closing quote. -/
def State.bare (s : State) (c : Char) (next : State) : State × List Row :=
  if c = ',' then (⟨.field, s.fields ++ [s.field], []⟩, [])
  else if c = '\r' then (⟨.afterReturn, [], []⟩, [s.fields ++ [s.field]])
  else if c = '\n' then (⟨.row, [], []⟩, [s.fields ++ [s.field]])
  else (next, [])

/-- A character at the beginning of a row. -/
def State.first (c : Char) : State × List Row :=
  if c = '\r' then (⟨.afterReturn, [], []⟩, [[]])
  else if c = '\n' then (⟨.row, [], []⟩, [[]])
  else State.bare {} c (if c = '"' then ⟨.inQuotes, [], []⟩ else ⟨.inField, [], [c]⟩)

def readChar (s : State) (c : Char) : State × List Row :=
  match s.phase with
  | .row => State.first c
  | .afterReturn => if c = '\n' then ({}, []) else State.first c
  | .field => s.bare c
      (if c = '"' then ⟨.inQuotes, s.fields, []⟩ else ⟨.inField, s.fields, [c]⟩)
  | .inField => s.bare c ⟨.inField, s.fields, s.field ++ [c]⟩
  | .inQuotes =>
    if c = '"' then (⟨.quoteInQuotes, s.fields, s.field⟩, [])
    else (⟨.inQuotes, s.fields, s.field ++ [c]⟩, [])
  | .quoteInQuotes =>
    if c = '"' then (⟨.inQuotes, s.fields, s.field ++ ['"']⟩, [])
    else s.bare c ⟨.inField, s.fields, s.field ++ [c]⟩

/-- The rows of a text whose lines have all ended. -/
def reader : Transducer State Char Row := .ofSymbol readChar

open Transducer

/-- The field is complete: what comes next ends it. -/
def State.Ended (s : State) : Prop :=
  s.phase = .field ∨ s.phase = .inField ∨ s.phase = .quoteInQuotes

theorem readChar_comma {s : State} (h : s.Ended) :
    readChar s ',' = (⟨.field, s.fields ++ [s.field], []⟩, []) := by
  rcases h with h | h | h <;> rw [readChar, h] <;> rfl

theorem readChar_return {s : State} (h : s.Ended) :
    readChar s '\r' = (⟨.afterReturn, [], []⟩, [s.fields ++ [s.field]]) := by
  rcases h with h | h | h <;> rw [readChar, h] <;> rfl

theorem State.bare_of_not_special (s : State) {c : Char} (h : isSpecial c = false)
    (next : State) : s.bare c next = (next, []) := by
  simp only [isSpecial, Bool.or_eq_false_iff, beq_eq_false_iff_ne, ne_eq] at h
  rw [State.bare, if_neg h.1.1.1, if_neg h.1.2, if_neg h.2]

theorem read_bare (fields : Row) (field : List Char) {rest : List Char}
    (h : rest.any isSpecial = false) :
    readSymbols readChar ⟨.inField, fields, field⟩ rest =
      (⟨.inField, fields, field ++ rest⟩, []) := by
  induction rest generalizing field with
  | nil => rw [List.append_nil, readSymbols]
  | cons c rest ih =>
    rw [List.any_cons, Bool.or_eq_false_iff] at h
    have hchar : readChar ⟨.inField, fields, field⟩ c = (⟨.inField, fields, field ++ [c]⟩, []) :=
      State.bare_of_not_special _ h.1 _
    rw [readSymbols, hchar]
    simp only [ih _ h.2, List.append_assoc, List.singleton_append, List.append_nil]

theorem read_doubled (fields : Row) (field rest : List Char) :
    readSymbols readChar ⟨.inQuotes, fields, field⟩ (rest.flatMap doubled) =
      (⟨.inQuotes, fields, field ++ rest⟩, []) := by
  induction rest generalizing field with
  | nil => rw [List.append_nil, List.flatMap_nil, readSymbols]
  | cons c rest ih =>
    rw [List.flatMap_cons, readSymbols_append]
    have hchar : readSymbols readChar ⟨.inQuotes, fields, field⟩ (doubled c) =
        (⟨.inQuotes, fields, field ++ [c]⟩, []) := by
      by_cases hc : c = '"'
      · rw [doubled, if_pos hc, hc]
        rfl
      · rw [doubled, if_neg hc]
        simp only [readSymbols, readChar, if_neg hc, List.append_nil]
    rw [hchar]
    simp only [ih, List.append_assoc, List.singleton_append, List.append_nil]

theorem read_quoted (fields : Row) (field : List Char) :
    readSymbols readChar ⟨.field, fields, []⟩ (quoted field) =
      (⟨.quoteInQuotes, fields, field⟩, []) := by
  have hopen : readChar ⟨.field, fields, []⟩ '"' = (⟨.inQuotes, fields, []⟩, []) := rfl
  rw [quoted, readSymbols, hopen]
  simp only [readSymbols_append, read_doubled, List.nil_append]
  rfl

/-- What was written for a field leaves the reader with this field. -/
theorem read_field (fields : Row) (field : List Char) :
    ∃ s, readSymbols readChar ⟨.field, fields, []⟩ (writeField field) = (s, []) ∧
      s.Ended ∧ s.fields = fields ∧ s.field = field := by
  unfold writeField
  by_cases hspecial : field.any isSpecial = true
  · rw [if_pos hspecial, read_quoted]
    exact ⟨_, rfl, .inr (.inr rfl), rfl, rfl⟩
  · rw [if_neg hspecial]
    rw [Bool.not_eq_true] at hspecial
    cases field with
    | nil => exact ⟨_, rfl, .inl rfl, rfl, rfl⟩
    | cons c rest =>
      rw [List.any_cons, Bool.or_eq_false_iff] at hspecial
      have hquote : c ≠ '"' := by
        rintro rfl
        cases hspecial.1
      have hfirst : readChar ⟨.field, fields, []⟩ c = (⟨.inField, fields, [c]⟩, []) := by
        refine (State.bare_of_not_special _ hspecial.1 _).trans ?_
        rw [if_neg hquote]
      rw [readSymbols, hfirst]
      simp only [read_bare _ _ hspecial.2, List.append_nil]
      exact ⟨_, rfl, .inr (.inl rfl), rfl, rfl⟩

/-- The end of a line gives out the row. -/
theorem read_end {s : State} (h : s.Ended) :
    readSymbols readChar s ['\r', '\n'] = ({}, [s.fields ++ [s.field]]) := by
  simp only [readSymbols, readChar_return h]
  rfl

theorem writeFields_cons (field next : List Char) (row : Row) :
    writeFields (field :: next :: row) = writeField field ++ ',' :: writeFields (next :: row) := rfl

theorem read_fields (fields : Row) (field : List Char) (row : Row) :
    readSymbols readChar ⟨.field, fields, []⟩ (writeFields (field :: row) ++ ['\r', '\n']) =
      ({}, [fields ++ field :: row]) := by
  induction row generalizing fields field with
  | nil =>
    obtain ⟨s, hread, hended, hfields, hfield⟩ := read_field fields field
    rw [writeFields, readSymbols_append, hread]
    simp only [read_end hended, hfields, hfield, List.nil_append]
  | cons next row ih =>
    obtain ⟨s, hread, hended, hfields, hfield⟩ := read_field fields field
    rw [writeFields_cons, List.append_assoc, readSymbols_append, hread, List.cons_append,
      readSymbols, readChar_comma hended]
    simp only [ih, hfields, hfield, List.append_assoc, List.singleton_append, List.nil_append]

/-- At the beginning of a row, only the end of a line is read in another way than at the beginning
of a field. -/
theorem read_first {c : Char} (rest : List Char) (hreturn : c ≠ '\r') (hfeed : c ≠ '\n') :
    readSymbols readChar {} (c :: rest) = readSymbols readChar ⟨.field, [], []⟩ (c :: rest) := by
  have hchar : readChar {} c = readChar ⟨.field, [], []⟩ c := by
    simp only [readChar, State.first, if_neg hreturn, if_neg hfeed]
    rfl
  rw [readSymbols, hchar, readSymbols]

theorem writeField_first {field : List Char} (h : field ≠ []) :
    ∃ c rest, writeField field = c :: rest ∧ c ≠ '\r' ∧ c ≠ '\n' := by
  unfold writeField
  by_cases hspecial : field.any isSpecial = true
  · rw [if_pos hspecial]
    exact ⟨'"', _, rfl, by decide, by decide⟩
  · rw [if_neg hspecial]
    rw [Bool.not_eq_true] at hspecial
    obtain ⟨c, rest, rfl⟩ := List.exists_cons_of_ne_nil h
    rw [List.any_cons, Bool.or_eq_false_iff] at hspecial
    refine ⟨c, rest, rfl, ?_, ?_⟩
    · rintro rfl
      cases hspecial.1
    · rintro rfl
      cases hspecial.1

theorem writeFields_first {row : Row} (hrow : row ≠ []) (hempty : row ≠ [[]]) :
    ∃ c rest, writeFields row = c :: rest ∧ c ≠ '\r' ∧ c ≠ '\n' := by
  match row with
  | [] => exact absurd rfl hrow
  | [field] =>
    refine writeField_first ?_
    rintro rfl
    exact hempty rfl
  | [] :: next :: row => exact ⟨',', _, rfl, by decide, by decide⟩
  | (c :: field) :: next :: row =>
    obtain ⟨c', rest, hwrite, hfirst⟩ := writeField_first (List.cons_ne_nil c field)
    rw [writeFields_cons, hwrite]
    exact ⟨c', _, rfl, hfirst⟩

theorem read_row (row : Row) : readSymbols readChar {} (writeRow row) = ({}, [row]) := by
  unfold writeRow
  match row with
  | [] => rfl
  | field :: row =>
    by_cases hempty : field :: row = [[]]
    · rw [hempty]
      rfl
    · rw [if_neg hempty]
      obtain ⟨c, rest, hwrite, hreturn, hfeed⟩ :=
        writeFields_first (List.cons_ne_nil field row) hempty
      have hread := read_fields [] field row
      rw [hwrite, List.cons_append] at hread ⊢
      rw [read_first _ hreturn hfeed, hread, List.nil_append]

/-- What was written is read back. -/
theorem read_write (rows : List Row) : reader.step {} (write rows) = ({}, rows) := by
  induction rows with
  | nil => rfl
  | cons row rows ih =>
    have hrest : readSymbols readChar {} (write rows) = ({}, rows) := ih
    have hall : readSymbols readChar {} (writeRow row ++ write rows) = ({}, row :: rows) := by
      rw [readSymbols_append, read_row]
      simp only [hrest, List.singleton_append]
    exact hall

end Framework.Csv
