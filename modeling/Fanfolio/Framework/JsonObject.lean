import Fanfolio.Framework.JsonText

/-!
# JSON objects on a line of their own

An object as `json.dumps` writes it with `ensure_ascii=False`: a space behind every comma and every
colon, and only control characters escaped. No character of it ends a line.
-/

namespace Framework.JsonObject

open Framework.JsonText

/-- The values of a flat object that has no numbers. -/
inductive Field where
  | null
  | bool (b : Bool)
  | str (s : String)
deriving DecidableEq, Repr

def Field.ofOption : Option String → Field
  | some s => .str s
  | none => .null

/-- A character of a string, which is escaped only if it must be. -/
def escapeControl (c : Char) : List Char :=
  match shortEscapes.find? (·.2 == c) with
  | some (letter, _) => ['\\', letter]
  | none => if c.toNat < 32 then escapeUnit c.toNat else [c]

def quotedText (s : String) : List Char := '"' :: s.toList.flatMap escapeControl ++ ['"']

def Field.text : Field → List Char
  | .null => ['n', 'u', 'l', 'l']
  | .bool true => ['t', 'r', 'u', 'e']
  | .bool false => ['f', 'a', 'l', 's', 'e']
  | .str s => quotedText s

def memberText (member : String × Field) : List Char :=
  quotedText member.1 ++ ':' :: ' ' :: member.2.text

/-- The members up to the closing brace. -/
def membersText : List (String × Field) → List Char
  | [] => ['}']
  | [member] => memberText member ++ ['}']
  | member :: rest => memberText member ++ ',' :: ' ' :: membersText rest

/-- `json.dumps(..., ensure_ascii=False)` of a flat object. -/
def dumps (members : List (String × Field)) : List Char := '{' :: membersText members

section

variable {c : Char} {rest : List Char}

/-- The reader takes back one character that was written. -/
theorem readChars_escapeControl (fuel : Nat) : readChars (fuel + 1) (escapeControl c ++ rest) =
    (readChars fuel rest).map fun (chars, rest) => (c :: chars, rest) := by
  rw [escapeControl]
  split
  · rename_i letter c' hfound
    have hchar : c' = c := by simpa using List.find?_some hfound
    obtain ⟨hunit, hslash, hletter⟩ := shortEscapes_read _ (List.mem_of_find?_eq_some hfound)
    apply readChars_escape
    change readEscape (letter :: rest) = some (c, rest)
    rw [readEscape, if_neg hunit, if_neg hslash, hletter, hchar]
    rfl
  · rename_i hfound
    split_ifs with hcontrol
    · have hunits : ∀ text, readEscape ('u' :: text) = readUnits text := fun text => by
        simp [readEscape]
      apply readChars_escape
      exact (hunits _).trans (readUnits_basic (by omega))
    · have hquote : c ≠ '"' := by
        rintro rfl
        exact absurd hfound (by decide)
      have hescape : c ≠ '\\' := by
        rintro rfl
        exact absurd hfound (by decide)
      have hplain : ¬c.toNat ≤ 31 := by omega
      simp only [List.cons_append, List.nil_append, readChars, if_neg hquote, if_neg hescape,
        if_neg hplain]
      cases readChars fuel rest <;> rfl

theorem readChars_quotedText {chars : List Char} {fuel : Nat} (h : chars.length < fuel) :
    readChars fuel (chars.flatMap escapeControl ++ '"' :: rest) = some (chars, rest) := by
  induction chars generalizing fuel with
  | nil =>
    obtain ⟨fuel, rfl⟩ := Nat.exists_eq_succ_of_ne_zero (Nat.ne_of_gt h)
    simp [readChars]
  | cons c chars ih =>
    obtain ⟨fuel, rfl⟩ := Nat.exists_eq_succ_of_ne_zero (Nat.ne_of_gt (Nat.zero_lt_of_lt h))
    rw [List.flatMap_cons, List.append_assoc, Nat.succ_eq_add_one, readChars_escapeControl,
      ih (by simpa using h)]
    rfl

theorem length_escapeControl_pos (c : Char) : 1 ≤ (escapeControl c).length := by
  rw [escapeControl]
  split
  · simp
  · split_ifs <;> simp [escapeUnit]

theorem length_le_escaped (chars : List Char) :
    chars.length ≤ (chars.flatMap escapeControl).length := by
  induction chars with
  | nil => simp
  | cons c chars ih =>
    have hpos := length_escapeControl_pos c
    rw [List.flatMap_cons, List.length_append, List.length_cons]
    omega

theorem readString_quotedText (s : String) :
    readString (quotedText s ++ rest) = some (s, rest) := by
  have hfront : quotedText s ++ rest = '"' :: (s.toList.flatMap escapeControl ++ '"' :: rest) := by
    simp [quotedText]
  have hfuel : s.toList.length < (quotedText s ++ rest).length := by
    have hle := length_le_escaped s.toList
    rw [hfront]
    simp only [List.length_cons, List.length_append]
    omega
  have hexpect : expect '"' (quotedText s ++ rest) =
      some (s.toList.flatMap escapeControl ++ '"' :: rest) := by
    rw [hfront, expect, if_pos rfl]
  simp only [readString, hexpect, Option.bind_eq_bind, Option.bind_some, readChars_quotedText hfuel,
    Option.pure_def, String.ofList_toList]

end

variable {ν : Type} {numbers : NumberReader ν}

def Field.value : Field → JsonValue ν
  | .null => .null
  | .bool b => .bool b
  | .str s => .str s

/-- The entries after the members of a flat object. -/
def entriesOf (entries : JsonEntries ν) (members : List (String × Field)) : JsonEntries ν :=
  members.foldl (fun entries member => entries.set member.1 member.2.value) entries

section

variable {c : Char} {rest : List Char}

theorem Field.skipSpace_text (value : Field) :
    skipSpace (' ' :: (value.text ++ rest)) = value.text ++ rest := by
  have hdrop : skipSpace (' ' :: (value.text ++ rest)) = skipSpace (value.text ++ rest) := rfl
  rw [hdrop]
  match value with
  | .null => rfl
  | .bool true => rfl
  | .bool false => rfl
  | .str s => exact skipSpace_cons (by decide)

/-- A value is read back, whatever follows it. -/
theorem readValue_field (value : Field) (fuel : Nat) :
    readValue numbers (fuel + 1) (value.text ++ rest) = some (value.value, rest) := by
  match value with
  | .null => rfl
  | .bool true => rfl
  | .bool false => rfl
  | .str s =>
    have hread : readString (quotedText s ++ rest) = some (s, rest) := readString_quotedText s
    rw [Field.text]
    rw [quotedText, List.cons_append, List.cons_append] at hread ⊢
    rw [readValue, if_pos rfl, hread]
    rfl

theorem readMembers_last {member : String × Field} {entries : JsonEntries ν} (fuel : Nat) :
    readMembers numbers (fuel + 2) entries (memberText member ++ '}' :: rest) =
      some (entries.set member.1 member.2.value, rest) := by
  have hcolon : ∀ text, expect ':' (skipSpace (':' :: text)) = some text := fun text =>
    expect_skipSpace (by decide)
  have hbrace : expect '}' (skipSpace ('}' :: rest)) = some rest := expect_skipSpace (by decide)
  rw [memberText, readMembers, List.append_assoc]
  simp only [readString_quotedText, List.cons_append, Option.bind_eq_bind, Option.bind_some, hcolon,
    Field.skipSpace_text, readValue_field, hbrace, Option.pure_def]

/-- A member before another one. -/
theorem readMembers_more {member : String × Field} {entries : JsonEntries ν} (fuel : Nat) :
    readMembers numbers (fuel + 2) entries (memberText member ++ ',' :: rest) =
      readMembers numbers (fuel + 1) (entries.set member.1 member.2.value) (skipSpace rest) := by
  have hcolon : ∀ text, expect ':' (skipSpace (':' :: text)) = some text := fun text =>
    expect_skipSpace (by decide)
  have hcomma : expect ',' (skipSpace (',' :: rest)) = some rest := expect_skipSpace (by decide)
  have hbrace : expect '}' (skipSpace (',' :: rest)) = none := by
    rw [skipSpace_cons (by decide)]
    rfl
  rw [memberText, readMembers, List.append_assoc]
  simp only [readString_quotedText, List.cons_append, Option.bind_eq_bind, Option.bind_some, hcolon,
    Field.skipSpace_text, readValue_field, hbrace, hcomma]

theorem membersText_head (member : String × Field) (members : List (String × Field)) :
    ∃ rest, membersText (member :: members) = '"' :: rest := by
  cases members with
  | nil => exact ⟨_, rfl⟩
  | cons next members => exact ⟨_, rfl⟩

theorem length_le_membersText (members : List (String × Field)) :
    members.length ≤ (membersText members).length := by
  induction members with
  | nil => simp
  | cons member members ih =>
    cases members with
    | nil => simp [membersText]
    | cons next members =>
      simp only [membersText, List.length_append, List.length_cons] at ih ⊢
      omega

theorem readMembers_membersText {member : String × Field} {members : List (String × Field)}
    {entries : JsonEntries ν} (fuel : Nat) (hfuel : members.length ≤ fuel) :
    readMembers numbers (fuel + 2) entries (membersText (member :: members)) =
      some (entriesOf entries (member :: members), []) := by
  induction members generalizing member entries fuel with
  | nil => exact readMembers_last fuel
  | cons next members ih =>
    obtain ⟨fuel, rfl⟩ := Nat.exists_eq_add_of_le' (Nat.one_le_of_lt hfuel)
    obtain ⟨text, htext⟩ := membersText_head next members
    have hspace : skipSpace (' ' :: membersText (next :: members)) =
        membersText (next :: members) := by
      rw [htext]
      rfl
    calc readMembers numbers (fuel + 1 + 2) entries (membersText (member :: next :: members))
        = readMembers numbers (fuel + 2) (entries.set member.1 member.2.value)
            (skipSpace (' ' :: membersText (next :: members))) := readMembers_more (fuel + 1)
      _ = some (entriesOf entries (member :: next :: members), []) := by
        rw [hspace, ih fuel (by simpa using hfuel)]
        rfl

/-- A flat object is read back. -/
theorem loads_dumps (members : List (String × Field)) :
    loads numbers (dumps members) = some (.obj (entriesOf [] members)) := by
  have hspace : skipSpace (dumps members) = dumps members := skipSpace_cons (by decide)
  have hvalue : readValue numbers ((dumps members).length + 1) (dumps members) =
      some (.obj (entriesOf [] members), []) := by
    cases members with
    | nil => rfl
    | cons member members =>
      obtain ⟨text, htext⟩ := membersText_head member members
      have hlength := length_le_membersText (member :: members)
      obtain ⟨fuel, hfuel⟩ : ∃ fuel, (dumps (member :: members)).length = fuel + 2 ∧
          members.length ≤ fuel := by
        refine ⟨(membersText (member :: members)).length - 1, ?_, ?_⟩
        · simp only [dumps, List.length_cons] at hlength ⊢
          omega
        · rw [List.length_cons] at hlength
          omega
      have hopen : skipSpace (membersText (member :: members)) = membersText (member :: members) ∧
          expect '}' (membersText (member :: members)) = none := by
        rw [htext]
        exact ⟨skipSpace_cons (by decide), rfl⟩
      rw [hfuel.1, dumps, readValue, if_neg (by decide), if_pos rfl, hopen.1, hopen.2]
      simp only [readMembers_membersText fuel hfuel.2, Option.map_some]
  simp only [loads, hspace, hvalue, Option.bind_eq_bind, Option.bind_some]
  rfl

end

/-- The bounded quantifier, checked character by character. -/
theorem printable_of_all {text : List Char} (h : (text.all fun d => 32 ≤ d.toNat) = true) :
    ∀ d ∈ text, 32 ≤ d.toNat := by
  intro d hd
  exact of_decide_eq_true (List.all_eq_true.mp h d hd)

/-- Characters that are written as they are or not at all. -/
theorem escapeControl_printable {c d : Char} (h : d ∈ escapeControl c) : 32 ≤ d.toNat := by
  have hshort : ∀ entry ∈ shortEscapes, 32 ≤ entry.1.toNat := by decide
  have hdigit : ∀ n < 16, 32 ≤ (Nat.digitChar n).toNat := by decide
  rw [escapeControl] at h
  split at h
  · rename_i letter c' hfound
    rcases List.mem_cons.mp h with rfl | hd
    · decide
    · rw [List.mem_singleton.mp hd]
      exact hshort _ (List.mem_of_find?_eq_some hfound)
  · split_ifs at h with hcontrol
    · rcases List.mem_cons.mp h with rfl | h
      · decide
      rcases List.mem_cons.mp h with rfl | h
      · decide
      simp only [unitDigits, List.mem_cons, List.not_mem_nil, or_false] at h
      rcases h with rfl | rfl | rfl | rfl <;> exact hdigit _ (by omega)
    · rw [List.mem_singleton.mp h]
      omega

theorem quotedText_printable {s : String} {d : Char} (h : d ∈ quotedText s) : 32 ≤ d.toNat := by
  simp only [quotedText, List.cons_append, List.mem_cons, List.mem_append, List.mem_flatMap,
    List.not_mem_nil, or_false] at h
  rcases h with rfl | ⟨c, -, hd⟩ | rfl
  · decide
  · exact escapeControl_printable hd
  · decide

theorem Field.text_printable {value : Field} : ∀ d ∈ value.text, 32 ≤ d.toNat := by
  match value with
  | .null => exact printable_of_all rfl
  | .bool true => exact printable_of_all rfl
  | .bool false => exact printable_of_all rfl
  | .str s => exact fun d => quotedText_printable

theorem memberText_printable {member : String × Field} {d : Char} (h : d ∈ memberText member) :
    32 ≤ d.toNat := by
  simp only [memberText, List.mem_append, List.mem_cons] at h
  rcases h with hd | rfl | rfl | hd
  · exact quotedText_printable hd
  · decide
  · decide
  · exact Field.text_printable _ hd

/-- No control character is left, so that the object is one line. -/
theorem dumps_printable {members : List (String × Field)} {d : Char} (h : d ∈ dumps members) :
    32 ≤ d.toNat := by
  have hmembers : d ∈ membersText members → 32 ≤ d.toNat := by
    clear h
    induction members using membersText.induct with
    | case1 =>
      intro h
      rw [List.mem_singleton.mp h]
      decide
    | case2 member =>
      intro h
      rcases List.mem_append.mp h with hd | hd
      · exact memberText_printable hd
      · rw [List.mem_singleton.mp hd]
        decide
    | case3 member rest hrest ih =>
      intro h
      rw [membersText] at h
      · simp only [List.mem_append, List.mem_cons] at h
        rcases h with hd | rfl | rfl | hd
        · exact memberText_printable hd
        · decide
        · decide
        · exact ih hd
      · exact hrest
  rcases List.mem_cons.mp h with rfl | hd
  · decide
  · exact hmembers hd

theorem membersText_last (members : List (String × Field)) :
    ∃ front, membersText members = front ++ ['}'] := by
  induction members using membersText.induct with
  | case1 => exact ⟨[], rfl⟩
  | case2 member => exact ⟨memberText member, rfl⟩
  | case3 member rest hrest ih =>
    obtain ⟨front, hfront⟩ := ih
    rw [membersText]
    · exact ⟨memberText member ++ ',' :: ' ' :: front, by rw [hfront]; simp⟩
    · exact hrest

theorem dumps_last (members : List (String × Field)) :
    ∃ front, dumps members = front ++ ['}'] := by
  obtain ⟨front, hfront⟩ := membersText_last members
  exact ⟨'{' :: front, by rw [dumps, hfront, List.cons_append]⟩

end Framework.JsonObject
