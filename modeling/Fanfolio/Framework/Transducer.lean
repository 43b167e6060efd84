import Mathlib.Data.List.Basic

/-!
# Machines that read an input in pieces

A machine takes the next piece of an input and gives out what the piece completes. How the input
was cut into pieces makes no difference, and machines in a row are a machine again.
-/

namespace Framework

/-- What a piece makes of the state, and what is given out for it. -/
structure Transducer (σ α β : Type*) where
  step : σ → List α → σ × List β
  step_nil : ∀ s, step s [] = (s, [])
  step_append : ∀ s a b, step s (a ++ b) =
    ((step (step s a).1 b).1, (step s a).2 ++ (step (step s a).1 b).2)

namespace Transducer

variable {σ τ α β γ : Type*}

/-- One piece after the other. -/
def run (m : Transducer σ α β) : σ → List (List α) → σ × List β
  | s, [] => (s, [])
  | s, piece :: pieces =>
    let (s', out) := m.step s piece
    let (s'', rest) := run m s' pieces
    (s'', out ++ rest)

/-- The pieces of an input are read like the whole of it. -/
theorem run_eq_step (m : Transducer σ α β) (s : σ) (pieces : List (List α)) :
    m.run s pieces = m.step s pieces.flatten := by
  induction pieces generalizing s with
  | nil => rw [List.flatten_nil, m.step_nil, run]
  | cons piece pieces ih => simp only [List.flatten_cons, m.step_append, run, ih]

/-- What is given out before the input ends is the beginning of what is given out in all. -/
theorem run_prefix (m : Transducer σ α β) (s : σ) {pieces : List (List α)} {rest input : List α}
    (h : pieces.flatten ++ rest = input) :
    (m.run s pieces).2 <+: (m.step s input).2 ∧
      (rest = [] → (m.run s pieces).2 = (m.step s input).2) := by
  rw [run_eq_step, ← h, m.step_append]
  refine ⟨List.prefix_append _ _, ?_⟩
  rintro rfl
  rw [m.step_nil, List.append_nil]

/-- The symbols of a piece, one after the other. -/
def readSymbols (f : σ → α → σ × List β) : σ → List α → σ × List β
  | s, [] => (s, [])
  | s, x :: rest =>
    let (s', out) := f s x
    let (s'', out') := readSymbols f s' rest
    (s'', out ++ out')

theorem readSymbols_append (f : σ → α → σ × List β) (s : σ) (a b : List α) :
    readSymbols f s (a ++ b) = ((readSymbols f (readSymbols f s a).1 b).1,
      (readSymbols f s a).2 ++ (readSymbols f (readSymbols f s a).1 b).2) := by
  induction a generalizing s with
  | nil => rfl
  | cons x a ih => simp only [List.cons_append, readSymbols, ih, List.append_assoc]

/-- A machine that reads one symbol at a time. -/
def ofSymbol (f : σ → α → σ × List β) : Transducer σ α β :=
  ⟨readSymbols f, fun _ => rfl, readSymbols_append f⟩

def compStep (m : Transducer σ α β) (n : Transducer τ β γ) (s : σ × τ) (piece : List α) :
    (σ × τ) × List γ :=
  let (s', between) := m.step s.1 piece
  let (t', out) := n.step s.2 between
  ((s', t'), out)

theorem compStep_nil (m : Transducer σ α β) (n : Transducer τ β γ) (s : σ × τ) :
    compStep m n s [] = (s, []) := by
  simp only [compStep, m.step_nil, n.step_nil]

theorem compStep_append (m : Transducer σ α β) (n : Transducer τ β γ) (s : σ × τ)
    (a b : List α) : compStep m n s (a ++ b) = ((compStep m n (compStep m n s a).1 b).1,
      (compStep m n s a).2 ++ (compStep m n (compStep m n s a).1 b).2) := by
  simp only [compStep, m.step_append, n.step_append]

/-- What one machine gives out is read by another. -/
def comp (m : Transducer σ α β) (n : Transducer τ β γ) : Transducer (σ × τ) α γ :=
  ⟨compStep m n, compStep_nil m n, compStep_append m n⟩

/-- Only what the first machine gives out reaches the second. -/
theorem comp_out (m : Transducer σ α β) (n : Transducer τ β γ) (s : σ) (t : τ) (piece : List α) :
    ((m.comp n).step (s, t) piece).2 = (n.step t (m.step s piece).2).2 := rfl

end Transducer

/-- `text.split(/\r?\n/)`. -/
def splitLines : List Char → List (List Char)
  | [] => [[]]
  | '\n' :: rest => [] :: splitLines rest
  | '\r' :: '\n' :: rest => [] :: splitLines rest
  | c :: rest =>
    match splitLines rest with
    | [] => [[c]]
    | line :: lines => (c :: line) :: lines

/-- What is behind the last line end. -/
def lastLine (text : List Char) : List Char := (splitLines text).getLastD []

/-- The lines that have ended. -/
def endedLines (text : List Char) : List (List Char) := (splitLines text).dropLast

theorem splitLines_ne_nil (text : List Char) : splitLines text ≠ [] := by
  fun_cases splitLines text <;> simp_all

theorem splitLines_eq (text : List Char) :
    splitLines text = endedLines text ++ [lastLine text] := by
  rw [endedLines, lastLine, List.getLastD_eq_getLast?,
    List.getLast?_eq_some_getLast (splitLines_ne_nil text), Option.getD_some,
    List.dropLast_append_getLast]

/-- A character that neither ends a line nor may be about to. -/
theorem splitLines_cons {c : Char} {rest : List Char} (hfeed : c ≠ '\n')
    (hreturn : c = '\r' → ∀ rest', rest ≠ '\n' :: rest') :
    splitLines (c :: rest) =
      (c :: (splitLines rest).headD []) :: (splitLines rest).tail := by
  rw [splitLines]
  · rcases hlines : splitLines rest with _ | ⟨line, lines⟩
    · rfl
    · rfl
  · exact hfeed
  · rintro rest' rfl rfl
    exact hreturn rfl rest' rfl

theorem splitLines_singleton {text line : List Char} (h : splitLines text = [line]) :
    line = text := by
  fun_induction splitLines text generalizing line with
  | case1 => simpa using h.symm
  | case2 rest => simp [splitLines_ne_nil] at h
  | case3 rest => simp [splitLines_ne_nil] at h
  | case4 c rest _ _ hlines => exact absurd hlines (splitLines_ne_nil rest)
  | case5 c rest _ _ line' lines hlines ih =>
    obtain ⟨rfl, rfl⟩ := List.cons.inj h
    rw [ih hlines]

theorem lines_of_eq {text : List Char} (ended : List (List Char)) {last : List Char}
    (h : splitLines text = ended ++ [last]) : endedLines text = ended ∧ lastLine text = last := by
  simp [endedLines, lastLine, h, List.getLastD_eq_getLast?]

/-- More text only adds to the last line and to what follows it. -/
theorem splitLines_append (a b : List Char) :
    splitLines (a ++ b) = endedLines a ++ splitLines (lastLine a ++ b) := by
  fun_induction splitLines a with
  | case1 => rfl
  | case2 rest ih =>
    obtain ⟨hended, hlast⟩ := lines_of_eq ([] :: endedLines rest)
      (show splitLines ('\n' :: rest) = _ by rw [splitLines, splitLines_eq rest]; rfl)
    rw [hended, hlast, List.cons_append, splitLines, ih, List.cons_append]
  | case3 rest ih =>
    obtain ⟨hended, hlast⟩ := lines_of_eq ([] :: endedLines rest)
      (show splitLines ('\r' :: '\n' :: rest) = _ by rw [splitLines, splitLines_eq rest]; rfl)
    rw [hended, hlast, List.cons_append, List.cons_append, splitLines, ih, List.cons_append]
  | case4 c rest _ _ hlines => exact absurd hlines (splitLines_ne_nil rest)
  | case5 c rest hfeed hreturn line lines hlines ih =>
    have hsplit : splitLines (c :: rest) = (c :: line) :: lines := by
      rw [splitLines_cons hfeed fun hc rest' => hreturn rest' hc, hlines]
      rfl
    rcases List.eq_nil_or_concat lines with rfl | ⟨lines, last, rfl⟩
    · obtain ⟨hended, hlast⟩ := lines_of_eq [] hsplit
      rw [hended, hlast, splitLines_singleton hlines, List.nil_append]
    · rw [List.concat_eq_append] at hlines hsplit
      obtain ⟨hended, hlast⟩ := lines_of_eq ((c :: line) :: lines) hsplit
      obtain ⟨hended', hlast'⟩ := lines_of_eq (line :: lines) hlines
      have hnext : c = '\r' → ∀ rest', rest ++ b ≠ '\n' :: rest' := by
        intro hc rest' heq
        cases rest with
        | nil => simp [splitLines] at hlines
        | cons d rest =>
          obtain ⟨rfl, -⟩ := List.cons.inj heq
          exact hreturn rest hc rfl
      rw [List.cons_append, splitLines_cons hfeed hnext, ih, hended, hlast, hended', hlast']
      rfl

theorem lines_append (a b : List Char) :
    endedLines (a ++ b) = endedLines a ++ endedLines (lastLine a ++ b) ∧
      lastLine (a ++ b) = lastLine (lastLine a ++ b) := by
  apply lines_of_eq _
  rw [splitLines_append, splitLines_eq (lastLine a ++ b), List.append_assoc]

/-- A line that has not ended. -/
structure OpenLine where
  text : List Char
  isOpen : splitLines text = [text]

theorem OpenLine.ext_text {line line' : OpenLine} (h : line.text = line'.text) : line = line' := by
  cases line
  cases line'
  cases h
  rfl

theorem splitLines_lastLine (text : List Char) : splitLines (lastLine text) = [lastLine text] := by
  have hagain := splitLines_append text []
  rw [List.append_nil, List.append_nil, splitLines_eq text, List.append_cancel_left_eq] at hagain
  exact hagain.symm

def OpenLine.empty : OpenLine := ⟨[], rfl⟩

/-- The lines that a piece ends, and the line it leaves open. -/
def cutLines (buffer : OpenLine) (piece : List Char) : OpenLine × List (List Char) :=
  (⟨lastLine (buffer.text ++ piece), splitLines_lastLine _⟩, endedLines (buffer.text ++ piece))

theorem cutLines_nil (buffer : OpenLine) : cutLines buffer [] = (buffer, []) := by
  obtain ⟨hended, hlast⟩ := lines_of_eq [] buffer.isOpen
  refine Prod.ext (OpenLine.ext_text ?_) ?_
  · simp only [cutLines, List.append_nil, hlast]
  · simp only [cutLines, List.append_nil, hended]

theorem cutLines_append (buffer : OpenLine) (a b : List Char) :
    cutLines buffer (a ++ b) = ((cutLines (cutLines buffer a).1 b).1,
      (cutLines buffer a).2 ++ (cutLines (cutLines buffer a).1 b).2) := by
  obtain ⟨hended, hlast⟩ := lines_append (buffer.text ++ a) b
  refine Prod.ext (OpenLine.ext_text ?_) ?_
  · simp only [cutLines, ← List.append_assoc, hlast]
  · simp only [cutLines, ← List.append_assoc, hended]

/-- The machine that cuts a text into its lines. -/
def lineCutter : Transducer OpenLine Char (List Char) := ⟨cutLines, cutLines_nil, cutLines_append⟩

/-- A line of a text that has no line end of its own. -/
theorem splitLines_line {line : List Char} (h : '\n' ∉ line) (hreturn : '\r' ∉ line)
    (rest : List Char) : splitLines (line ++ '\n' :: rest) = line :: splitLines rest := by
  induction line with
  | nil => rw [List.nil_append, splitLines]
  | cons c line ih =>
    rw [List.mem_cons, not_or] at h hreturn
    rw [List.cons_append, splitLines_cons (Ne.symm h.1) fun hc => absurd hc.symm hreturn.1,
      ih h.2 hreturn.2]
    rfl

theorem cutLines_line {line : List Char} (h : '\n' ∉ line) (hreturn : '\r' ∉ line) :
    cutLines .empty (line ++ ['\n']) = (.empty, [line]) := by
  obtain ⟨hended, hlast⟩ := lines_of_eq [line]
    (splitLines_line h hreturn [])
  exact Prod.ext (OpenLine.ext_text hlast) hended

/-- A machine of lines, given one line with its end. -/
theorem Transducer.step_line {σ β : Type*} (f : σ → List Char → σ × List β) (s : σ)
    {line : List Char} (h : '\n' ∉ line) (hreturn : '\r' ∉ line) :
    (lineCutter.comp (.ofSymbol f)).step (.empty, s) (line ++ ['\n']) =
      ((.empty, (f s line).1), (f s line).2) := by
  simp only [comp, compStep, lineCutter, cutLines_line h hreturn, ofSymbol, readSymbols,
    List.append_nil]

end Framework
