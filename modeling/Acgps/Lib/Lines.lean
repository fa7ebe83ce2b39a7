import Mathlib.Data.List.Basic
import Mathlib.Data.List.Count

/-!
# Files of lines

A file that is only ever appended to holds lines, each behind a line feed. A write that is cut short
leaves a torn line at the end, and whatever is appended next continues it.

## Main Definitions

* `splitKeepends` - the lines of a file with their ends, at every line end that a reader knows
* `terminatedLines` - the lines that end in a line feed
* `fileOf` - the file of some lines

## Key Theorems

* `splitKeepends_fileOf_append`, `terminatedLines_fileOf_append` - **the lines of a file are read back,
  whatever follows them**
* `mem_splitKeepends_torn` - a line is found behind a torn one iff it stands before it
-/

namespace Lines

/-! ## Section 1: Lines -/

/-- A text without a line end. -/
def IsLine (line : List Char) : Prop := ∀ c ∈ line, c ≠ '\n' ∧ c ≠ '\r'

/-- The lines of a file with their ends: a line feed, a carriage return, or both. -/
def splitKeepends : List Char → List (List Char)
  | [] => []
  | '\r' :: '\n' :: rest => ['\r', '\n'] :: splitKeepends rest
  | c :: rest =>
      if c = '\n' ∨ c = '\r' then [c] :: splitKeepends rest
      else
        match splitKeepends rest with
        | [] => [[c]]
        | line :: lines => (c :: line) :: lines

/-- The lines of a file that end in a line feed, without it. -/
def terminatedLines : List Char → List (List Char)
  | [] => []
  | c :: rest =>
      if c = '\n' then [] :: terminatedLines rest
      else
        match terminatedLines rest with
        | [] => []
        | line :: lines => (c :: line) :: lines

/-- The file of some lines. -/
def fileOf (lines : List (List Char)) : List Char := lines.flatMap (fun line => line ++ ['\n'])

@[simp] theorem fileOf_nil : fileOf [] = [] := rfl

theorem fileOf_cons (line : List Char) (lines : List (List Char)) :
    fileOf (line :: lines) = line ++ '\n' :: fileOf lines := by
  simp [fileOf]

theorem fileOf_concat (lines : List (List Char)) (line : List Char) :
    fileOf (lines ++ [line]) = fileOf lines ++ (line ++ ['\n']) := by
  simp [fileOf]

theorem IsLine.tail {c : Char} {line : List Char} (h : IsLine (c :: line)) : IsLine line :=
  fun d hd => h d (List.mem_cons_of_mem c hd)

theorem isLine_of_all {line : List Char} (h : line.all (fun c => c != '\n' && c != '\r') = true) :
    IsLine line := by
  intro c hc
  simpa using List.all_eq_true.mp h c hc

theorem IsLine.append {a b : List Char} (ha : IsLine a) (hb : IsLine b) : IsLine (a ++ b) := by
  intro c hc
  rcases List.mem_append.mp hc with hc | hc
  · exact ha c hc
  · exact hb c hc

theorem isLine_concat {lines : List (List Char)} (h : ∀ line ∈ lines, IsLine line)
    {last : List Char} (hlast : IsLine last) : ∀ line ∈ lines ++ [last], IsLine line := by
  intro line hline
  rcases List.mem_append.mp hline with hline | hline
  · exact h line hline
  · exact List.mem_singleton.mp hline ▸ hlast

/-! ## Section 2: Reading lines back -/

/-- An ordinary character goes to the line that follows. -/
theorem splitKeepends_cons {c : Char} (hc : c ≠ '\n' ∧ c ≠ '\r') (rest : List Char) :
    splitKeepends (c :: rest) =
      match splitKeepends rest with
      | [] => [[c]]
      | line :: lines => (c :: line) :: lines := by
  rw [splitKeepends, if_neg (by simp [hc])]
  intro _ hcr
  exact absurd hcr hc.2

theorem splitKeepends_lineFeed (rest : List Char) :
    splitKeepends ('\n' :: rest) = ['\n'] :: splitKeepends rest := by
  rw [splitKeepends, if_pos (Or.inl rfl)]
  intro _ hcr
  exact absurd hcr (by decide)

/-- A line is read up to its line feed. -/
theorem splitKeepends_line_append {line : List Char} (h : IsLine line) (rest : List Char) :
    splitKeepends (line ++ '\n' :: rest) = (line ++ ['\n']) :: splitKeepends rest := by
  induction line with
  | nil => exact splitKeepends_lineFeed rest
  | cons c line ih =>
      rw [List.cons_append, splitKeepends_cons (h c List.mem_cons_self), ih h.tail]
      rfl

/-- A torn line is read as it is. -/
theorem splitKeepends_torn {torn : List Char} (h : IsLine torn) :
    splitKeepends torn = if torn = [] then [] else [torn] := by
  induction torn with
  | nil => rfl
  | cons c torn ih =>
      rw [splitKeepends_cons (h c List.mem_cons_self), ih h.tail]
      by_cases hnil : torn = []
      · simp [hnil]
      · simp [hnil]

theorem terminatedLines_line_append {line : List Char} (h : IsLine line) (rest : List Char) :
    terminatedLines (line ++ '\n' :: rest) = line :: terminatedLines rest := by
  induction line with
  | nil => simp [terminatedLines]
  | cons c line ih =>
      rw [List.cons_append, terminatedLines, if_neg (h c List.mem_cons_self).1, ih h.tail]

/-- **The lines of a file are read back with their ends, whatever follows them.** -/
theorem splitKeepends_fileOf_append {lines : List (List Char)} (h : ∀ line ∈ lines, IsLine line)
    (rest : List Char) :
    splitKeepends (fileOf lines ++ rest)
      = lines.map (fun line => line ++ ['\n']) ++ splitKeepends rest := by
  induction lines with
  | nil => rfl
  | cons line lines ih =>
      obtain ⟨hline, hlines⟩ := List.forall_mem_cons.mp h
      rw [fileOf_cons, List.append_assoc, List.cons_append, splitKeepends_line_append hline,
        ih hlines]
      rfl

/-- **The lines of a file are read back, whatever follows them.** -/
theorem terminatedLines_fileOf_append {lines : List (List Char)} (h : ∀ line ∈ lines, IsLine line)
    (rest : List Char) :
    terminatedLines (fileOf lines ++ rest) = lines ++ terminatedLines rest := by
  induction lines with
  | nil => rfl
  | cons line lines ih =>
      obtain ⟨hline, hlines⟩ := List.forall_mem_cons.mp h
      rw [fileOf_cons, List.append_assoc, List.cons_append, terminatedLines_line_append hline,
        ih hlines]
      rfl

theorem terminatedLines_fileOf {lines : List (List Char)} (h : ∀ line ∈ lines, IsLine line) :
    terminatedLines (fileOf lines) = lines := by
  simpa [terminatedLines] using terminatedLines_fileOf_append h []

/-! ## Section 3: Membership -/

/-- A line is found in a file as often as it stands there. -/
theorem count_splitKeepends_fileOf {lines : List (List Char)} (h : ∀ line ∈ lines, IsLine line)
    (line : List Char) : (splitKeepends (fileOf lines)).count (line ++ ['\n']) = lines.count line := by
  have hread := splitKeepends_fileOf_append h []
  rw [List.append_nil] at hread
  rw [hread, splitKeepends, List.append_nil]
  exact List.count_map_of_injective lines _ (List.append_left_injective ['\n']) line

/-- **A line is found behind a torn one iff it stands before it**: a torn line has no end. -/
theorem mem_splitKeepends_torn {lines : List (List Char)} (h : ∀ line ∈ lines, IsLine line)
    {torn : List Char} (htorn : IsLine torn) {line : List Char} :
    line ++ ['\n'] ∈ splitKeepends (fileOf lines ++ torn) ↔ line ∈ lines := by
  have hend : line ++ ['\n'] ∉ splitKeepends torn := by
    rw [splitKeepends_torn htorn]
    split
    · exact List.not_mem_nil
    · intro hmem
      have hline := htorn '\n' (List.mem_singleton.mp hmem ▸ by simp)
      exact hline.1 rfl
  rw [splitKeepends_fileOf_append h, List.mem_append, or_iff_left hend]
  exact List.mem_map_of_injective (List.append_left_injective ['\n'])

end Lines
