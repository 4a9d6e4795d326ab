import Mathlib.Data.List.Basic

/-!
# Lines of a text

Python's `str.splitlines`, and the text that `"\n".join` makes of lines.
-/

namespace MovieApi.Text

/-- The characters that end a line for `str.splitlines`. -/
def isBreak (c : Char) : Bool :=
  let n := c.toNat
  (10 ≤ n && n ≤ 13) || (28 ≤ n && n ≤ 30) || n == 0x85 || n == 0x2028 || n == 0x2029

/-- A character in front of the first line. -/
def consLine (c : Char) : List (List Char) → List (List Char)
  | [] => [[c]]
  | line :: lines => (c :: line) :: lines

/-- The lines of the rest of a text; `cr` says that a carriage return came just before,
which takes a line feed along. -/
def linesFrom : Bool → List Char → List (List Char)
  | _, [] => []
  | cr, c :: text =>
      if cr && decide (c = '\n') then linesFrom false text
      else if isBreak c then [] :: linesFrom (decide (c = '\r')) text
      else consLine c (linesFrom false text)

/-- `str.splitlines`. -/
def splitLines (text : List Char) : List (List Char) := linesFrom false text

/-- `"\n".join(lines) + "\n"`. -/
def joinLines (lines : List (List Char)) : List Char := ['\n'].intercalate lines ++ ['\n']

theorem joinLines_eq {lines : List (List Char)} (h : lines ≠ []) :
    joinLines lines = lines.flatMap fun line => line ++ ['\n'] := by
  induction lines with
  | nil => exact absurd rfl h
  | cons line lines ih =>
      cases lines with
      | nil => simp [joinLines, List.intercalate]
      | cons next lines =>
          have hrest := ih (by simp)
          rw [List.flatMap_cons, ← hrest]
          simp [joinLines, List.intercalate]

/-- No line holds a line break. -/
def Unbroken (line : List Char) : Prop := ∀ c ∈ line, isBreak c = false

theorem unbroken_consLine {c : Char} {lines : List (List Char)} (hc : isBreak c = false)
    (h : ∀ line ∈ lines, Unbroken line) : ∀ line ∈ consLine c lines, Unbroken line := by
  have hcons {line : List Char} (hline : Unbroken line) : Unbroken (c :: line) := by
    intro c' hc'
    rcases List.mem_cons.1 hc' with rfl | hc'
    · exact hc
    · exact hline c' hc'
  cases lines with
  | nil =>
      intro line hline
      rw [consLine, List.mem_singleton] at hline
      exact hline ▸ hcons (by simp [Unbroken])
  | cons first lines =>
      intro line hline
      rcases List.mem_cons.1 hline with rfl | hline
      · exact hcons (h first (by simp))
      · exact h line (by simp [hline])

theorem unbroken_linesFrom (cr : Bool) (text : List Char) :
    ∀ line ∈ linesFrom cr text, Unbroken line := by
  induction text generalizing cr with
  | nil => simp [linesFrom]
  | cons c text ih =>
      unfold linesFrom
      split
      · exact ih false
      split
      · intro line hline
        rcases List.mem_cons.1 hline with rfl | hline
        · simp [Unbroken]
        · exact ih _ line hline
      · next hbreak => exact unbroken_consLine (by simpa using hbreak) (ih false)

theorem unbroken_of_splitLines {text line : List Char} (h : line ∈ splitLines text) :
    Unbroken line :=
  unbroken_linesFrom false text line h

theorem linesFrom_append {line : List Char} (h : Unbroken line) (text : List Char) :
    linesFrom false (line ++ '\n' :: text) = line :: linesFrom false text := by
  induction line with
  | nil => rfl
  | cons c line ih =>
      have hc : isBreak c = false := h c (by simp)
      have hrest := ih fun c' hc' => h c' (by simp [hc'])
      rw [List.cons_append, linesFrom, hrest, hc]
      rfl

/-- Lines without breaks come back from the text made of them. -/
theorem splitLines_joinLines {lines : List (List Char)} (hne : lines ≠ [])
    (h : ∀ line ∈ lines, Unbroken line) : splitLines (joinLines lines) = lines := by
  rw [joinLines_eq hne, splitLines]
  clear hne
  induction lines with
  | nil => rfl
  | cons line lines ih =>
      rw [List.flatMap_cons, List.append_assoc, List.singleton_append,
        linesFrom_append (h line (by simp)), ih fun line' hline' => h line' (by simp [hline'])]

/-- Two texts made of as many lines are the same only when the lines are. -/
theorem joinLines_inj {lines lines' : List (List Char)} (hlength : lines.length = lines'.length)
    (h : ∀ line ∈ lines, Unbroken line) (h' : ∀ line ∈ lines', Unbroken line)
    (heq : joinLines lines = joinLines lines') : lines = lines' := by
  by_cases hne : lines = []
  · rw [hne, List.length_nil] at hlength
    rw [hne, List.length_eq_zero_iff.1 hlength.symm]
  · have hne' : lines' ≠ [] := by
      intro hnil
      rw [hnil, List.length_nil] at hlength
      exact hne (List.length_eq_zero_iff.1 hlength)
    rw [← splitLines_joinLines hne h, heq, splitLines_joinLines hne' h']

end MovieApi.Text
