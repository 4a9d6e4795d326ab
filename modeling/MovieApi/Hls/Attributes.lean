import MovieApi.TelegramBot.Text
import MovieApi.Text.Lines

/-!
# Lines of an HLS playlist

Tags with their attribute lists, lines that refer to another resource, and decimal
numbers.
-/

namespace MovieApi.Hls

open Text
open TelegramBot (isSpace stripLeft strip)

abbrev Line := List Char

/-! ## References -/

/-- `_is_uri_line`. -/
def isUriLine (line : Line) : Bool :=
  match strip line with
  | [] => false
  | c :: _ => decide (c ≠ '#')

theorem mem_of_mem_strip {c : Char} {line : Line} (h : c ∈ strip line) : c ∈ line := by
  have hleft {text : List Char} (hc : c ∈ stripLeft text) : c ∈ text :=
    (List.dropWhile_sublist _).subset hc
  exact hleft (List.mem_reverse.1 (hleft (List.mem_reverse.1 h)))

theorem stripLeft_of_head {c : Char} {text : List Char} (h : isSpace c = false) :
    stripLeft (c :: text) = c :: text := by
  simp [stripLeft, h]

theorem stripLeft_stripLeft (text : List Char) : stripLeft (stripLeft text) = stripLeft text :=
  List.dropWhile_idempotent _ _

/-- What is left of a text without white space in front has none in front. -/
theorem stripLeft_strip (text : List Char) : stripLeft (strip text) = strip text := by
  unfold strip
  cases hrest : (stripLeft (stripLeft text).reverse).reverse with
  | nil => rfl
  | cons c rest =>
      -- the first character is that of the text stripped in front
      have hsuffix : stripLeft (stripLeft text).reverse <:+ (stripLeft text).reverse :=
        List.dropWhile_suffix isSpace
      have hprefix : (c :: rest) <+: stripLeft text := by
        have hreverse := List.reverse_prefix.2 hsuffix
        rwa [List.reverse_reverse, hrest] at hreverse
      obtain ⟨tail, htail⟩ := hprefix
      have hhead : isSpace c = false := by
        have hidem := stripLeft_stripLeft text
        rw [← htail, List.cons_append] at hidem
        by_contra hspace
        rw [Bool.not_eq_false] at hspace
        have hlength := congrArg List.length hidem
        rw [stripLeft, List.dropWhile_cons_of_pos hspace, List.length_cons] at hlength
        have hle := (List.dropWhile_sublist isSpace (l := rest ++ tail)).length_le
        omega
      exact stripLeft_of_head hhead

theorem strip_strip (text : List Char) : strip (strip text) = strip text := by
  have houter : strip (strip text) = (stripLeft (stripLeft (strip text)).reverse).reverse := rfl
  rw [houter, stripLeft_strip, strip, List.reverse_reverse, stripLeft_stripLeft]

theorem isUriLine_strip (line : Line) : isUriLine (strip line) = isUriLine line := by
  unfold isUriLine
  rw [strip_strip]

theorem unbroken_strip {line : Line} (h : Unbroken line) : Unbroken (strip line) :=
  fun c hc => h c (mem_of_mem_strip hc)

/-! ## Attribute lists -/

/-- Split at the commas outside quoted strings. -/
def splitFields : Bool → List Char → List (List Char)
  | _, [] => [[]]
  | quoted, c :: text =>
      if c = ',' ∧ quoted = false then [] :: splitFields false text
      else consLine c (splitFields (if c = '"' then !quoted else quoted) text)

/-- The attributes of a tag, with their names. -/
def attributes (line : Line) : List (List Char × List Char) :=
  (splitFields false ((line.dropWhile fun c => c ≠ ':').drop 1)).map fun field =>
    (field.takeWhile fun c => c ≠ '=', (field.dropWhile fun c => c ≠ '=').drop 1)

/-- The value of the first attribute with this name, empty if there is none. -/
def attributeValue (name : String) (line : Line) : List Char :=
  (((attributes line).find? fun field => decide (field.1 = name.toList)).map Prod.snd).getD []

/-! ## Numbers -/

section

-- the value of a decimal digit, in any script
variable (digit? : Char → Option Nat)

/-- The digits at the beginning of a text. -/
def leadingDigits : List Char → List Nat
  | [] => []
  | c :: text =>
      match digit? c with
      | none => []
      | some d => d :: leadingDigits text

end

def number (digits : List Nat) : Nat := digits.foldl (fun n d => 10 * n + d) 0

/-- The digits of ASCII. -/
def asciiDigit? (c : Char) : Option Nat :=
  if '0' ≤ c ∧ c ≤ '9' then some (c.toNat - '0'.toNat) else none

end MovieApi.Hls
