import Mathlib

/-!
# Text as the bot reads it

Python's `str.strip` and `str.split(maxsplit=1)`, and the `/start` command.
-/

namespace MovieApi.TelegramBot

/-- The characters `str.isspace` counts as white space. -/
def isSpace (c : Char) : Bool :=
  let n := c.toNat
  (9 ≤ n && n ≤ 13) || (28 ≤ n && n ≤ 32) || n == 0x85 || n == 0xa0 || n == 0x1680 ||
    (0x2000 ≤ n && n ≤ 0x200a) || n == 0x2028 || n == 0x2029 || n == 0x202f || n == 0x205f ||
    n == 0x3000

def stripLeft (text : List Char) : List Char := text.dropWhile isSpace

/-- `str.strip`. -/
def strip (text : List Char) : List Char := (stripLeft (stripLeft text).reverse).reverse

/-- `str.split(maxsplit=1)` of a stripped text: the first word and the rest, if any. -/
def splitWord (text : List Char) : List Char × Option (List Char) :=
  let word := text.takeWhile fun c => !isSpace c
  match stripLeft (text.dropWhile fun c => !isSpace c) with
  | [] => (word, none)
  | rest => (word, some rest)

def startPrefix : List Char := "login-".toList

/-- `parse_login_start`: the code of a `/start login-…` command. -/
def parseLoginStart (text : Option String) : Option String :=
  match text with
  | none => none
  | some text =>
      match splitWord (strip text.toList) with
      | (word, some rest) =>
          if word.takeWhile (fun c => c ≠ '@') = "/start".toList then
            let payload := strip rest
            if startPrefix.isPrefixOf payload ∧ payload ≠ startPrefix then
              some (String.ofList (payload.drop startPrefix.length))
            else none
          else none
      | (_, none) => none

example : parseLoginStart (some "/start@reeltime_bot login-abc") = some "abc" := by decide

example : parseLoginStart (some "/start login-") = none := by decide

end MovieApi.TelegramBot
