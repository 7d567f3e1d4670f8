import ExternalFields.Text.Basic

/-!
# Terminal codes

An escape character and a bracket start a code by which a text changes the colours of a terminal or
moves its cursor: numbers, semicolons and question marks follow, and a letter ends it. What is
printed elsewhere than on a terminal is printed without them.

* **`codeEnd?`**: what follows a code
* **`dropCodes`**: a text without codes
-/

namespace ExternalFields.Text

/-- The character that starts a code. -/
def escapeMark : CodePoint := '\x1B'

/-- Whether a code point may stand between the bracket and the letter of a code. -/
def isCodeParameter (c : CodePoint) : Bool :=
  c == ';' || c == '?' || c.char.isDigit

/-- What follows the code whose first character is followed by `rest`; nothing if there is no
code. -/
def codeEnd? (rest : Text) : Option Text :=
  if rest.startsWith "[" then
    match (rest.drop 1).dropWhile isCodeParameter with
    | letter :: others => if letter.char.isAlpha then some others else none
    | [] => none
  else none

/-- What follows a code is shorter than what it follows. -/
theorem codeEnd?_length {rest others : Text} (h : codeEnd? rest = some others) :
    others.length < rest.length + 1 := by
  unfold codeEnd? at h
  split at h
  · have shorter := (List.dropWhile_suffix (l := rest.drop 1) isCodeParameter).length_le
    have dropped : (rest.drop 1).length ≤ rest.length := by simp
    split at h
    · rename_i tail same
      rw [same] at shorter
      split at h
      · cases h
        simp only [List.length_cons] at shorter
        omega
      · cases h
    · cases h
  · cases h

/-- A text without codes. -/
def dropCodes (text : Text) : Text :=
  match text with
  | [] => []
  | c :: rest =>
    if c = escapeMark then
      match _h : codeEnd? rest with
      | some others => dropCodes others
      | none => c :: dropCodes rest
    else c :: dropCodes rest
termination_by text.length
decreasing_by
  · have := codeEnd?_length _h
    simpa using this
  · simp
  · simp

end ExternalFields.Text
