/-!
# Blank characters and trimming

A character is blank when it has the Unicode property White_Space. Trimming drops the blank
characters at both ends of a text; a text that holds nothing else counts as blank.

The property is a short list of ranges, so it is written out. Trimming takes only from the ends
(`exists_append_trim`).
-/

set_option autoImplicit false

namespace DualToken.Text

/-- The characters with the Unicode property White_Space. -/
def isBlank (character : Char) : Bool :=
  let code := character.toNat
  (0x09 ≤ code && code ≤ 0x0D) || code == 0x20 || code == 0x85 || code == 0xA0 ||
    code == 0x1680 || (0x2000 ≤ code && code ≤ 0x200A) || code == 0x2028 || code == 0x2029 ||
    code == 0x202F || code == 0x205F || code == 0x3000

/-- The characters without the blank ones at the front. -/
def trimStart (characters : List Char) : List Char :=
  characters.dropWhile isBlank

/-- The characters without the blank ones at the back. -/
def trimEnd (characters : List Char) : List Char :=
  (trimStart characters.reverse).reverse

/-- The characters without the blank ones at both ends. -/
def trimBoth (characters : List Char) : List Char :=
  trimEnd (trimStart characters)

/-- The text without the blank characters at both ends. -/
def trim (text : String) : String :=
  String.ofList (trimBoth text.toList)

/-- Whether the text holds blank characters only. -/
def isBlankText (text : String) : Bool :=
  text.toList.all isBlank

/-- Trimming takes blank characters from the two ends and nothing else. -/
theorem exists_append_trim (characters : List Char) :
    ∃ before after : List Char, characters = before ++ trimBoth characters ++ after ∧
      before.all isBlank ∧ after.all isBlank := by
  refine ⟨characters.takeWhile isBlank,
    ((trimStart characters).reverse.takeWhile isBlank).reverse, ?_, ?_, ?_⟩
  · have back : trimStart characters =
        trimBoth characters ++ ((trimStart characters).reverse.takeWhile isBlank).reverse := by
      have split := List.takeWhile_append_dropWhile (p := isBlank)
        (l := (trimStart characters).reverse)
      have turned := congrArg List.reverse split
      rw [List.reverse_append, List.reverse_reverse] at turned
      exact turned.symm
    rw [List.append_assoc, ← back]
    exact (List.takeWhile_append_dropWhile).symm
  · exact List.all_takeWhile
  · rw [List.all_reverse]
    exact List.all_takeWhile

end DualToken.Text
