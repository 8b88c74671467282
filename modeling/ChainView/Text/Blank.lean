import ChainView.Text.CharClass

/-!
# Blank characters

The characters with the Unicode property `White_Space`, and trimming by them.  The property is
wider than the spaces of ASCII: it holds of the no-break space, of the line and paragraph
separators and of the ideographic space, and it does not hold of the zero-width space.
-/

namespace ChainView.Text

/-- The code points with the property `White_Space`, as closed ranges. -/
def blankRanges : List (Nat × Nat) :=
  [(0x09, 0x0D), (0x20, 0x20), (0x85, 0x85), (0xA0, 0xA0), (0x1680, 0x1680), (0x2000, 0x200A),
   (0x2028, 0x2029), (0x202F, 0x202F), (0x205F, 0x205F), (0x3000, 0x3000)]

/-- Whether a character is blank. -/
def isBlank (c : Char) : Bool :=
  inRanges blankRanges c

/-- The characters of a text without the blank ones at either end. -/
def trimChars (cs : List Char) : List Char :=
  ((cs.dropWhile isBlank).reverse.dropWhile isBlank).reverse

/-- A text without the blank characters at either end. -/
def trim (s : String) : String :=
  String.ofList (trimChars s.toList)

/-- A text of blank characters alone trims to nothing. -/
theorem trimChars_of_all_blank {cs : List Char} (h : ∀ c ∈ cs, isBlank c = true) :
    trimChars cs = [] := by
  have : cs.dropWhile isBlank = [] := by
    induction cs with
    | nil => rfl
    | cons c cs ih =>
      rw [List.dropWhile_cons, h c (by simp)]
      exact ih fun d hd => h d (by simp [hd])
  simp [trimChars, this]

end ChainView.Text
