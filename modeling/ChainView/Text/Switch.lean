import ChainView.Text.Ascii
import ChainView.Text.Blank

/-!
# Switches in settings

A setting that is either on or off is switched on by one of three words.  Anything else, the empty
text included, leaves it off, so a switch can hold no wrong value.
-/

namespace ChainView.Text

/-- The words that switch something on. -/
def onWords : List String := ["true", "1", "yes"]

/-- Whether a value switches something on: whether it is one of the words, in any case and between
blanks. -/
def isOn (s : String) : Bool :=
  onWords.contains (Ascii.lowercase (trim s))

end ChainView.Text
