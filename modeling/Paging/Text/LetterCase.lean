/-
# Text in small letters

`lowercase` replaces every capital letter of a text by its small form. Two letters need more than
the mapping of single letters: `İ` becomes `i` with a dot above, which is two characters, and `Σ`
becomes `ς` at the end of a word and `σ` elsewhere. A sigma ends a word when a letter with case
comes before it and none after it, both read past the characters that case looks through.
-/
import Paging.Text.LetterCase.Mapping
import Paging.Text.LetterCase.Cased

namespace Paging
namespace LetterCase

/-- Whether the first character that case does not look through is a letter with case. -/
def startsCased (text : List Char) : Bool :=
  match text.dropWhile isCaseIgnorable with
  | c :: _ => isCased c
  | [] => false

/-- Whether a letter ends a word, given the text before it, nearest character first, and the text
after it. -/
def endsWord (before after : List Char) : Bool :=
  startsCased before && !startsCased after

/-- The small form of a letter between two texts, the one before it with the nearest character
first. -/
def lowerAt (before : List Char) (c : Char) (after : List Char) : List Char :=
  if c = 'Σ' then [if endsWord before after then 'ς' else 'σ']
  else if c = 'İ' then ['i', Char.ofNat 0x307]
  else [Char.ofNat (smallLetter c.toNat)]

/-- The small form of a text that continues another, given nearest character first. -/
def lowerAfter (before : List Char) : List Char → List Char
  | [] => []
  | c :: after => lowerAt before c after ++ lowerAfter (c :: before) after

/-- A text with its capital letters replaced by small ones. -/
def lowercase (s : String) : String :=
  String.ofList (lowerAfter [] s.toList)

/-- Words with a sigma at the end, alone, and before an apostrophe. -/
example : lowerAfter [] "ΟΔΟΣ".toList = "οδος".toList ∧ lowerAfter [] "Σ".toList = "σ".toList ∧
    lowerAfter [] "ΑΣ'Α".toList = "ασ'α".toList ∧ lowerAfter [] "İx".toList = "i̇x".toList := by
  decide +kernel

end LetterCase
end Paging
