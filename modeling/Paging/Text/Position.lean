/-
# Places in a text

A fault in a text is shown by its line and column and by the line itself with a mark under the
place. A place splits the text in two, the part before it and the part from it on. Lines and
columns count from one, columns in characters. A line ends with a line feed; carriage returns are
not shown.
-/
import Paging.Text.Digits

namespace Paging
namespace Text

/-- The number of the line in which the text before a place ends. -/
def lineNumber (before : List Char) : Nat :=
  before.count '\n' + 1

/-- The part of its line that comes before a place. -/
def lineStart (before : List Char) : List Char :=
  (before.reverse.takeWhile (· ≠ '\n')).reverse

/-- The line around a place, as it is shown. -/
def shownLine (before after : List Char) : List Char :=
  (lineStart before ++ after.takeWhile (· ≠ '\n')).filter (· ≠ '\r')

/-- The column of a place. -/
def columnNumber (before : List Char) : Nat :=
  (lineStart before).length + 1

/-- The blanks that bring a mark under a place; tabs stay tabs. -/
def underline (before after : List Char) : List Char :=
  ((shownLine before after).take (lineStart before).length).map fun c =>
    if c = '\t' then '\t' else ' '

/-- A place in a text with a note about it: its line and column, the line, a mark and the note. -/
def excerpt (before after note : List Char) : List Char :=
  let line := natural (lineNumber before)
  let margin := List.replicate line.length ' '
  margin ++ "--> ".toList ++ line ++ ':' :: natural (columnNumber before)
    ++ '\n' :: margin ++ " |\n".toList
    ++ line ++ " | ".toList ++ shownLine before after
    ++ '\n' :: margin ++ " | ".toList ++ underline before after ++ "^---".toList
    ++ '\n' :: margin ++ " |\n".toList
    ++ margin ++ " = ".toList ++ note

/-- A place in the second line, after a tab. -/
example : excerpt "a,\n\t".toList ";b\nc".toList "note".toList =
    " --> 2:2\n  |\n2 | \t;b\n  | \t^---\n  |\n  = note".toList := by decide +kernel

end Text
end Paging
