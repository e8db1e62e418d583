/-
# Quoted text for inspection

A text is shown between quotes, with quotes and backslashes escaped, so that it can be told from
what stands around it. Four controls have an escape of their own, and every other character that
leaves no mark of its own is shown by its number.
-/
import Paging.Text.Unprintable

namespace Paging
namespace Text

/-- A character inside a quoted text. -/
def quotedChar (c : Char) : List Char :=
  if c = '"' ∨ c = '\\' then ['\\', c]
  else if c = '\n' then ['\\', 'n']
  else if c = '\r' then ['\\', 'r']
  else if c = '\t' then ['\\', 't']
  else if c = '\x00' then ['\\', '0']
  else if isUnprintable c then '\\' :: 'u' :: '\x7b' :: Nat.toDigits 16 c.toNat ++ ['\x7d']
  else [c]

/-- A text between quotes. -/
def quoted (s : String) : List Char :=
  '"' :: s.toList.flatMap quotedChar ++ ['"']

/-- Escapes, a character shown by its number, and one that is shown as it is. -/
example : quoted "a\"\\\n\x1bé" = "\"a\\\"\\\\\\n\\u\x7b1b\x7dé\"".toList := by decide +kernel

end Text
end Paging
