import CoopCpu.Text.Hex
import CoopCpu.Text.Unprintable
/-!
# Text.Quoted — a text shown between quotes

`quote` shows any text on one line: quotes and backslashes are escaped, the usual control characters get their letter,
and a character that does not show by itself appears as its number in braces after `\u`.  An apostrophe stays as it is.
-/
namespace CoopCpu
namespace Text

/-- How one character is shown between quotes. -/
def showChar (c : Char) : List Char :=
  if c = '\x00' then ['\\', '0']
  else if c = '\t' then ['\\', 't']
  else if c = '\r' then ['\\', 'r']
  else if c = '\n' then ['\\', 'n']
  else if c = '"' then ['\\', '"']
  else if c = '\\' then ['\\', '\\']
  else if needsEscape c then
    ['\\', 'u', '\x7b'] ++ Hex.fixed Hex.lowerDigit (Hex.digitCount c.toNat) c.toNat ++ ['\x7d']
  else [c]

/-- The text between quotes. -/
def quote (s : String) : String := String.ofList ('"' :: s.toList.flatMap showChar ++ ['"'])

end Text
end CoopCpu
