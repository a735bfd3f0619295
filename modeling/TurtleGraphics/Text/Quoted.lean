import TurtleGraphics.Text.Unprintable

/-!
# Quoted text

`quoted` writes a text between double quotes so that each of its characters can be told. A quote and
a backslash have a backslash put in front of them, the newline, the carriage return, the tab and the
null character have a letter or digit of their own, and every other unprintable character is given
by its number in hexadecimal. All the rest stands for itself, the single quote included.
-/

namespace TurtleGraphics.Text

/-- How `c` is written between quotes. -/
def quoteChar (c : Char) : List Char :=
  if c = '"' ∨ c = '\\' then ['\\', c]
  else if c = '\n' then ['\\', 'n']
  else if c = '\r' then ['\\', 'r']
  else if c = '\t' then ['\\', 't']
  else if c = '\x00' then ['\\', '0']
  else if isUnprintable c then ['\\', 'u', '\x7b'] ++ Nat.toDigits 16 c.toNat ++ ['\x7d']
  else [c]

/-- `text` between double quotes. -/
def quoted (text : String) : String :=
  String.ofList ('"' :: text.toList.flatMap quoteChar ++ ['"'])

example : quoted "a\"b\\" = "\"a\\\"b\\\\\"" := by decide +kernel

example : quoted "é\n\x7f\u0301" = "\"é\\n\\u\x7b7f\x7d\\u\x7b301\x7d\"" := by decide +kernel

end TurtleGraphics.Text
