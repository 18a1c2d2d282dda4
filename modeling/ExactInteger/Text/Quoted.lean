import ExactInteger.Text.Printable

/-!
# Quoted text

A quoted text stands between double quotes on one line.  The quote and the
backslash are written after a backslash, tab, line feed, carriage return and
the null character as `\t`, `\n`, `\r` and `\0`, and every other character that
does not print as itself by its code point in hexadecimal, as in `\u{7f}`.
-/

namespace ExactInteger

namespace Text

/-- The code point of a character in lower-case hexadecimal, as an escape. -/
def codePointEscape (character : Char) : List Char :=
  "\\u\x7b".toList ++ Nat.toDigits 16 character.toNat ++ "\x7d".toList

/-- How a character is written between double quotes. -/
def quotedCharacter (character : Char) : List Char :=
  match character with
  | '"' => ['\\', '"']
  | '\\' => ['\\', '\\']
  | '\t' => ['\\', 't']
  | '\n' => ['\\', 'n']
  | '\r' => ['\\', 'r']
  | '\x00' => ['\\', '0']
  | other => if printsAsItself other then [other] else codePointEscape other

def quoted (text : String) : String :=
  String.ofList ('"' :: text.toList.flatMap quotedCharacter ++ ['"'])

end Text

end ExactInteger
