import SoloJournal.Text.Hidden

/-!
# Quoted text

Text in messages stands in double quotes.  Within them a quote, a backslash and
the usual controls are written after a backslash, and other hidden characters
by their codes.
-/

namespace SoloJournal.Text

/-- The code of a character within braces, after a backslash. -/
def codeEscape (char : Char) : List Char :=
  ['\\', 'u', '{'] ++ Nat.toDigits 16 char.toNat ++ ['}']

/-- A character as it is written within quotes. -/
def quoteChar (char : Char) : List Char :=
  match char with
  | '\x00' => ['\\', '0']
  | '\t' => ['\\', 't']
  | '\r' => ['\\', 'r']
  | '\n' => ['\\', 'n']
  | '\\' => ['\\', '\\']
  | '"' => ['\\', '"']
  | char => if isHidden char then codeEscape char else [char]

def quote (text : String) : String :=
  String.ofList ('"' :: text.toList.flatMap quoteChar ++ ['"'])

end SoloJournal.Text
