import ManifestMarkers.Text.Extending
import ManifestMarkers.Text.Printable

/-!
# Quoted text in messages and generated code

Text is shown between double quotes. Quotes, backslashes and the usual control characters are
escaped with a backslash; a character that has no visible form of its own is written as
`\u` with its code point in braces.
-/

namespace ManifestMarkers.Text

/-- The code point of `c` as an escape: `\u`, then lower-case hexadecimal digits in braces. -/
def codeEscape (c : Char) : List Char :=
  '\\' :: 'u' :: '\x7b' :: (Nat.toDigits 16 c.toNat ++ ['\x7d'])

/-- Whether `c` has no visible form of its own. The halfwidth sound marks have one, though they
extend the character before them, and the fillers have none, though they are letters. -/
def isUnseen (c : Char) : Bool :=
  (isExtending c && !(0xff9e ≤ c.toNat && c.toNat ≤ 0xff9f)) || !isPrintable c ||
    [0x115f, 0x1160, 0x3164, 0xffa0].contains c.toNat

/-- One character inside quotes. -/
def quoteChar (c : Char) : List Char :=
  match c with
  | '\x00' => ['\\', '0']
  | '\t' => ['\\', 't']
  | '\r' => ['\\', 'r']
  | '\n' => ['\\', 'n']
  | '"' => ['\\', '"']
  | '\\' => ['\\', '\\']
  | c => if isUnseen c then codeEscape c else [c]

/-- The text between double quotes, with escapes. -/
def quoted (s : String) : String :=
  String.ofList ('"' :: (s.toList.flatMap quoteChar ++ ['"']))

end ManifestMarkers.Text
