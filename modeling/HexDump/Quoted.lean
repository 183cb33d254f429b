import HexDump.Unicode.Property

/-! Texts in quotes on one line, and lists of them in brackets. Quotes, the
backslash and five controls have short escapes; which other characters are written
by their code point is a parameter, and no choice of it makes a text ambiguous. -/
namespace HexDump.Quoted
open HexDump (Text)
open HexDump.Unicode (Category CharSet Property)

def hexadecimal (n : Nat) : Text := Nat.toDigits 16 n

def codePoint (c : Char) : Text := ['\\', 'u', '{'] ++ hexadecimal c.toNat ++ ['}']

def escape (held : Char → Bool) (c : Char) : Text :=
  if c = '"' then ['\\', '"']
  else if c = '\\' then ['\\', '\\']
  else if c = '\n' then ['\\', 'n']
  else if c = '\r' then ['\\', 'r']
  else if c = '\t' then ['\\', 't']
  else if c = '\x00' then ['\\', '0']
  else if held c then codePoint c
  else [c]

def quote (held : Char → Bool) (text : Text) : Text := ['"'] ++ text.flatMap (escape held) ++ ['"']

def comma : Text := [',', ' ']

def list (held : Char → Bool) (texts : List Text) : Text :=
  ['['] ++ comma.intercalate (texts.map (quote held)) ++ [']']

def spacingMarks : CharSet String := .of "FF9E..FF9F"

def hiddenSet : CharSet String :=
  .without (.anyOf [Category.union [.control, .format, .unassigned, .privateUse, .lineSeparator,
    .paragraphSeparator, .spaceSeparator], Property.graphemeExtend, Property.defaultIgnorable])
    spacingMarks

def hidden : CharSet.Ready := hiddenSet.read

def unshown (c : Char) : Bool :=
  if c < '\x7F' then c < ' ' else hidden.contains c

end HexDump.Quoted
