import PagedQuery.Text.Extending
import PagedQuery.Text.Unprintable

/-! Text in double quotes, with escapes for what would not be visible in a message. -/

namespace PagedQuery.Text

/-- A filler for a missing letter of Hangul: a letter that shows nothing. -/
def isFiller (c : Char) : Bool := ['\u115F', '\u1160', '\u3164', '\uFFA0'].contains c

/-- A halfwidth sound mark of Katakana: it extends the character in front of it, but is seen beside
it. -/
def isHalfwidthMark (c : Char) : Bool := c = '\uFF9E' || c = '\uFF9F'

/-- A character that a quoted text writes by its number, as it would not be seen by itself. -/
def isHidden (c : Char) : Bool :=
  isUnprintable c || isFiller c || (isExtending c && !isHalfwidthMark c)

def hexDigits (n : Nat) : List Char := Nat.toDigits 16 n

def quoteChar (c : Char) : List Char :=
  if c = '"' then ['\\', '"']
  else if c = '\\' then ['\\', '\\']
  else if c = '\n' then ['\\', 'n']
  else if c = '\r' then ['\\', 'r']
  else if c = '\t' then ['\\', 't']
  else if c = '\x00' then ['\\', '0']
  else if isHidden c then ['\\', 'u', '\x7b'] ++ hexDigits c.toNat ++ ['\x7d']
  else [c]

def quote (s : String) : String :=
  String.ofList (['"'] ++ s.toList.flatMap quoteChar ++ ['"'])

end PagedQuery.Text
