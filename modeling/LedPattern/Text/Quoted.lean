import LedPattern.Text.GraphemeExtend
import LedPattern.Text.Hexadecimal
import LedPattern.Text.Unprintable
/-!
Text in double quotes for messages. Whatever could break the line, move the cursor, merge with the
character before it or leave nothing to be seen is written as an escape.
-/
namespace LedPattern
namespace Text

/-- The letters that are drawn as nothing at all: those that fill an empty place in a Hangul
syllable. -/
def isFiller (c : Char) : Bool :=
  c.toNat == 0x115f || c.toNat == 0x1160 || c.toNat == 0x3164 || c.toNat == 0xffa0

/-- The letters among the characters that extend the one before them: the halfwidth sound marks of
katakana, which are drawn beside it and not on it. -/
def isHalfwidthMark (c : Char) : Bool := c.toNat == 0xff9e || c.toNat == 0xff9f

/-- Characters that have no visible form of their own inside quotes. Of the characters up to `~`
these are the control characters. -/
def isHidden (c : Char) : Bool :=
  if c.toNat < 0x7f then c.toNat < 0x20
  else (isGraphemeExtend c && !isHalfwidthMark c) || isFiller c || isUnprintable c

def quoteChar (c : Char) : Text :=
  if c = '"' then "\\\"".toList
  else if c = '\\' then "\\\\".toList
  else if c = '\n' then "\\n".toList
  else if c = '\r' then "\\r".toList
  else if c = '\t' then "\\t".toList
  else if c = '\x00' then "\\0".toList
  else if isHidden c then "\\u\x7b".toList ++ hexNat c.toNat ++ "\x7d".toList
  else [c]

def quote (t : Text) : Text := '"' :: t.flatMap quoteChar ++ ['"']

end Text
end LedPattern
