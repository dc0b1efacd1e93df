import LedPattern.Text.Basic
/-!
Text as bytes.
-/
namespace LedPattern
namespace Text

def toUtf8 (t : Text) : List UInt8 := t.flatMap String.utf8EncodeChar

/-- The text of bytes, if they are valid UTF-8. -/
def ofUtf8? (bytes : List UInt8) : Option Text :=
  (String.fromUTF8? ⟨bytes.toArray⟩).map String.toList

end Text
end LedPattern
