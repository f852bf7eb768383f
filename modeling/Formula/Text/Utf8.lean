/-! Texts as bytes of UTF-8. -/
namespace Formula

def bytesOf (text : String) : List UInt8 := text.toUTF8.toList

/-- The text with these bytes, if they are UTF-8. -/
def textOf? (bytes : List UInt8) : Option String := String.fromUTF8? ⟨bytes.toArray⟩

/-- The text of bytes that were cut off somewhere: what is left of a last character is shown as the
replacement character. No character has more than four bytes, so `cut` of three is enough. -/
def readableUpTo : (cut : Nat) → List UInt8 → Option String
  | 0, bytes => textOf? bytes
  | cut + 1, bytes =>
    match textOf? bytes with
    | some text => some text
    | none => readableUpTo cut bytes.dropLast

def readable (bytes : List UInt8) : String :=
  match textOf? bytes with
  | some text => text
  | none => (readableUpTo 3 bytes).getD "" ++ (Char.ofNat 0xFFFD).toString

end Formula
