import PlacedText.Text.Utf16

/-! # Text strings

A string that holds text is UTF-16 behind a byte order mark, and else UTF-8 if it is valid; the
bytes of any other string are characters by themselves.
-/

namespace PlacedText.Text

/-- The text of a string object. -/
def ofStringObject (bytes : Bytes) : String :=
  match bytes with
  | 0xfe :: 0xff :: rest => Utf16.decode (Utf16.units rest)
  | _ =>
    match Utf8.decode? bytes with
    | some text => text
    | none => String.ofList (bytes.map fun b => Char.ofNat b.toNat)

end PlacedText.Text
