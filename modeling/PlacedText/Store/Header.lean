import PlacedText.Fault.Basic
import PlacedText.Text.Utf8

/-! # The header of a file

A file that holds a document says so by a marker before anything else that counts.
-/

namespace PlacedText

namespace Store

/-- The marker that the header of a file begins with. -/
def headerMarker : Bytes := Text.Utf8.encode "%PDF-"

/-- Whether there is a header in a file; what stands before it does not count. -/
def hasHeader : Bytes → Bool
  | [] => false
  | b :: rest => headerMarker.isPrefixOf (b :: rest) || hasHeader rest

/-- Checks that a file has a header. -/
def checkHeader (file : Bytes) : Except ReadFault Unit :=
  if hasHeader file then .ok () else .error (.structural .noHeader)

end Store

end PlacedText
