/-! # Faults

What can go wrong while a document is read, as causes, with the message of each. A fault of the
reader turns into a fault of processing at the boundary of the library.
-/

namespace PlacedText

/-- Why a content stream cannot be split into operators. Positions count bytes from zero. -/
inductive SyntaxFault where
  | invalidNumber (text : String) (position : Nat)
  | unterminatedString (position : Nat)
  | unterminatedHexString (position : Nat)
  | unterminatedArray
  | unterminatedDictionary
  | keyNotName
  /-- An array or a dictionary ends that was not begun; the position is that after its end. -/
  | unbalancedDelimiter (position : Nat)
deriving DecidableEq

namespace SyntaxFault

def message : SyntaxFault → String
  | invalidNumber text position => s!"invalid number '{text}' at byte {position}"
  | unterminatedString position => s!"unterminated string starting at byte {position}"
  | unterminatedHexString position => s!"unterminated hex string starting at byte {position}"
  | unterminatedArray => "unterminated array"
  | unterminatedDictionary => "unterminated dictionary"
  | keyNotName => "dictionary key is not a name"
  | unbalancedDelimiter position => s!"unbalanced delimiter at byte {position}"

end SyntaxFault

/-- Why content cannot be interpreted. -/
inductive ContentFault where
  | malformed (fault : SyntaxFault)
  | formsTooDeep (depth limit : Nat)
  /-- A fault that comes with its own words. -/
  | reported (text : String)
deriving DecidableEq

namespace ContentFault

def message : ContentFault → String
  | malformed fault => fault.message
  | formsTooDeep depth limit => s!"Form XObject recursion depth {depth} exceeds limit {limit}"
  | reported text => text

end ContentFault

/-- The types of objects. -/
inductive ObjectType where
  | null
  | boolean
  | integer
  | real
  | name
  | string
  | array
  | dictionary
  | stream
  | reference
deriving DecidableEq

namespace ObjectType

/-- The word for the type in messages. -/
def word : ObjectType → String
  | null => "Null"
  | boolean => "Boolean"
  | integer => "Integer"
  | real => "Real"
  | name => "Name"
  | string => "String"
  | array => "Array"
  | dictionary => "Dictionary"
  | stream => "Stream"
  | reference => "Reference"

end ObjectType

/-- Why an object cannot be had. -/
inductive ObjectFault where
  | missing (id : Nat)
  /-- A chain of references is too long to be followed. -/
  | tooManyReferences
  | notDictionary (found : ObjectType)
  | filterNotName (found : ObjectType)
  | filterNotNameOrArray (found : ObjectType)
  | unknownFilter
  /-- A group of digits stands for more than four bytes hold. -/
  | base85Overflow
  /-- The digit for four zero bytes stands inside a group of digits. -/
  | base85ZerosInGroup
deriving DecidableEq

namespace ObjectFault

/-- The message about an object of the wrong type. -/
def wrongType (expected : String) (found : ObjectType) : String :=
  s!"object has wrong type; expected type {expected} but found type " ++ found.word

def message : ObjectFault → String
  | missing id => s!"object ID {id} 0 not found"
  | tooManyReferences =>
    "dereferencing object reached limit, may indicate a reference cycle"
  | notDictionary found => wrongType "Dictionary" found
  | filterNotName found => wrongType "Name" found
  | filterNotNameOrArray found => wrongType "Name or Array" found
  | unknownFilter =>
    "missing feature of lopdf: decompression algorithms; please open an issue at " ++
      "https://github.com/J-F-Liu/lopdf/ to let the developers know of your usecase"
  | base85Overflow =>
    "couldn't decompress stream decoding ASCII85 failed: multiplication overflow"
  | base85ZerosInGroup =>
    "couldn't decompress stream decoding ASCII85 failed: " ++
      "z character is not allowed in the middle of a group"

end ObjectFault

/-- How the structure of a document is broken. -/
inductive StructureFault where
  | notFourNumbers (key : String)
  /-- The page tree above a page does not end within the levels that are searched. -/
  | treeTooDeep (page levels : Nat)
  | resourcesNotDictionary
  | contentsNotStream
  /-- A file does not begin like one that holds a document. -/
  | noHeader
  /-- A fault that comes with its own words. -/
  | reported (text : String)
deriving DecidableEq

namespace StructureFault

def message : StructureFault → String
  | notFourNumbers key => s!"/{key} is not an array of 4 numbers"
  | treeTooDeep page levels => s!"page tree above ({page}, 0) is deeper than {levels}"
  | resourcesNotDictionary => "/Resources is not a dictionary"
  | contentsNotStream => "/Contents entry is not a stream"
  | noHeader => "failed to parse PDF: couldn't parse input: invalid file header"
  | reported text => text

end StructureFault

/-- Why the processing of a document or of a page ends. -/
inductive ProcessFault where
  | unreadable (text : String)
  | io (text : String)
  | content (text : String)
  | pageOutOfRange (index pageCount : Nat)
  | limitExceeded (limit : String) (allowed reached : Nat)
  | passwordRequired
  | other (text : String)
deriving DecidableEq

namespace ProcessFault

def message : ProcessFault → String
  | unreadable text => "parse error: " ++ text
  | io text => "I/O error: " ++ text
  | content text => "interpreter error: " ++ text
  | pageOutOfRange index pageCount =>
    s!"page {index} out of range (document has {pageCount} pages)"
  | limitExceeded limit allowed reached =>
    s!"resource limit exceeded: {limit} (limit: {allowed}, actual: {reached})"
  | passwordRequired => "PDF is encrypted and requires a password"
  | other text => text

end ProcessFault

/-- What ends the program while a font is loaded or a string is shown in it. It is no fault of the
page, which would be left out. -/
inductive FontAbort where
  /-- A character code is counted on from the last one that there is. -/
  | codeOverflow
  /-- A glyph name is cut inside of a character, behind so many bytes. -/
  | cutName (position : Nat)
deriving DecidableEq

namespace FontAbort

def message : FontAbort → String
  | codeOverflow => "attempt to add with overflow"
  | cutName position => s!"byte index {position} is not a char boundary"

/-- The abort that a computation comes to. -/
def of? {β : Type} : Except FontAbort β → Option FontAbort
  | .ok _ => none
  | .error abort => some abort

end FontAbort

/-- Why a page cannot be read. -/
inductive ReadFault where
  | structural (fault : StructureFault)
  | object (fault : ObjectFault)
  | io (text : String)
  | content (fault : ContentFault)
  /-- Neither the page nor a node above it has a media box. -/
  | missingMediaBox (index : Nat)
  | pageOutOfRange (index pageCount : Nat)
  | process (fault : ProcessFault)
  /-- A font ends the program. -/
  | abort (cause : FontAbort)
deriving DecidableEq

namespace ReadFault

def message : ReadFault → String
  | structural fault => "PDF parse error: " ++ fault.message
  | object fault => "lopdf error: " ++ fault.message
  | io text => "I/O error: " ++ text
  | content fault => "interpreter error: " ++ fault.message
  | missingMediaBox index => s!"page {index} has no /MediaBox"
  | pageOutOfRange index pageCount =>
    s!"page index {index} out of range (document has {pageCount} pages)"
  | process fault => fault.message
  | abort cause => cause.message

/-- What a font ended the program with, if that is the fault. -/
def abort? : ReadFault → Option FontAbort
  | abort cause => some cause
  | _ => none

/-- The fault of processing that a fault of reading amounts to. -/
def toProcessFault : ReadFault → ProcessFault
  | structural fault => .unreadable fault.message
  | io text => .io text
  | content fault => .content fault.message
  | pageOutOfRange index pageCount => .pageOutOfRange index pageCount
  | process fault => fault
  | fault => .unreadable fault.message

end ReadFault

end PlacedText
