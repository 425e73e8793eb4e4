import PlacedText.Store.Filter
import Std.Data.ExtTreeMap

/-! # The object store

A document is a numbered collection of objects and a trailer. References are followed through the
collection; one that leads nowhere stands for itself.
-/

namespace PlacedText

/-- The objects of a document by their numbers, the trailer, the largest number that was ever used,
and the decoder of streams that the document was read with. -/
structure Store where
  objects : Std.ExtTreeMap Nat Object
  trailer : Dictionary
  decompress : StreamDecoder
  maxId : Nat
  id_le_maxId : ∀ id ∈ objects, id ≤ maxId

namespace Store

/-- A document without objects. -/
def empty (trailer : Dictionary) : Store where
  objects := ∅
  trailer
  decompress := .base85
  maxId := 0
  id_le_maxId := by simp

/-- The most references that are followed from one object on. -/
def maxHops : Nat := 128

/-- Follows references from an object number to an object that is none, with its number. -/
def locateFrom (store : Store) (hops id : Nat) : Except ObjectFault (Nat × Object) :=
  match store.objects[id]? with
  | none => .error (.missing id)
  | some (.reference next) =>
    match hops with
    | 0 =>
      if store.objects.contains next then .error .tooManyReferences else .error (.missing next)
    | hops + 1 => locateFrom store hops next
  | some object => .ok (id, object)

/-- The object of a number, with the number it is found at. -/
def locate (store : Store) (id : Nat) : Except ObjectFault (Nat × Object) :=
  store.locateFrom maxHops id

/-- The object of a number. -/
def object (store : Store) (id : Nat) : Except ObjectFault Object :=
  (store.locate id).map Prod.snd

/-- The dictionary of a number. -/
def dictionary (store : Store) (id : Nat) : Except ObjectFault Dictionary :=
  match store.object id with
  | .error fault => .error fault
  | .ok (.dictionary entries) => .ok entries
  | .ok other => .error (.notDictionary other.type)

/-- The object that a reference leads to; a reference that leads nowhere stands for itself. -/
def resolve (store : Store) (object : Object) : Object :=
  match object with
  | .reference id =>
    match store.object id with
    | .ok found => found
    | .error _ => object
  | _ => object

/-- The object that a reference leads to, where the first step counts among the hops. -/
def dereference? (store : Store) (object : Object) : Option Object :=
  match object with
  | .reference id => (store.locateFrom (maxHops - 1) id).toOption.map Prod.snd
  | _ => some object

/-! ## Entries of dictionaries -/

/-- The value of a key, resolved. -/
def value? (store : Store) (dictionary : Dictionary) (key : String) : Option Object :=
  (dictionary.find? key).map store.resolve

/-- The value of a key given as bytes, resolved. -/
def entryAt? (store : Store) (dictionary : Dictionary) (key : Bytes) : Option Object :=
  (dictionary.get? key).map store.resolve

/-- The entries of a dictionary or of the dictionary of a stream. -/
def entriesOf : Object → Option Dictionary
  | .dictionary entries => some entries
  | .stream entries _ => some entries
  | _ => none

/-- The dictionary, or dictionary of a stream, under a key. -/
def dictionary? (store : Store) (dictionary : Dictionary) (key : String) : Option Dictionary :=
  store.value? dictionary key >>= entriesOf

def array? (store : Store) (dictionary : Dictionary) (key : String) : Option (List Object) :=
  store.value? dictionary key >>= Object.array?

def number? {α : Type} [Scalar α] (store : Store) (dictionary : Dictionary) (key : String) :
    Option α :=
  store.value? dictionary key >>= Object.number?

/-- The name under a key, as text. -/
def name? (store : Store) (dictionary : Dictionary) (key : String) : Option String :=
  (store.value? dictionary key >>= Object.name?).map Text.Utf8.decodeLossy

/-- The numbers in an array that holds nothing else. -/
def numbers? {α : Type} [Scalar α] (store : Store) (items : List Object) : Option (List α) :=
  items.mapM fun item => (store.resolve item).number?

/-- The data of a stream with its filters applied. -/
def decoded (store : Store) (dictionary : Dictionary) (data : Bytes) : Except ObjectFault Bytes :=
  match dictionary.find? "Filter" with
  | none => .ok data
  | some _ => store.decompress dictionary data

/-! ## Changes -/

/-- Puts an object under a number, in place of the one that is there. -/
def insert (store : Store) (id : Nat) (object : Object) : Store where
  objects := store.objects.insert id object
  trailer := store.trailer
  decompress := store.decompress
  maxId := max store.maxId id
  id_le_maxId := by
    intro other member
    rcases Std.ExtTreeMap.mem_insert.mp member with same | present
    · exact (Nat.compare_eq_eq.mp same) ▸ Nat.le_max_right ..
    · exact Nat.le_trans (store.id_le_maxId other present) (Nat.le_max_left ..)

/-- Removes the object of a number, which is not given out again. -/
def erase (store : Store) (id : Nat) : Store where
  objects := store.objects.erase id
  trailer := store.trailer
  decompress := store.decompress
  maxId := store.maxId
  id_le_maxId := by
    intro other member
    exact store.id_le_maxId other (Std.ExtTreeMap.mem_erase.mp member).2

/-- Adds an object under a number that was never used, the next one. -/
def add (store : Store) (object : Object) : Store × Nat :=
  let id := store.maxId + 1
  (store.insert id object, id)

/-- A document of some objects; one that comes again replaces the one before. -/
def ofObjects (objects : List (Nat × Object)) (trailer : Dictionary) : Store :=
  objects.foldl (fun store (id, object) => store.insert id object) (empty trailer)

/-- Changes the dictionary of a number where it is found. -/
def modifyDictionary (store : Store) (id : Nat) (change : Dictionary → Dictionary) :
    Except ObjectFault Store :=
  match store.locate id with
  | .error fault => .error fault
  | .ok (at', .dictionary entries) => .ok (store.insert at' (.dictionary (change entries)))
  | .ok (_, other) => .error (.notDictionary other.type)

/-- The catalog, the root of the document. -/
def catalog? (store : Store) : Option Dictionary :=
  store.value? store.trailer "Root" >>= Object.dictionary?

/-- A document is encrypted when its trailer refers to a dictionary that says how. -/
def isEncrypted (store : Store) : Bool :=
  match store.trailer.find? "Encrypt" with
  | some (.reference id) => (store.dictionary id).toBool
  | _ => false

end Store

end PlacedText
