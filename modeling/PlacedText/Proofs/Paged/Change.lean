import PlacedText.Paged.Content
import PlacedText.Proofs.Effect.Invariant
import PlacedText.Proofs.Store.Congruence
import PlacedText.Proofs.Store.Entries

/-! # Changing the dictionary of a page

A page is changed where its dictionary is found (`PagedStore.PageAt`). An edit of a page either
finds the dictionary and puts a changed one in its place or fails and changes nothing.
-/

namespace PlacedText

open Effect

namespace PagedStore

variable {paged other : PagedStore} {index page at' : Nat} {entries changed : Dictionary}

/-- The page at an index has the number `page`, which leads to a dictionary under `at'`. -/
structure PageAt (paged : PagedStore) (index page at' : Nat) (entries : Dictionary) : Prop where
  id : paged.pageId index = .ok page
  found : paged.store.locate page = .ok (at', .dictionary entries)

/-- A document with another dictionary under a number. -/
def putDictionary (paged : PagedStore) (at' : Nat) (entries : Dictionary) : PagedStore :=
  { paged with store := paged.store.insert at' (.dictionary entries) }

theorem pageId_congr (same : paged.pageIds = other.pageIds) (index : Nat) :
    paged.pageId index = other.pageId index := by
  unfold pageId pageCount
  rw [same]

theorem PageAt.getElem? (found : paged.PageAt index page at' entries) :
    paged.store.objects[at']? = some (.dictionary entries) :=
  (Store.getElem?_of_locateFrom found.found).1

/-- A page is found in one place. -/
theorem PageAt.unique {page' at'' : Nat} {entries' : Dictionary}
    (found : paged.PageAt index page at' entries)
    (found' : paged.PageAt index page' at'' entries') :
    page = page' ∧ at' = at'' ∧ entries = entries' := by
  have samePage := found.id.symm.trans found'.id
  cases samePage
  have samePlace := found.found.symm.trans found'.found
  cases samePlace
  exact ⟨rfl, rfl, rfl⟩

theorem PageAt.dictionary (found : paged.PageAt index page at' entries) :
    paged.store.dictionary page = .ok entries := by
  unfold Store.dictionary Store.object
  rw [found.found]
  rfl

/-- A page whose object is a dictionary stands somewhere. -/
theorem pageAt_of_dictionary (id : paged.pageId index = .ok page)
    (dictionary : paged.store.dictionary page = .ok entries) :
    ∃ at', paged.PageAt index page at' entries := by
  unfold Store.dictionary Store.object at dictionary
  cases found : paged.store.locate page with
  | error fault =>
    rw [found] at dictionary
    cases dictionary
  | ok place =>
    obtain ⟨at', object⟩ := place
    rw [found] at dictionary
    cases object with
    | dictionary _ =>
      cases dictionary
      exact ⟨at', id, found⟩
    | _ => cases dictionary

/-- A page is found at the same place in any document that has all other objects. -/
theorem PageAt.transfer (found : paged.PageAt index page at' entries)
    (pageIds : other.pageIds = paged.pageIds)
    (others : ∀ id, id ≠ at' → ∀ object, paged.store.objects[id]? = some object →
      other.store.objects[id]? = some object)
    (here : other.store.objects[at']? = some (.dictionary changed)) :
    other.PageAt index page at' changed where
  id := (pageId_congr pageIds index).trans found.id
  found := by
    refine Store.locateFrom_transfer ?_ found.found here (by simp)
    intro id next refers
    apply others id ?_ _ refers
    rintro rfl
    rw [found.getElem?] at refers
    cases refers

theorem getElem?_putDictionary {id : Nat} :
    (paged.putDictionary at' changed).store.objects[id]? =
      if at' = id then some (.dictionary changed) else paged.store.objects[id]? :=
  Store.getElem?_insert

/-- A page with another dictionary stands where it stood. -/
theorem PageAt.putDictionary (found : paged.PageAt index page at' entries) (changed : Dictionary) :
    (paged.putDictionary at' changed).PageAt index page at' changed := by
  refine found.transfer rfl ?_ ?_
  · intro id different object present
    rw [getElem?_putDictionary, if_neg (Ne.symm different)]
    exact present
  · rw [getElem?_putDictionary, if_pos rfl]

/-- A document with a new object, under the next number. -/
def withNew (paged : PagedStore) (object : Object) : PagedStore :=
  { paged with store := (paged.store.add object).1 }

/-- A new object leaves the others as they are. -/
theorem getElem?_withNew {id : Nat} {object present : Object}
    (there : paged.store.objects[id]? = some present) :
    (paged.withNew object).store.objects[id]? = some present := by
  have bounded := Store.le_maxId_of_getElem? there
  change (paged.store.insert (paged.store.maxId + 1) object).objects[id]? = some present
  rw [Store.getElem?_insert, if_neg (by omega)]
  exact there

theorem PageAt.withNew (found : paged.PageAt index page at' entries) (object : Object) :
    (paged.withNew object).PageAt index page at' entries :=
  found.transfer rfl (fun _ _ _ there => getElem?_withNew there) (getElem?_withNew found.getElem?)

/-- The same objects, trailer and pages, read with the same decoder; only the numbers that were
given out may differ. -/
structure SameDocument (paged other : PagedStore) : Prop where
  objects : paged.store.objects = other.store.objects
  trailer : paged.store.trailer = other.store.trailer
  decoders : paged.store.decompress = other.store.decompress
  pageIds : paged.pageIds = other.pageIds

theorem SameDocument.refl (paged : PagedStore) : paged.SameDocument paged :=
  ⟨rfl, rfl, rfl, rfl⟩

theorem SameDocument.trans {last : PagedStore} (first : paged.SameDocument other)
    (second : other.SameDocument last) : paged.SameDocument last :=
  ⟨first.objects.trans second.objects, first.trailer.trans second.trailer,
    first.decoders.trans second.decoders, first.pageIds.trans second.pageIds⟩

theorem SameDocument.symm (same : paged.SameDocument other) : other.SameDocument paged :=
  ⟨same.objects.symm, same.trailer.symm, same.decoders.symm, same.pageIds.symm⟩

/-- A page stands at the same place in the same document. -/
theorem SameDocument.pageAt (same : other.SameDocument paged)
    (found : paged.PageAt index page at' entries) : other.PageAt index page at' entries := by
  refine found.transfer same.pageIds ?_ ?_
  · intro id _ object present
    rw [same.objects]
    exact present
  · rw [same.objects]
    exact found.getElem?

/-- Putting the same dictionary in the same place keeps documents the same. -/
theorem SameDocument.putDictionary (same : other.SameDocument paged) (at' : Nat)
    (entries : Dictionary) :
    (other.putDictionary at' entries).SameDocument (paged.putDictionary at' entries) where
  objects := congrArg (fun objects => objects.insert at' (.dictionary entries)) same.objects
  trailer := same.trailer
  decoders := same.decoders
  pageIds := same.pageIds

/-- Of two dictionaries that are put in a place the last one stays. -/
theorem putDictionary_putDictionary (paged : PagedStore) (at' : Nat)
    (entries changed : Dictionary) :
    ((paged.putDictionary at' changed).putDictionary at' entries).SameDocument
      (paged.putDictionary at' entries) where
  objects := by
    apply Std.ExtTreeMap.ext_getElem?
    intro id
    rw [getElem?_putDictionary, getElem?_putDictionary, getElem?_putDictionary]
    split
    · rfl
    · rfl
  trailer := rfl
  decoders := rfl
  pageIds := rfl

/-- Putting the dictionary of a page in its place changes nothing. -/
theorem PageAt.putDictionary_self (found : paged.PageAt index page at' entries) :
    (paged.putDictionary at' entries).SameDocument paged where
  objects := by
    apply Std.ExtTreeMap.ext_getElem?
    intro id
    rw [getElem?_putDictionary]
    split
    · next here =>
      subst here
      exact found.getElem?.symm
    · rfl
  trailer := rfl
  decoders := rfl
  pageIds := rfl

/-- Putting the entries back that a page had makes up for a change of them. -/
theorem SameDocument.putBack (found : paged.PageAt index page at' entries)
    (same : other.SameDocument (paged.putDictionary at' changed)) :
    (other.putDictionary at' entries).SameDocument paged :=
  (same.putDictionary at' entries).trans
    ((putDictionary_putDictionary paged at' entries changed).trans found.putDictionary_self)

end PagedStore

namespace PageEdit

open PagedStore

variable {paged : PagedStore} {index page at' : Nat} {entries : Dictionary}

theorem read_of_ok {β : Type} {question : PagedStore → Except ReadFault β} {answer : β}
    (found : question paged = .ok answer) : read question paged = .ok answer paged := by
  unfold read
  rw [found]

theorem read_of_error {β : Type} {question : PagedStore → Except ReadFault β} {fault : ReadFault}
    (failed : question paged = .error fault) : read question paged = .error fault paged := by
  unfold read
  rw [failed]

/-- A page is changed if it has an object and that is a dictionary; each of the two may fail, and
the document is then as before. -/
theorem changePage_eq (paged : PagedStore) (index : Nat) (change : Dictionary → Dictionary) :
    changePage index change paged =
      match paged.pageId index with
      | .error fault => .error fault paged
      | .ok page =>
        match paged.store.modifyDictionary page change with
        | .ok store => .ok () { paged with store }
        | .error fault => .error (.object fault) paged := by
  unfold changePage
  cases id : paged.pageId index with
  | error fault => rw [bind_of_error (read_of_error id)]
  | ok page =>
    rw [bind_of_ok (read_of_ok id)]
    change (match paged.store.modifyDictionary page change with
      | .ok store => (set { paged with store } : PageEdit Unit)
      | .error fault => throw (ReadFault.object fault)) paged = _
    dsimp only
    cases paged.store.modifyDictionary page change with
    | ok store => rfl
    | error fault => rfl

/-- A page that is found is changed. -/
theorem changePage_of_pageAt (found : paged.PageAt index page at' entries)
    (change : Dictionary → Dictionary) :
    changePage index change paged = .ok () (paged.putDictionary at' (change entries)) := by
  rw [changePage_eq, found.id]
  unfold Store.modifyDictionary
  dsimp only
  rw [found.found]
  rfl

/-- A page that is not found is not changed, however it was to be and whatever numbers were given
out. -/
theorem changePage_or_pageAt (paged : PagedStore) (index : Nat) :
    (∃ page at' entries, paged.PageAt index page at' entries) ∨
      ∃ fault, ∀ other, other.SameDocument paged → ∀ change,
        changePage index change other = .error fault other := by
  cases id : paged.pageId index with
  | error fault =>
    refine Or.inr ⟨fault, fun other same change => ?_⟩
    rw [changePage_eq, pageId_congr same.pageIds, id]
  | ok page =>
    rcases paged.store.locate_or_modifyDictionary page with ⟨at', entries, found⟩ | ⟨fault, failed⟩
    · exact Or.inl ⟨page, at', entries, id, found⟩
    · refine Or.inr ⟨.object fault, fun other same change => ?_⟩
      rw [changePage_eq, pageId_congr same.pageIds, id]
      dsimp only
      rw [failed other.store same.objects change]

end PageEdit

end PlacedText
