import PlacedText.Proofs.Paged.Change

/-! # Taking back what was done to a page

A transform in front of the content of a page and the suspension of its rotation are taken back
without a trace but for the numbers given out, whatever happens in between, as long as that leaves
the document as it is (`PageEdit.underTransform_keeps`, `PageEdit.resumeRotation_of_setUp`).
-/

namespace PlacedText

open Effect

namespace PagedStore

variable {paged other : PagedStore} {index page at' : Nat} {entries : Dictionary}

/-- The stream that holds a transform. -/
def transformStream (t : Transform Float) : Object :=
  .ofData [] (Text.Utf8.encode t.operatorText)

/-- The content entry of a page with a new stream in front. -/
def contentsBehind (paged : PagedStore) (entries : Dictionary) : Object :=
  .array (.reference (paged.store.maxId + 1) ::
    ownParts paged.store (entries.find? "Contents"))

/-- A document with a transform in front of the content of a page. -/
def prepended (paged : PagedStore) (at' : Nat) (entries : Dictionary) (t : Transform Float) :
    PagedStore :=
  (paged.withNew (transformStream t)).putDictionary at'
    (entries.set "Contents" (paged.contentsBehind entries))

theorem PageAt.prepended (found : paged.PageAt index page at' entries) (t : Transform Float) :
    (paged.prepended at' entries t).PageAt index page at'
      (entries.set "Contents" (paged.contentsBehind entries)) :=
  (found.withNew _).putDictionary _

theorem getElem?_prepended (t : Transform Float) (id : Nat) :
    (paged.prepended at' entries t).store.objects[id]? =
      if at' = id then
        some (.dictionary (entries.set "Contents" (paged.contentsBehind entries)))
      else if paged.store.maxId + 1 = id then some (transformStream t)
      else paged.store.objects[id]? := by
  unfold PagedStore.prepended
  rw [getElem?_putDictionary]
  change (if _ then _ else (paged.store.insert (paged.store.maxId + 1) _).objects[id]?) = _
  rw [Store.getElem?_insert]

/-- Withdrawing a stream leaves the document that it was put in front of. -/
theorem withdraw_of_prepended (found : paged.PageAt index page at' entries) {t : Transform Float}
    (same : other.SameDocument (paged.prepended at' entries t)) :
    (other.withdraw ⟨page, paged.store.maxId + 1, entries.find? "Contents"⟩).SameDocument
      paged := by
  have restored : other.store.modifyDictionary page
      (restoreContents ⟨page, paged.store.maxId + 1, entries.find? "Contents"⟩) =
        .ok (other.store.insert at' (.dictionary entries)) := by
    unfold Store.modifyDictionary
    rw [(same.pageAt (found.prepended t)).found]
    dsimp only
    rw [show restoreContents ⟨page, paged.store.maxId + 1, entries.find? "Contents"⟩
      (entries.set "Contents" (paged.contentsBehind entries)) = entries from
        Dictionary.restore_set]
  unfold withdraw
  rw [restored]
  refine ⟨?_, same.trailer, same.decoders, same.pageIds⟩
  apply Std.ExtTreeMap.ext_getElem?
  intro id
  dsimp only
  rw [Store.getElem?_erase, Store.getElem?_insert, same.objects, getElem?_prepended]
  by_cases new : paged.store.maxId + 1 = id
  · subst new
    rw [if_pos rfl, Store.getElem?_next]
  · rw [if_neg new]
    by_cases here : at' = id
    · subst here
      rw [if_pos rfl, found.getElem?]
    · rw [if_neg here, if_neg here, if_neg new]

end PagedStore

namespace PageEdit

open PagedStore

variable {β : Type} {paged other : PagedStore} {index page at' : Nat} {entries : Dictionary}

/-- A stream is put in front of the content of a page that stands somewhere, under the next free
number. -/
theorem prepend_of_pageAt (found : paged.PageAt index page at' entries) (t : Transform Float) :
    prepend index t paged = .ok ⟨page, paged.store.maxId + 1, entries.find? "Contents"⟩
      (paged.prepended at' entries t) := by
  unfold prepend
  rw [bind_of_ok (read_of_ok found.id), get_bind]
  simp only [found.dictionary]
  rw [set_bind]
  exact bind_of_ok (changePage_of_pageAt (found.withNew (transformStream t)) _)

/-- A transform is put in front of the content of a page that is found; else nothing changes,
whatever numbers were given out. -/
theorem prepend_cases (paged : PagedStore) (index : Nat) (t : Transform Float) :
    (∃ page at' entries, paged.PageAt index page at' entries ∧
      prepend index t paged = .ok ⟨page, paged.store.maxId + 1, entries.find? "Contents"⟩
        (paged.prepended at' entries t)) ∨
      ∃ fault, ∀ other, other.SameDocument paged → prepend index t other = .error fault other := by
  cases id : paged.pageId index with
  | error fault =>
    refine Or.inr ⟨fault, fun other same => ?_⟩
    unfold prepend
    rw [bind_of_error (read_of_error ((pageId_congr same.pageIds index).trans id))]
  | ok page =>
    cases dictionary : paged.store.dictionary page with
    | error fault =>
      refine Or.inr ⟨.object fault, fun other same => ?_⟩
      unfold prepend
      rw [bind_of_ok (read_of_ok ((pageId_congr same.pageIds index).trans id)), get_bind]
      simp only [Store.dictionary_congr same.objects, dictionary]
      rfl
    | ok entries =>
      obtain ⟨at', found⟩ := pageAt_of_dictionary id dictionary
      exact Or.inl ⟨page, at', entries, found, prepend_of_pageAt found t⟩

/-- A transform is taken back from the content of a page, whether or not what was done meanwhile
came to an end. -/
theorem underTransform_keeps {action : PageEdit β}
    (kept : ∀ origin, Keeps (·.SameDocument origin) action) (t : Transform Float)
    (origin : PagedStore) : Keeps (·.SameDocument origin) (underTransform index t action) := by
  intro paged held
  unfold underTransform
  rcases prepend_cases paged index t with ⟨page, at', entries, found, ended⟩ | ⟨fault, failed⟩
  · rw [ended]
    have between := kept _ _ (SameDocument.refl (paged.prepended at' entries t))
    dsimp only
    cases done : action (paged.prepended at' entries t) with
    | ok answer last =>
      rw [done] at between
      exact (withdraw_of_prepended found between).trans held
    | error fault last =>
      rw [done] at between
      exact (withdraw_of_prepended found between).trans held
  · rw [failed paged (.refl paged)]
    exact held

end PageEdit

end PlacedText
