import PlacedText.Proofs.Paged.Prepended

/-! # Orderly documents

A document is orderly if every reference in it names one of its objects and no page stands among its
fonts and external objects. Rotating a page (`PagedStore.Orderly.setRotate`) and putting a transform
in front of its content (`PagedStore.Orderly.prepended`) keep it so.
-/

namespace PlacedText

/-! ## What is held after a change -/

/-- An entry of a dictionary behind a change was there before or is the new one. -/
theorem Dictionary.mem_of_mem_put {entries : Dictionary} {key other : Bytes}
    {value present : Object}
    (member : (other, present) ∈ put key value entries) :
    (other, present) ∈ entries ∨ present = value := by
  induction entries with
  | nil =>
    cases List.mem_singleton.mp member
    exact Or.inr rfl
  | cons entry rest ih =>
    obtain ⟨first, there⟩ := entry
    unfold put at member
    split at member
    · rcases List.mem_cons.mp member with here | later
      · cases here
        exact Or.inr rfl
      · exact Or.inl (.tail _ later)
    · rcases List.mem_cons.mp member with here | later
      · rw [here]
        exact Or.inl (.head _)
      · rcases ih later with before | new
        · exact Or.inl (.tail _ before)
        · exact Or.inr new

/-- A dictionary with another value holds what it held before, itself and what the value holds. -/
theorem Object.holds_set {entries : Dictionary} {key : String} {value inner : Object}
    (held : (Object.dictionary (entries.set key value)).Holds inner) :
    inner = .dictionary (entries.set key value) ∨ (Object.dictionary entries).Holds inner ∨
      value.Holds inner := by
  rcases held.of_entries rfl with same | ⟨_, _, member, within⟩
  · exact Or.inl same
  · rcases Dictionary.mem_of_mem_put member with before | rfl
    · exact Or.inr (Or.inl (.entry rfl before within))
    · exact Or.inr (Or.inr within)

/-- A store with one more object holds what it held or what the object holds. -/
theorem Store.holds_insert {store : Store} {id : Nat} {object inner : Object}
    (held : (store.insert id object).Holds inner) : store.Holds inner ∨ object.Holds inner := by
  obtain ⟨place, root, found, within⟩ := held
  rw [Store.getElem?_insert] at found
  split at found
  · cases found
    exact Or.inr within
  · exact Or.inl ⟨place, root, found, within⟩

/-- A stream of plain data has neither fonts nor external objects. -/
theorem Object.holds_ofData {data : Bytes} {inner : Object}
    (held : (Object.ofData [] data).Holds inner) :
    inner = .ofData [] data ∨ ∃ length, inner = .integer length := by
  rcases held.of_entries rfl with same | ⟨_, _, member, within⟩
  · exact Or.inl same
  · rcases Dictionary.mem_of_mem_put member with before | rfl
    · cases before
    · exact Or.inr ⟨_, within.eq_of_plain rfl rfl⟩

namespace PagedStore

variable {paged other : PagedStore} {index page at' : Nat} {entries changed : Dictionary}

/-- Whether every reference of a document names one of its objects, and no page stands among its
fonts and external objects. -/
structure Orderly (paged : PagedStore) : Prop where
  closed : paged.store.Closed
  apart : ∀ index page at' entries, paged.PageAt index page at' entries → paged.store.Apart at'

theorem SameDocument.holds (same : other.SameDocument paged) {object : Object}
    (held : other.store.Holds object) : paged.store.Holds object := by
  unfold Store.Holds at held ⊢
  rw [← same.objects]
  exact held

theorem SameDocument.closed (same : other.SameDocument paged) (closed : paged.store.Closed) :
    other.store.Closed := by
  intro id refers
  rw [same.objects]
  exact closed id (same.holds refers)

/-- The numbers that were given out do not matter. -/
theorem SameDocument.orderly (same : other.SameDocument paged) (orderly : paged.Orderly) :
    other.Orderly := by
  refine ⟨same.closed orderly.closed, fun index page at' entries found own ownHeld key category id
    refers object => ?_⟩
  · have before : paged.store.HoldsDictionary own := by
      rcases ownHeld with none | ⟨root, within, its⟩
      · exact Or.inl none
      · exact Or.inr ⟨root, same.holds within, its⟩
    unfold Store.locate
    rw [Store.locateFrom_congr same.objects]
    exact orderly.apart index page at' entries (same.symm.pageAt found) own before key category id
      refers object

/-- A page of a document whose new objects are streams was one before the change, at the same place.
-/
theorem PageAt.back {place : Nat} {own : Dictionary}
    (found : other.PageAt index page place own) (closed : paged.store.Closed)
    (differs : paged.store.ChangedAt other.store at' entries changed)
    (pageIds : other.pageIds = paged.pageIds)
    (streams : ∀ id, id ∉ paged.store.objects → ∀ object, other.store.objects[id]? = some object →
      ∃ own data, object = .stream own data) :
    ∃ before, paged.PageAt index page place before := by
  have pageId := (pageId_congr pageIds index).symm.trans found.id
  have located := found.found
  by_cases present : page ∈ paged.store.objects
  · obtain ⟨object, locatedBefore, ⟨_, same⟩ | ⟨_, same, _⟩⟩ :=
      differs.located_back closed present located
    · rw [← same] at locatedBefore
      exact ⟨own, pageId, locatedBefore⟩
    · rw [same] at locatedBefore
      exact ⟨entries, pageId, locatedBefore⟩
  · unfold Store.locate at located
    cases new : other.store.objects[page]? with
    | none =>
      unfold Store.locateFrom at located
      rw [new] at located
      cases located
    | some root =>
      obtain ⟨streamOwn, data, rfl⟩ := streams page present root new
      rw [Store.locateFrom_of_getElem? new (by simp)] at located
      cases located

/-- What a document holds after a value was put in the dictionary of a page is that dictionary, or
was held before, or is held by the value. -/
theorem PageAt.holds_putDictionary (found : paged.PageAt index page at' entries) {key : String}
    {value inner : Object}
    (held : (paged.putDictionary at' (entries.set key value)).store.Holds inner) :
    inner = .dictionary (entries.set key value) ∨ paged.store.Holds inner ∨ value.Holds inner := by
  rcases Store.holds_insert held with before | within
  · exact Or.inr (Or.inl before)
  · rcases Object.holds_set within with same | before | new
    · exact Or.inl same
    · exact Or.inr (Or.inl ((Store.holds_of_getElem? found.getElem?).inner before))
    · exact Or.inr (Or.inr new)

/-- A closed document stays closed when a value is put in the dictionary of a page whose references
name objects. -/
theorem PageAt.closed_putDictionary (found : paged.PageAt index page at' entries)
    (closed : paged.store.Closed) {key : String} {value : Object}
    (names : ∀ id : Nat, value.Holds (.reference id) → id ∈ paged.store.objects) :
    (paged.putDictionary at' (entries.set key value)).store.Closed := by
  intro id refers
  apply (found.changedAt_putDictionary _).mem
  rcases found.holds_putDictionary refers with same | before | new
  · cases same
  · exact closed id before
  · exact names id new

/-- Rotating a page keeps a document closed. -/
theorem PageAt.closed_setRotate (found : paged.PageAt index page at' entries)
    (closed : paged.store.Closed) (degrees : Int) :
    (paged.putDictionary at' (entries.set "Rotate" (.integer degrees))).store.Closed := by
  apply found.closed_putDictionary closed
  intro id held
  cases held.eq_of_plain rfl rfl

namespace Orderly

/-- A document with a changed dictionary is orderly if its references name objects, its fonts and
external objects were there before, and what is new are streams. -/
theorem changedAt (orderly : paged.Orderly)
    (differs : paged.store.ChangedAt other.store at' entries changed)
    (pageIds : other.pageIds = paged.pageIds)
    (streams : ∀ id, id ∉ paged.store.objects → ∀ object, other.store.objects[id]? = some object →
      ∃ own data, object = .stream own data)
    (references : ∀ id, other.store.Holds (.reference id) → id ∈ other.store.objects)
    (categories : ∀ own, other.store.HoldsDictionary own → ∀ key, key = "Font" ∨ key = "XObject" →
      ∀ id, own.find? key = some (.reference id) →
        ∃ before, paged.store.HoldsDictionary before ∧ before.find? key = some (.reference id)) :
    other.Orderly := by
  refine ⟨references, fun index page place own found shown held key category id refers object
    leads => ?_⟩
  obtain ⟨ownBefore, foundBefore⟩ := found.back orderly.closed differs pageIds streams
  obtain ⟨before, heldBefore, refersBefore⟩ := categories shown held key category id refers
  have present := orderly.closed id (heldBefore.get refersBefore)
  obtain ⟨objectBefore, ledBefore, _⟩ := differs.located_back orderly.closed present leads
  exact orderly.apart index page place ownBefore foundBefore before heldBefore key category id
    refersBefore objectBefore ledBefore

/-- A value may be put in the dictionary of a page under a key that is none for fonts and external
objects, if its dictionaries are held before and its references name objects. -/
theorem putDictionary (orderly : paged.Orderly) (found : paged.PageAt index page at' entries)
    {key : String} {value : Object}
    (elsewhere : ∀ category, category = "Font" ∨ category = "XObject" →
      Text.Utf8.encode key ≠ Text.Utf8.encode category)
    (known : ∀ inner, value.Holds inner → paged.store.Holds inner ∨
      Store.entriesOf inner = none ∧ ∀ id, inner = .reference id → id ∈ paged.store.objects) :
    (paged.putDictionary at' (entries.set key value)).Orderly := by
  have differs := found.changedAt_putDictionary (entries.set key value)
  have entriesHeld : paged.store.Holds (.dictionary entries) :=
    Store.holds_of_getElem? found.getElem?
  refine orderly.changedAt differs rfl ?streams ?references ?categories
  case streams =>
    intro id absent object present
    rw [getElem?_putDictionary] at present
    split at present
    · next same =>
      subst same
      exact absurd (Store.mem_of_getElem? found.getElem?) absent
    · exact absurd (Store.mem_of_getElem? present) absent
  case references =>
    apply found.closed_putDictionary orderly.closed
    intro id held
    rcases known _ held with before | ⟨_, names⟩
    · exact orderly.closed id before
    · exact names id rfl
  case categories =>
    intro own ownHeld category isCategory id refers
    rcases ownHeld with rfl | ⟨object, within, its⟩
    · cases refers
    · rcases found.holds_putDictionary within with same | before | new
      · subst same
        cases its
        rw [Dictionary.find?_set_of_ne (elsewhere category isCategory)] at refers
        exact ⟨entries, entriesHeld.dictionary rfl, refers⟩
      · exact ⟨own, before.dictionary its, refers⟩
      · rcases known _ new with before | ⟨none, _⟩
        · exact ⟨own, before.dictionary its, refers⟩
        · rw [none] at its
          cases its

/-- Rotating a page keeps a document orderly. -/
theorem setRotate (orderly : paged.Orderly) (found : paged.PageAt index page at' entries)
    (degrees : Int) :
    (paged.putDictionary at' (entries.set "Rotate" (.integer degrees))).Orderly := by
  apply orderly.putDictionary found
  · rintro category (rfl | rfl)
    · decide
    · decide
  · intro inner held
    rw [held.eq_of_plain rfl rfl]
    exact Or.inr ⟨rfl, by simp⟩

/-- A new stream of plain data keeps a document orderly. -/
theorem withData (orderly : paged.Orderly) (found : paged.PageAt index page at' entries)
    (data : Bytes) : (paged.withNew (.ofData [] data)).Orderly := by
  have objects (id : Nat) : (paged.withNew (.ofData [] data)).store.objects[id]? =
      if paged.store.maxId + 1 = id then some (.ofData [] data) else paged.store.objects[id]? :=
    Store.getElem?_insert
  have differs :
      paged.store.ChangedAt (paged.withNew (.ofData [] data)).store at' entries entries :=
    ⟨rfl, found.getElem?, getElem?_withNew found.getElem?,
      fun _ _ _ there => getElem?_withNew there⟩
  refine orderly.changedAt differs rfl ?streams ?references ?categories
  case streams =>
    intro id absent object present
    rw [objects] at present
    split at present
    · cases present
      exact ⟨_, _, rfl⟩
    · exact absurd (Store.mem_of_getElem? present) absent
  case references =>
    intro id refers
    rcases Store.holds_insert refers with before | within
    · exact differs.mem (orderly.closed id before)
    · rcases Object.holds_ofData within with same | ⟨_, same⟩
      · cases same
      · cases same
  case categories =>
    intro own ownHeld category isCategory id refers
    rcases ownHeld with rfl | ⟨object, held, its⟩
    · cases refers
    · rcases Store.holds_insert held with before | within
      · exact ⟨own, before.dictionary its, refers⟩
      · rcases Object.holds_ofData within with rfl | ⟨_, rfl⟩
        · have plain : own.find? category = none := by
            cases its
            rcases isCategory with rfl | rfl
            · exact Dictionary.find?_set_of_ne (by decide)
            · exact Dictionary.find?_set_of_ne (by decide)
          rw [plain] at refers
          cases refers
        · cases its

/-- A transform in front of the content of a page keeps a document orderly. -/
theorem prepended (orderly : paged.Orderly) (found : paged.PageAt index page at' entries)
    (t : Transform Float) : (paged.prepended at' entries t).Orderly := by
  have parts := (contentParts_eq (SameDocument.refl paged)
    ((Store.holds_of_getElem? found.getElem?).dictionary rfl)).2
  apply (orderly.withData found _).putDictionary (found.withNew _)
  · rintro category (rfl | rfl)
    · decide
    · decide
  · intro inner held
    cases held with
    | self => exact Or.inr ⟨rfl, by simp [contentsBehind]⟩
    | entry own => cases own
    | item member within =>
      rcases List.mem_cons.mp member with rfl | own
      · rw [within.eq_of_plain rfl rfl]
        refine Or.inr ⟨rfl, fun id same => ?_⟩
        cases same
        exact Store.mem_of_getElem? (Store.getElem?_insert.trans (if_pos rfl))
      · obtain ⟨id, root, there, outer⟩ := (parts _ own).inner within
        exact Or.inl ⟨id, root, getElem?_withNew there, outer⟩

end Orderly

end PagedStore

end PlacedText
