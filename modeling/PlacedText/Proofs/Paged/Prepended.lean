import PlacedText.Proofs.Content.Transforms
import PlacedText.Proofs.Paged.Restoration
import PlacedText.Proofs.Store.Difference
import PlacedText.Proofs.Store.PageContent

/-! # A page behind a transform

Putting a transform in front of the content of a page changes nothing but that content
(`PagedStore.PageAt.changedAt_prepended`). If every reference of the document names an object, the
content is read as before, behind the transform (`PagedStore.readsBehind_prepended`).
-/

namespace PlacedText

theorem Object.ofData_ne_reference (entries : Dictionary) (data : Bytes) (id : Nat) :
    Object.ofData entries data ≠ .reference id := by
  intro same
  cases same

/-! ## A page behind a transform -/

namespace PagedStore

variable {paged other : PagedStore} {index page at' : Nat} {entries : Dictionary}

theorem PageAt.changedAt_putDictionary (found : paged.PageAt index page at' entries)
    (changed : Dictionary) :
    paged.store.ChangedAt (paged.putDictionary at' changed).store at' entries changed where
  decoders := rfl
  here := found.getElem?
  there := (found.putDictionary changed).getElem?
  others := by
    intro id different object present
    rw [getElem?_putDictionary, if_neg (Ne.symm different)]
    exact present

/-- A stream in front of the content changes one entry of one dictionary and adds one object. -/
theorem PageAt.changedAt_prepended (found : paged.PageAt index page at' entries)
    (same : other.SameDocument paged) (t : Transform Float) :
    paged.store.ChangedAt (other.prepended at' entries t).store at' entries
      (entries.set "Contents" (other.contentsBehind entries)) where
  decoders := same.decoders.symm
  here := found.getElem?
  there := ((same.pageAt found).prepended t).getElem?
  others := by
    intro id different object present
    have there := present
    rw [← same.objects] at there
    have bounded := Store.le_maxId_of_getElem? there
    rw [getElem?_prepended, if_neg (Ne.symm different), if_neg (by omega)]
    exact there

/-- What stands in the content of a page is what a transform is put in front of. -/
theorem contentParts_eq (same : other.SameDocument paged)
    (held : paged.store.HoldsDictionary entries) :
    paged.store.contentParts entries =
        (ownParts other.store (entries.find? "Contents")).map paged.store.resolve ∧
      ∀ part ∈ ownParts other.store (entries.find? "Contents"), paged.store.Holds part := by
  unfold Store.contentParts ownParts
  cases present : entries.find? "Contents" with
  | none => exact ⟨rfl, by simp⟩
  | some contents =>
    have contentsHeld := held.get present
    dsimp only
    rw [Store.resolve_congr same.objects]
    cases shown : paged.store.resolve contents with
    | array items =>
      have arrayHeld := contentsHeld.resolve
      rw [shown] at arrayHeld
      exact ⟨rfl, fun item member => arrayHeld.item member⟩
    | _ =>
      refine ⟨by simp [shown], fun part member => ?_⟩
      rw [List.mem_singleton.mp member]
      exact contentsHeld

/-- A stream of plain data is decoded to that data. -/
theorem joinParts_ofData (store : Store) (data : Bytes) (parts : List Object) :
    store.joinParts [] (.ofData [] data :: parts) = store.joinParts data parts := by
  have decoding : store.decoded (Dictionary.set [] "Length" (.integer data.length)) data =
      .ok data := by
    unfold Store.decoded
    rw [Dictionary.find?_set_of_ne (by decide)]
    rfl
  exact Store.joinParts_stream decoding

/-- The new reference in the content of a page leads to the stream of the transform. -/
theorem resolve_new (found : other.PageAt index page at' entries) (t : Transform Float) :
    (other.prepended at' entries t).store.resolve (.reference (other.store.maxId + 1)) =
      transformStream t := by
  have new : (other.prepended at' entries t).store.objects[other.store.maxId + 1]? =
      some (transformStream t) := by
    have bounded := Store.le_maxId_of_getElem? found.getElem?
    rw [getElem?_prepended, if_neg (by omega), if_pos rfl]
  exact Store.resolve_of_getElem? new (Object.ofData_ne_reference _ _)

/-- The content of a page behind a transform has the stream of that transform for its first part. -/
theorem contentParts_prepended (found : other.PageAt index page at' entries) (t : Transform Float) :
    (other.prepended at' entries t).store.contentParts
        (entries.set "Contents" (other.contentsBehind entries)) =
      transformStream t :: (ownParts other.store (entries.find? "Contents")).map
        (other.prepended at' entries t).store.resolve := by
  unfold Store.contentParts
  rw [Dictionary.find?_set_self]
  change List.map _ (_ :: _) = _
  rw [List.map_cons, resolve_new found t]

/-- The content of the page is then the operator, blanks between the parts and the content as it
was. A closed store is asked for, so that the number of the new stream led nowhere before. -/
theorem pageContent_prepended (found : paged.PageAt index page at' entries)
    (closed : paged.store.Closed) (same : other.SameDocument paged) (t : Transform Float)
    {content : Bytes} (ended : paged.store.pageContent page = .ok content) :
    ∃ blanks : Bytes, (∀ b ∈ blanks, b = 0x20) ∧
      (other.prepended at' entries t).store.pageContent page =
        .ok (Text.Utf8.encode t.operatorText ++ blanks ++ content) := by
  have there := same.pageAt found
  have alike := ((found.changedAt_prepended same t).similar_of_closed
    (entries.sameElsewhere_set (.inl rfl) _) closed).found
  have held := Store.holdsDictionary_of_dictionary found.dictionary
  obtain ⟨own, partsHeld⟩ := contentParts_eq same held
  have joined := (Store.pageContent_of_dictionary found.dictionary).symm.trans ended
  rw [own] at joined
  have front : Text.Utf8.encode t.operatorText ≠ [] := by
    obtain ⟨word, _, written⟩ := t.encode_operatorText
    rw [written]
    simp
  obtain ⟨blanks, all, behind⟩ := Store.joinParts_behind joined front
  refine ⟨blanks, all, ?_⟩
  rw [Store.pageContent_of_dictionary (there.prepended t).dictionary, contentParts_prepended there,
    alike.map_resolve partsHeld joined]
  refine (joinParts_ofData _ _ _).trans (Eq.trans ?_ behind)
  exact Store.joinParts_congr (found.changedAt_prepended same t).decoders.symm
    (List.forall₂_same.mpr fun _ _ => .inl rfl) _

/-- The content of a page behind a transform reads as before, behind that transform. -/
theorem readsBehind_prepended (found : paged.PageAt index page at' entries)
    (closed : paged.store.Closed) (same : other.SameDocument paged) (t : Transform Float)
    {content content' : Bytes} (ended : paged.store.pageContent page = .ok content)
    (ended' : (other.prepended at' entries t).store.pageContent page = .ok content') :
    Content.ReadsBehindTransform content content' := by
  obtain ⟨blanks, all, behind⟩ := pageContent_prepended found closed same t ended
  obtain ⟨word, reads, written⟩ := t.encode_operatorText
  rw [behind, written] at ended'
  have whole := Except.ok.inj ended'
  subst whole
  have blank : ∀ b ∈ blanks, Content.isBlank b := by
    intro b member
    rw [all b member]
    decide
  have transformed := reads.readsBehind blank content
  simpa only [List.append_assoc, List.cons_append, List.nil_append] using transformed

/-- The content of a page behind a transform of finite doubles reads as one operator, and then as
before. -/
theorem operators_prepended (found : paged.PageAt index page at' entries)
    (closed : paged.store.Closed) (same : other.SameDocument paged) {t : Transform Float}
    (finite : ∀ x ∈ t.toList, Scalar.isFinite x = true) {content : Bytes}
    {operators : List (Operator Numeral)} (ended : paged.store.pageContent page = .ok content)
    (read : Content.operators content = .ok operators) :
    ∃ content' numerals, (other.prepended at' entries t).store.pageContent page = .ok content' ∧
      Content.operators content' = .ok (⟨"cm", numerals⟩ :: operators) := by
  obtain ⟨blanks, all, behind⟩ := pageContent_prepended found closed same t ended
  obtain ⟨literals, -, written⟩ := t.exists_rounds finite
  have blank : ∀ b ∈ blanks, Content.isBlank b := by
    intro b member
    rw [all b member]
    decide
  have whole := Content.toOption_operators_behind_literals literals blank content
  refine ⟨_, Content.numerals literals, behind, ?_⟩
  rw [read] at whole
  rw [written]
  simp only [List.append_assoc, List.cons_append, List.nil_append] at whole ⊢
  exact Content.eq_ok_of_toOption whole

end PagedStore

end PlacedText
