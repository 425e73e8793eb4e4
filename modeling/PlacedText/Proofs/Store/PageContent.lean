import PlacedText.Proofs.Store.Likeness
import PlacedText.Store.PageContent
import Mathlib.Data.List.Forall2

/-! # The content of a page behind another stream

Content streams that are joined behind a stream give what they give without it, behind that stream
and blanks (`joinParts_behind`). They are the same in stores that differ in edits of pages,
since a stream is no page.
-/

namespace PlacedText.Store

variable {store other : Store} {joined content decoded data : Bytes} {entries : Dictionary}
  {part : Object} {parts : List Object}

theorem pageContent_of_dictionary {page : Nat} (found : store.dictionary page = .ok entries) :
    store.pageContent page = store.joinParts [] (store.contentParts entries) := by
  unfold pageContent
  rw [found]

/-- What new content is put behind: a blank comes after any that is there. -/
def openedBehind (joined : Bytes) : Bytes :=
  if joined.isEmpty then joined else joined ++ [0x20]

theorem openedBehind_of_ne_nil (there : joined ≠ []) : openedBehind joined = joined ++ [0x20] := by
  unfold openedBehind
  rw [if_neg (by simpa using there)]

theorem joinParts_stream (decoding : store.decoded entries data = .ok decoded) :
    store.joinParts joined (.stream entries data :: parts) =
      store.joinParts (openedBehind joined ++ decoded) parts := by
  rw [joinParts, decoding]
  rfl

/-- Parts that are joined begin with a stream that is decoded. -/
theorem joinParts_cons_eq_ok (ended : store.joinParts joined (part :: parts) = .ok content) :
    ∃ entries data decoded, part = .stream entries data ∧
      store.decoded entries data = .ok decoded ∧
      store.joinParts (openedBehind joined ++ decoded) parts = .ok content := by
  cases part with
  | stream entries data =>
    cases decoding : store.decoded entries data with
    | error fault =>
      rw [joinParts, decoding] at ended
      cases ended
    | ok decoded =>
      rw [joinParts_stream decoding] at ended
      exact ⟨entries, data, decoded, rfl, decoding, ended⟩
  | _ => cases ended

/-- Parts that are the same but for dictionaries, which are no content, are joined the same. -/
theorem joinParts_congr (decoders : store.decompress = other.decompress)
    {parts parts' : List Object}
    (same : List.Forall₂ (fun part part' => part = part' ∨
      ∃ entries entries', part = .dictionary entries ∧ part' = .dictionary entries') parts parts')
    (joined : Bytes) : store.joinParts joined parts = other.joinParts joined parts' := by
  induction same generalizing joined with
  | nil => rfl
  | cons same _ ih =>
    rcases same with rfl | ⟨entries, entries', rfl, rfl⟩
    · simp only [joinParts, decoded_congr decoders, ih]
    · rfl

/-- Behind content that is there already, parts add the same whatever it is. -/
theorem joinParts_append (there : joined ≠ [])
    (ended : store.joinParts joined parts = .ok content) :
    ∃ added, content = joined ++ added ∧
      ∀ joined', joined' ≠ [] → store.joinParts joined' parts = .ok (joined' ++ added) := by
  induction parts generalizing joined with
  | nil =>
    cases ended
    exact ⟨[], by simp, fun joined' _ => by simp [joinParts]⟩
  | cons part parts ih =>
    obtain ⟨entries, data, decoded, rfl, decoding, rest⟩ := joinParts_cons_eq_ok ended
    rw [openedBehind_of_ne_nil there] at rest
    obtain ⟨added, whole, behind⟩ := ih (by simp) rest
    refine ⟨0x20 :: (decoded ++ added), by simp [whole], ?_⟩
    intro joined' there'
    rw [joinParts_stream decoding, openedBehind_of_ne_nil there', behind _ (by simp)]
    simp

/-- Behind other content, parts give what they give alone, behind that content and blanks. -/
theorem joinParts_behind (ended : store.joinParts [] parts = .ok content) {front : Bytes}
    (there : front ≠ []) :
    ∃ blanks : Bytes, (∀ b ∈ blanks, b = 0x20) ∧
      store.joinParts front parts = .ok (front ++ blanks ++ content) := by
  induction parts generalizing front with
  | nil =>
    cases ended
    exact ⟨[], by simp, by simp [joinParts]⟩
  | cons part parts ih =>
    obtain ⟨entries, data, decoded, rfl, decoding, rest⟩ := joinParts_cons_eq_ok ended
    rw [joinParts_stream decoding, openedBehind_of_ne_nil there]
    by_cases empty : decoded = []
    · subst empty
      have longer : front ++ [0x20] ++ [] ≠ [] := by simp
      obtain ⟨blanks, all, behind⟩ := ih rest longer
      refine ⟨0x20 :: blanks, by simpa using all, ?_⟩
      rw [behind]
      simp
    · obtain ⟨added, whole, behind⟩ := joinParts_append empty rest
      refine ⟨[0x20], by simp, ?_⟩
      rw [behind _ (by simp), whole]
      simp

/-- Objects that are held and lead to streams lead to the same streams in a store that is alike. -/
theorem FoundAlike.map_resolve (alike : store.FoundAlike other) {items : List Object}
    (held : ∀ item ∈ items, store.Holds item)
    (ended : store.joinParts joined (items.map store.resolve) = .ok content) :
    items.map other.resolve = items.map store.resolve := by
  induction items generalizing joined with
  | nil => rfl
  | cons item items ih =>
    rw [List.map_cons] at ended
    obtain ⟨entries, data, decoded, found, _, rest⟩ := joinParts_cons_eq_ok ended
    have first := alike item (held item (.head items))
    have later := ih (fun item member => held item (.tail _ member)) rest
    rw [found] at first
    rw [List.map_cons, List.map_cons, later, found]
    generalize other.resolve item = found' at first ⊢
    cases first
    rfl

end PlacedText.Store
