import PlacedText.Proofs.Drawing.Twins
import PlacedText.Proofs.Paged.Orderly

/-! # A page behind a transform in two documents

Two documents that are the same as a closed one, but for the numbers given out, are interpreted the
same (`PagedStore.SameDocument.interpret`). They still are behind a transform, although its stream
has another number in each of them (`PagedStore.PageAt.interpret_prepended_eq`).
-/

namespace PlacedText

open Effect

namespace PagedStore

variable {paged first second : PagedStore} {index page at' : Nat} {entries : Dictionary}
  {options : ExtractOptions}

/-- A page is interpreted alike where it has the same object and that is drawn alike. -/
theorem interpret_congr (pageIds : first.pageIds = second.pageIds)
    (shown : ∀ page, first.pageId index = .ok page →
      first.store.interpret (α := Float) options page = second.store.interpret options page) :
    first.interpret options index = second.interpret options index := by
  unfold PagedStore.interpret
  rw [← pageId_congr pageIds index]
  dsimp only [bind, Except.bind]
  cases id : first.pageId index with
  | error fault => rfl
  | ok page =>
    dsimp only
    rw [shown page id]

/-- The numbers that were given out do not show. -/
theorem SameDocument.interpret (same : first.SameDocument second) :
    first.interpret options index = second.interpret options index :=
  interpret_congr same.pageIds fun page _ =>
    (Store.twins_of_objects same.objects same.decoders).interpret_eq
      (congrFun (Store.pageContent_congr same.objects same.decoders) page)
      (Store.sameAnswer_object_congr same.objects page) options

namespace PageAt

variable (found : paged.PageAt index page at' entries) (same : first.SameDocument paged)
  (same' : second.SameDocument paged) (t : Transform Float)

include found in
theorem object_eq : paged.store.object page = .ok (.dictionary entries) := by
  unfold Store.object
  rw [found.found]
  rfl

variable (closed : paged.store.Closed)

include found same same' closed

theorem twins_prepended : paged.store.Twins (first.prepended at' entries t).store
    (second.prepended at' entries t).store :=
  (found.changedAt_prepended same t).twins (found.changedAt_prepended same' t) closed

/-- The parts of the content are twins, the first of them the same stream. -/
theorem contentParts_prepended_twins :
    List.Forall₂ (Object.Twin paged.store)
      ((ownParts first.store (entries.find? "Contents")).map
        (first.prepended at' entries t).store.resolve)
      ((ownParts second.store (entries.find? "Contents")).map
        (second.prepended at' entries t).store.resolve) := by
  have twins := found.twins_prepended same same' t closed
  have held := (contentParts_eq same (Store.holdsDictionary_of_dictionary found.dictionary)).2
  have own : ownParts second.store (entries.find? "Contents") =
      ownParts first.store (entries.find? "Contents") := by
    unfold ownParts
    rw [Store.resolve_congr (same'.trans same.symm).objects]
  rw [own, List.forall₂_map_left_iff, List.forall₂_map_right_iff, List.forall₂_same]
  exact fun part member => twins.resolve (held part member)

/-- Behind the same transform the same content is read, wherever the parts of it stand. -/
theorem pageContent_prepended_eq :
    (first.prepended at' entries t).store.pageContent page =
      (second.prepended at' entries t).store.pageContent page := by
  have there := same.pageAt found
  have there' := same'.pageAt found
  rw [Store.pageContent_of_dictionary (there.prepended t).dictionary,
    Store.pageContent_of_dictionary (there'.prepended t).dictionary,
    contentParts_prepended there, contentParts_prepended there', transformStream,
    joinParts_ofData, joinParts_ofData]
  have twins := found.twins_prepended same same' t closed
  exact Store.joinParts_twins twins.decoders
    (found.contentParts_prepended_twins same same' t closed) _

/-- **A page is interpreted the same behind a transform**, whatever number its stream has. -/
theorem interpret_prepended_eq :
    (first.prepended at' entries t).interpret options index =
      (second.prepended at' entries t).interpret options index := by
  have there := (same.pageAt found).prepended t
  have there' := (same'.pageAt found).prepended t
  have twins := found.twins_prepended same same' t closed
  have entriesHeld := Store.holdsDictionary_of_dictionary found.dictionary
  refine interpret_congr (same.pageIds.trans same'.pageIds.symm) fun own id => ?_
  rw [there.id] at id
  cases id
  refine twins.interpret_eq (found.pageContent_prepended_eq same same' t closed) ?_ options
  rw [there.object_eq, there'.object_eq]
  exact .ok (.dictionary (.page entriesHeld _ _))

end PageAt

end PagedStore

end PlacedText
