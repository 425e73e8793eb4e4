import PlacedText.Proofs.Paged.Edited
import PlacedText.Proofs.Paged.Turns

/-! # Rotations that are found

A page that is straightened may get a rotation of its own. Pages below it then find that one, and do
not have to look for it in the nodes above (`Store.Settled.inheritedFrom_back`). If those pages
found a rotation before, as `PagedStore.RotationsFound` says, the rotations that are found in the
document stay those of the same pages (`PagedStore.hasRotation_settled`).
-/

namespace PlacedText

open Effect

namespace Store

variable {store other : Store} {at' id next hops place page node levels : Nat}
  {entries changed own : Dictionary}

/-- Whether a store is another one in which one dictionary was settled: it refers to the same node
above and has a rotation if it had one, and all new objects are streams. -/
structure Settled (store other : Store) (at' : Nat) (entries changed : Dictionary) : Prop
    extends store.ChangedAt other at' entries changed where
  parent : changed.find? "Parent" = entries.find? "Parent"
  rotate : ∀ value, entries.find? "Rotate" = some value →
    ∃ value', changed.find? "Rotate" = some value'
  new : ∀ (id : Nat) object, other.objects[id]? = some object → store.objects[id]? = none →
    ∃ own data, object = .stream own data

/-- The nodes above the parent of a node are above that node. -/
theorem Above.behind {parent : Nat} (own : store.dictionary node = .ok entries)
    (refers : entries.find? "Parent" = some (.reference parent)) {last : Nat}
    (above : store.Above parent last) : store.Above node last := by
  induction above with
  | parent own' refers' => exact .above (.parent own refers) own' refers'
  | above _ own' refers' ih => exact .above ih own' refers'

theorem Above.congr (same : store.objects = other.objects) (above : store.Above page node) :
    other.Above page node := by
  induction above with
  | parent own refers => exact .parent (dictionary_congr same ▸ own) refers
  | above _ own refers ih => exact .above ih (dictionary_congr same ▸ own) refers

/-- What is inherited from a node does not depend on the page, unless it is not found. -/
theorem inheritedFrom_of_page {key : String} (page' : Nat) {value? : Option Object}
    (found : store.inheritedFrom key page levels node = .ok value?) :
    store.inheritedFrom key page' levels node = .ok value? := by
  induction levels generalizing node with
  | zero => cases found
  | succ levels ih =>
    unfold inheritedFrom at found ⊢
    cases own : store.dictionary node with
    | error fault =>
      rw [own] at found
      cases found
    | ok entries =>
      rw [own] at found
      dsimp only at found ⊢
      cases present : entries.find? key with
      | some value =>
        rw [present] at found
        exact found
      | none =>
        rw [present] at found
        dsimp only at found ⊢
        split at found
        · exact ih found
        · exact found

/-- Nodes with the same dictionary inherit the same. -/
theorem inheritedFrom_of_dictionary {key : String} {node' : Nat}
    (same : store.dictionary node = store.dictionary node') :
    store.inheritedFrom key page levels node = store.inheritedFrom key page levels node' := by
  cases levels with
  | zero => rfl
  | succ levels =>
    unfold inheritedFrom
    rw [same]

namespace Settled

variable (settled : store.Settled other at' entries changed)

include settled

/-- A reference in the settled store was one before. -/
theorem references_back (refers : other.objects[id]? = some (Object.reference next)) :
    store.objects[id]? = some (Object.reference next) := by
  cases present : store.objects[id]? with
  | none =>
    obtain ⟨_, _, same⟩ := settled.new id _ refers present
    cases same
  | some object =>
    by_cases here : id = at'
    · subst here
      cases refers.symm.trans settled.there
    · exact (settled.others id here object present).symm.trans refers

/-- A dictionary that references lead to was in the same place before. -/
theorem located_dictionary {own' : Dictionary}
    (found : other.locateFrom hops id = .ok (place, .dictionary own')) :
    ∃ own, store.locateFrom hops id = .ok (place, .dictionary own) ∧
      (own' = own ∨ place = at' ∧ own' = changed ∧ own = entries) := by
  obtain ⟨there, -⟩ := getElem?_of_locateFrom found
  cases present : store.objects[place]? with
  | none =>
    obtain ⟨_, _, same⟩ := settled.new place _ there present
    cases same
  | some object =>
    by_cases here : place = at'
    · subst here
      cases settled.there.symm.trans there
      exact ⟨entries, locateFrom_transfer (fun _ _ => settled.references_back) found settled.here
        nofun, .inr ⟨rfl, rfl, rfl⟩⟩
    · cases (settled.others place here object present).symm.trans there
      exact ⟨own', locateFrom_transfer (fun _ _ => settled.references_back) found present nofun,
        .inl rfl⟩

/-- A node that is found still is, with the same node above. -/
theorem dictionary (found : store.dictionary node = .ok own) :
    ∃ own', other.dictionary node = .ok own' ∧ own'.find? "Parent" = own.find? "Parent" ∧
      ∀ value, own.find? "Rotate" = some value → ∃ value', own'.find? "Rotate" = some value' := by
  unfold Store.dictionary Store.object locate at found ⊢
  cases located : store.locateFrom maxHops node with
  | error fault =>
    rw [located] at found
    cases found
  | ok place =>
    obtain ⟨place, object⟩ := place
    rw [located] at found
    obtain ⟨object', located', ⟨_, rfl⟩ | ⟨_, rfl, rfl⟩⟩ := settled.located located
    · rw [located']
      exact ⟨own, found, rfl, fun value present => ⟨value, present⟩⟩
    · rw [located']
      cases found
      exact ⟨changed, rfl, settled.parent, settled.rotate⟩

/-- A node that is found was found before, with the same node above and, but for the node that was
settled, the same rotation. -/
theorem dictionary_back {own' : Dictionary} (found : other.dictionary node = .ok own') :
    ∃ own, store.dictionary node = .ok own ∧ own'.find? "Parent" = own.find? "Parent" ∧
      (own' = own ∨ ∃ object, store.locate node = .ok (at', object)) := by
  unfold Store.dictionary Store.object locate at found ⊢
  cases located : other.locateFrom maxHops node with
  | error fault =>
    rw [located] at found
    cases found
  | ok place =>
    obtain ⟨place, object⟩ := place
    rw [located] at found
    cases object with
    | dictionary _ =>
      cases found
      obtain ⟨own, located', same⟩ := settled.located_dictionary located
      rw [located']
      rcases same with rfl | ⟨rfl, rfl, rfl⟩
      · exact ⟨_, rfl, rfl, .inl rfl⟩
      · exact ⟨_, rfl, settled.parent, .inr ⟨_, rfl⟩⟩
    | _ => cases found

/-- What stands above a page in the settled store did so before. -/
theorem above_back (above : other.Above page node) : store.Above page node := by
  induction above with
  | parent found refers =>
    obtain ⟨own, before, parent, -⟩ := settled.dictionary_back found
    exact .parent before (parent ▸ refers)
  | above _ found refers ih =>
    obtain ⟨own, before, parent, -⟩ := settled.dictionary_back found
    exact .above ih before (parent ▸ refers)

/-- A rotation that is found still is. -/
theorem inheritedFrom_rotate {value? : Option Object}
    (found : store.inheritedFrom "Rotate" page levels node = .ok value?) :
    ∃ value'?, other.inheritedFrom "Rotate" page levels node = .ok value'? := by
  induction levels generalizing node with
  | zero => cases found
  | succ levels ih =>
    unfold Store.inheritedFrom at found ⊢
    cases here : store.dictionary node with
    | error fault =>
      rw [here] at found
      cases found
    | ok own =>
      obtain ⟨own', there, parent, rotate⟩ := settled.dictionary here
      rw [here] at found
      rw [there]
      dsimp only at found ⊢
      rw [parent]
      cases turned : own'.find? "Rotate" with
      | some value => exact ⟨_, rfl⟩
      | none =>
        cases before : own.find? "Rotate" with
        | some value =>
          obtain ⟨value', there⟩ := rotate value before
          cases turned.symm.trans there
        | none =>
          rw [before] at found
          dsimp only at found ⊢
          split at found
          · exact ih found
          · exact ⟨_, rfl⟩

/-- A rotation that is found was found before, or the node that was settled is on the way. -/
theorem inheritedFrom_back {value? : Option Object}
    (found : other.inheritedFrom "Rotate" page levels node = .ok value?) :
    (∃ value'?, store.inheritedFrom "Rotate" page levels node = .ok value'?) ∨
      ∃ last object, (last = node ∨ store.Above node last) ∧
        store.locate last = .ok (at', object) := by
  induction levels generalizing node with
  | zero => cases found
  | succ levels ih =>
    unfold Store.inheritedFrom at found ⊢
    cases there : other.dictionary node with
    | error fault =>
      rw [there] at found
      cases found
    | ok own' =>
      obtain ⟨own, here, -, rfl | ⟨object, placed⟩⟩ := settled.dictionary_back there
      · rw [there] at found
        rw [here]
        dsimp only at found ⊢
        split at found
        · exact .inl ⟨_, rfl⟩
        · split at found
          · next refers =>
            rcases ih found with before | ⟨last, object, reached, placed⟩
            · exact .inl before
            · refine .inr ⟨last, object, .inr ?_, placed⟩
              rcases reached with rfl | above
              · exact .parent here refers
              · exact .behind here refers above
          · exact .inl ⟨_, rfl⟩
      · exact .inr ⟨node, object, .inl rfl, placed⟩

end Settled

end Store

namespace PagedStore

variable {first second paged other between : PagedStore} {index index' page page' at' : Nat}
  {entries changed : Dictionary}

/-- Whether a page has a rotation that is found wherever one is found for a page that stands above
it. -/
def RotationsFound (paged : PagedStore) : Prop :=
  ∀ index index' page page' at' at'' entries entries' node object,
    paged.PageAt index page at' entries → paged.PageAt index' page' at'' entries' →
    paged.store.Above page node → paged.store.locate node = .ok (at'', object) →
    paged.HasRotation index' → paged.HasRotation index

/-! ## The same document -/

namespace SameDocument

variable (same : first.SameDocument second)

include same

theorem hasRotation : first.HasRotation index ↔ second.HasRotation index := by
  unfold HasRotation PagedStore.rotation
  rw [show first.pageId = second.pageId from funext (pageId_congr same.pageIds),
    Store.inherited_congr same.objects]

theorem rotationsFound (found : second.RotationsFound) : first.RotationsFound := by
  intro index index' page page' at' at'' entries entries' node object here here' above placed has
  exact same.hasRotation.mpr (found _ _ _ _ _ _ _ _ _ _ (same.symm.pageAt here)
    (same.symm.pageAt here') (above.congr same.objects) (Store.locate_congr same.objects ▸ placed)
    (same.hasRotation.mp has))

end SameDocument

/-! ## Documents that differ in rotations -/

section

variable (alike : first.AlikeBy Dictionary.SameButTurn second)

include alike

/-- What stands above a page does so whatever the rotations are. -/
theorem AlikeBy.above {node : Nat} (above : first.store.Above page node) :
    second.store.Above page node := by
  have dictionary {id : Nat} {own : Dictionary} (found : first.store.dictionary id = .ok own) :
      ∃ own', second.store.dictionary id = .ok own' ∧
        own'.find? "Parent" = own.find? "Parent" := by
    have same := alike.objects.dictionary Dictionary.SameButTurn.refl id
    rw [found] at same
    generalize second.store.dictionary id = answer' at same ⊢
    cases same with
    | ok same => exact ⟨_, rfl, (same.find? (by decide)).symm⟩
  induction above with
  | parent own refers =>
    obtain ⟨own', there, parent⟩ := dictionary own
    exact .parent there (parent.trans refers)
  | above _ own refers ih =>
    obtain ⟨own', there, parent⟩ := dictionary own
    exact .above ih there (parent.trans refers)

/-- What holds of the rotations of a document holds of those of the other, if they are found alike.
-/
theorem AlikeBy.rotationsFound
    (same : ∀ index, first.HasRotation index ↔ second.HasRotation index)
    (rotations : first.RotationsFound) : second.RotationsFound := by
  intro lower upper below above place place' own own' node object there there' stands placed turned
  obtain ⟨before, here, -⟩ := alike.symm.pageAt Dictionary.SameButTurn.refl there
  obtain ⟨before', here', -⟩ := alike.symm.pageAt Dictionary.SameButTurn.refl there'
  have located := alike.symm.objects.locateFrom Store.maxHops node
  unfold Store.locate at placed
  rw [placed] at located
  generalize found : first.store.locateFrom Store.maxHops node = answer' at located
  cases located with
  | @ok _ found' moved =>
    obtain ⟨place'', object'⟩ := found'
    obtain ⟨rfl, -⟩ := moved
    exact (same lower).mp (rotations _ _ _ _ _ _ _ _ _ _ here here' (alike.symm.above stands) found
      ((same upper).mpr turned))

end

/-! ## A page that is settled -/

/-- A rotation is found for every page that has the same dictionary. -/
theorem hasRotation_of_samePlace (found : paged.PageAt index page at' entries)
    (found' : paged.PageAt index' page' at' entries) (has : paged.HasRotation index) :
    paged.HasRotation index' := by
  obtain ⟨value?, inherited⟩ := (hasRotation_iff found.id).mp has
  refine (hasRotation_iff found'.id).mpr ⟨value?, ?_⟩
  unfold Store.inherited at inherited ⊢
  rw [Store.inheritedFrom_of_dictionary (found'.dictionary.trans found.dictionary.symm)]
  exact Store.inheritedFrom_of_page page' inherited

section

variable (settled : first.store.Settled second.store at' entries changed)
  (pageIds : second.pageIds = first.pageIds)

include settled pageIds

theorem pageAt_settled {own : Dictionary} {at'' : Nat}
    (found : second.PageAt index page at'' own) :
    ∃ own', first.PageAt index page at'' own' := by
  obtain ⟨own', located, -⟩ := settled.located_dictionary found.found
  exact ⟨own', (pageId_congr pageIds index).symm.trans found.id, located⟩

/-- **Settling a page changes no other page's finding a rotation**, if those below it found one. -/
theorem hasRotation_settled (found : first.PageAt index page at' entries)
    (has : first.HasRotation index) (rotations : first.RotationsFound) (index' : Nat) :
    second.HasRotation index' ↔ first.HasRotation index' := by
  constructor
  · rintro ⟨degrees, turned⟩
    obtain ⟨page', at'', own, there⟩ := pageAt_of_rotation turned
    obtain ⟨own', here⟩ := pageAt_settled settled pageIds there
    obtain ⟨value?, inherited⟩ := (hasRotation_iff there.id).mp ⟨degrees, turned⟩
    rcases settled.inheritedFrom_back inherited with before | ⟨last, object, reached, placed⟩
    · exact (hasRotation_iff here.id).mpr before
    · rcases reached with rfl | above
      · cases placed.symm.trans here.found
        cases found.getElem?.symm.trans here.getElem?
        exact hasRotation_of_samePlace found here has
      · exact rotations _ _ _ _ _ _ _ _ _ _ here found above placed has
  · rintro ⟨degrees, turned⟩
    obtain ⟨page', at'', own, here⟩ := pageAt_of_rotation turned
    obtain ⟨value?, inherited⟩ := (hasRotation_iff here.id).mp ⟨degrees, turned⟩
    exact (hasRotation_iff ((pageId_congr pageIds index').trans here.id)).mpr
      (settled.inheritedFrom_rotate inherited)

/-- Where rotations are found, they are found when a page that has one is settled. -/
theorem rotationsFound_settled (found : first.PageAt index page at' entries)
    (has : first.HasRotation index) (rotations : first.RotationsFound) :
    second.RotationsFound := by
  intro lower upper below above place place' own own' node object there there' stands placed turned
  have same := hasRotation_settled settled pageIds found has rotations
  obtain ⟨before, here⟩ := pageAt_settled settled pageIds there
  obtain ⟨before', here'⟩ := pageAt_settled settled pageIds there'
  cases (Store.getElem?_of_locateFrom placed).1.symm.trans there'.getElem?
  obtain ⟨_, placed, -⟩ := settled.located_dictionary placed
  exact (same lower).mpr (rotations _ _ _ _ _ _ _ _ _ _ here here' (settled.above_back stands)
    placed ((same upper).mp turned))

end

/-! ## Settling a page -/

section

variable (found : paged.PageAt index page at' entries)
  (same : between.SameDocument (paged.putDictionary at' changed))
  (parent : changed.find? "Parent" = entries.find? "Parent")
  (rotate : ∀ value, entries.find? "Rotate" = some value →
    ∃ value', changed.find? "Rotate" = some value')

include found same parent rotate

/-- A page whose rotation is replaced is settled. -/
theorem settled_putDictionary :
    paged.store.Settled between.store at' entries changed where
  decoders := same.decoders.symm
  here := found.getElem?
  there := by
    rw [same.objects, getElem?_putDictionary, if_pos rfl]
  others := by
    intro id different object present
    rw [same.objects, getElem?_putDictionary, if_neg (Ne.symm different)]
    exact present
  parent := parent
  rotate := rotate
  new := by
    intro id object there absent
    rw [same.objects, getElem?_putDictionary] at there
    split at there
    · next here =>
      subst here
      cases found.getElem?.symm.trans absent
    · cases there.symm.trans absent

/-- A page whose content is put behind a transform is settled, with a new stream. -/
theorem settled_prepended (t : Transform Float) :
    paged.store.Settled (between.prepended at' changed t).store at' entries
      (changed.set "Contents" (between.contentsBehind changed)) where
  decoders := same.decoders.symm
  here := found.getElem?
  there := by
    rw [getElem?_prepended, if_pos rfl]
  others := by
    intro id different object present
    have there : between.store.objects[id]? = some object := by
      rw [same.objects, getElem?_putDictionary, if_neg (Ne.symm different)]
      exact present
    have bounded := Store.le_maxId_of_getElem? there
    rw [getElem?_prepended, if_neg (Ne.symm different), if_neg (by omega)]
    exact there
  parent := (Dictionary.find?_set_of_ne (by decide)).trans parent
  rotate := by
    rw [Dictionary.find?_set_of_ne (by decide)]
    exact rotate
  new := by
    intro id object there absent
    rw [getElem?_prepended, same.objects, getElem?_putDictionary] at there
    split at there
    · next here =>
      subst here
      cases found.getElem?.symm.trans absent
    · split at there
      · cases there
        exact ⟨_, _, rfl⟩
      · cases there.symm.trans absent

end

end PagedStore

end PlacedText
