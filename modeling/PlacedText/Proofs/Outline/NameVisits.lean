import PlacedText.Proofs.Outline.NamePlaces

/-! # What is read of a graph of names

Reading a node and what its kids lead to meets no place twice (`Store.Visits.distinct`): a kid
within a node stands in no other one, and a kid that is referred to is noted before it is read. What
is noted is not met again, so whatever a node that is read refers to is met sooner or later
(`Store.visitsNodes`).
-/

namespace PlacedText

variable {α : Type} [Scalar α]

/-- A node of the tree of names that is met when the tree is read: its place, and the places on the
way down to it, the last one first. -/
structure NameVisit where
  place : NamePlace
  above : List NamePlace

namespace NameVisit

/-- Whether a node that is met is read, and not left out because it is too deep. -/
def IsRead (visit : NameVisit) : Prop := visit.above.length ≤ Store.maxNameTreeLevel

instance : DecidablePred IsRead := fun visit =>
  inferInstanceAs (Decidable (visit.above.length ≤ Store.maxNameTreeLevel))

end NameVisit

namespace Store

open NamePlace (top numbered)

variable {store : Store} {root node : Dictionary} {levels position : Nat}
  {place child : NamePlace} {above : List NamePlace} {visits visits' more : List NameVisit}
  {begun begun' : NamePlace → Prop} {walk between after : NameWalk α} {kid : Object}

/-- The definitions of the node at a place. -/
def definitionsAt (store : Store) (root : Dictionary) (place : NamePlace) :
    List (DestinationDefinition Nat α) :=
  store.ownDefinitions ((store.nodeAt? root place).getD [])

/-- The definitions of the nodes that are read. -/
def readDefinitions (store : Store) (root : Dictionary) (visits : List NameVisit) :
    List (DestinationDefinition Nat α) :=
  (visits.filter fun visit => visit.IsRead).flatMap fun visit =>
    store.definitionsAt root visit.place

theorem readDefinitions_append :
    (store.readDefinitions root (visits ++ more) : List (DestinationDefinition Nat α)) =
      store.readDefinitions root visits ++ store.readDefinitions root more := by
  unfold readDefinitions
  rw [List.filter_append, List.flatMap_append]

/-- Whether a node is among those that were met. -/
def Accounts (visits : List NameVisit) (after : NameWalk α) (place : NamePlace) : Prop :=
  place ∈ visits.map NameVisit.place ∨ ∃ id ∈ after.met, place = numbered id

omit [Scalar α] in
theorem Accounts.mono (accounts : Accounts visits between place) (more : visits ⊆ visits')
    (kept : ∀ id ∈ between.met, id ∈ after.met) : Accounts visits' after place :=
  accounts.imp (fun member => List.map_subset _ more member) fun ⟨id, member, same⟩ =>
    ⟨id, kept id member, same⟩

/-- Whether reading has met some nodes in addition to those met before: each once, on a path that
passes no node twice, and with all kids of those that are read. Where they have no number of their
own they stand where reading has begun. -/
structure Visits (store : Store) (root : Dictionary) (begun : NamePlace → Prop)
    (walk after : NameWalk α) (visits : List NameVisit) : Prop where
  definitions : after.definitions.toList =
    walk.definitions.toList ++ store.readDefinitions root visits
  kept : ∀ id ∈ walk.met, id ∈ after.met
  entered : ∀ id ∈ after.met, id ∉ walk.met → (store.nodeAt? root (numbered id)).isSome →
    numbered id ∈ visits.map NameVisit.place
  places : ∀ visit ∈ visits, begun visit.place ∨
    ∃ id, visit.place.anchor? = some id ∧ id ∉ walk.met ∧ id ∈ after.met
  distinct : (visits.map NameVisit.place).Nodup
  paths : ∀ visit ∈ visits, store.IsPath root (visit.place :: visit.above) ∧
    (visit.place :: visit.above).Nodup ∧ visit.above.length ≤ maxNameTreeLevel + 1
  closed : ∀ visit ∈ visits, visit.IsRead → ∀ child, store.IsKid root child visit.place →
    Accounts visits after child

namespace Visits

/-- Meeting what is no node adds none. -/
theorem none (definitions : after.definitions = walk.definitions)
    (kept : ∀ id ∈ walk.met, id ∈ after.met)
    (strays : ∀ id ∈ after.met, id ∉ walk.met → store.nodeAt? root (numbered id) = none) :
    store.Visits root begun walk after [] where
  definitions := by rw [definitions]; exact (List.append_nil _).symm
  kept := kept
  entered := by
    intro id known isNew found
    rw [strays id known isNew] at found
    cases found
  places := nofun
  distinct := .nil
  paths := nofun
  closed := nofun

theorem imp (read : store.Visits root begun walk after visits)
    (weaker : ∀ place, begun place → begun' place) : store.Visits root begun' walk after visits :=
  { read with places := fun visit member => (read.places visit member).imp_left (weaker _) }

/-- Reading goes on where none of what was read stands. -/
theorem append (first : store.Visits root begun walk between visits)
    (second : store.Visits root begun' between after more)
    (apart : ∀ place, begun place → ¬ begun' place)
    (known : ∀ place, begun place ∨ begun' place → ∀ id, place.anchor? = some id → id ∈ walk.met) :
    store.Visits root (fun place => begun place ∨ begun' place) walk after (visits ++ more) where
  definitions := by
    rw [second.definitions, first.definitions, readDefinitions_append, List.append_assoc]
  kept := fun id member => second.kept id (first.kept id member)
  entered := by
    intro id member isNew found
    rw [List.map_append, List.mem_append]
    by_cases before : id ∈ between.met
    · exact .inl (first.entered id before isNew found)
    · exact .inr (second.entered id member before found)
  places := by
    intro visit member
    rcases List.mem_append.mp member with member | member
    · rcases first.places visit member with here | ⟨id, anchor, isNew, there⟩
      · exact .inl (.inl here)
      · exact .inr ⟨id, anchor, isNew, second.kept id there⟩
    · rcases second.places visit member with here | ⟨id, anchor, isNew, there⟩
      · exact .inl (.inr here)
      · exact .inr ⟨id, anchor, fun before => isNew (first.kept id before), there⟩
  distinct := by
    rw [List.map_append, List.nodup_append]
    refine ⟨first.distinct, second.distinct, ?_⟩
    rintro _ isFirst _ isSecond rfl
    obtain ⟨visit, member, rfl⟩ := List.mem_map.mp isFirst
    obtain ⟨visit', member', same⟩ := List.mem_map.mp isSecond
    have later := second.places visit' member'
    rw [same] at later
    rcases first.places visit member with here | ⟨id, anchor, isNew, there⟩
    · rcases later with here' | ⟨id, anchor, isNew, -⟩
      · exact apart _ here here'
      · exact isNew (first.kept id (known _ (.inl here) id anchor))
    · rcases later with here' | ⟨id', anchor', isNew', -⟩
      · exact isNew (known _ (.inr here') id anchor)
      · rw [anchor] at anchor'
        cases anchor'
        exact isNew' there
  paths := fun visit member =>
    (List.mem_append.mp member).elim (first.paths visit) (second.paths visit)
  closed := by
    intro visit member isRead child isKid
    rcases List.mem_append.mp member with member | member
    · exact (first.closed visit member isRead child isKid).mono (List.subset_append_left ..)
        second.kept
    · exact (second.closed visit member isRead child isKid).mono (List.subset_append_right ..)
        fun _ known => known

/-- What is read of a kid after it was noted is read of it altogether. -/
theorem ofMeet (unmet : ∀ id, kid.reference? = some id → id ∉ walk.met)
    (read : store.Visits root (·.LiesIn (place.kid position kid)) (walk.meet kid) after visits)
    (first : place.kid position kid ∈ visits.map NameVisit.place) :
    store.Visits root (·.LiesIn (place.within position)) walk after visits where
  definitions := by rw [read.definitions, NameWalk.definitions_meet]
  kept := fun id member => read.kept id (NameWalk.mem_met_meet.mpr (.inr member))
  entered := by
    intro id member isNew found
    by_cases refers : kid.reference? = some id
    · unfold NamePlace.kid at first
      rwa [refers] at first
    · refine read.entered id member (fun known => ?_) found
      exact (NameWalk.mem_met_meet.mp known).elim refers isNew
  places := by
    intro visit member
    rcases read.places visit member with here | ⟨id, anchor, isNew, there⟩
    · unfold NamePlace.kid at here
      split at here
      · next id refers =>
        have noted := read.kept id (NameWalk.mem_met_meet.mpr (.inl refers))
        exact .inr ⟨id, here.1, unmet id refers, noted⟩
      · exact .inl here
    · refine .inr ⟨id, anchor, fun known => isNew ?_, there⟩
      exact NameWalk.mem_met_meet.mpr (.inr known)
  distinct := read.distinct
  paths := read.paths
  closed := read.closed

end Visits

/-! ## Reading -/

/-- Whether reading comes to a node along some path with so many levels left. -/
structure ComesTo (store : Store) (root : Dictionary) (levels : Nat) (place : NamePlace)
    (above : List NamePlace) (node : Dictionary) (walk : NameWalk α) : Prop where
  path : store.IsPath root (place :: above)
  simple : (place :: above).Nodup
  found : store.nodeAt? root place = some node
  depth : above.length + levels = maxNameTreeLevel + 1
  met : ∀ other ∈ place :: above, ∀ id, other.anchor? = some id → id ∈ walk.met

namespace ComesTo

omit [Scalar α] in
theorem mono (comes : store.ComesTo root levels place above node walk)
    (kept : ∀ id ∈ walk.met, id ∈ after.met) :
    store.ComesTo root levels place above node after :=
  { comes with met := fun other member id anchor => kept id (comes.met other member id anchor) }

omit [Scalar α] in
/-- Reading comes from a node to each of its kids that was not met before. -/
theorem toKid {inner : Dictionary} (comes : store.ComesTo root (levels + 1) place above node walk)
    (isKid : (store.nameKids node)[position]? = some kid)
    (unmet : ∀ id, kid.reference? = some id → id ∉ walk.met)
    (leads : (store.resolve kid).dictionary? = some inner) :
    store.ComesTo root levels (place.kid position kid) (place :: above) inner (walk.meet kid) where
  path := by
    refine comes.path.cons ⟨node, position, kid, comes.found, isKid, rfl, ?_⟩
    rw [nodeAt?_kid comes.found isKid, leads]
    rfl
  simple := by
    refine List.nodup_cons.mpr ⟨fun member => ?_, comes.simple⟩
    unfold NamePlace.kid at member
    split at member
    · next id refers => exact unmet id refers (comes.met _ member id rfl)
    · exact comes.path.within_notMem comes.simple member
  found := by rw [nodeAt?_kid comes.found isKid, leads]
  depth := by
    have depth := comes.depth
    rw [List.length_cons]
    omega
  met := by
    intro other member id anchor
    rw [NameWalk.mem_met_meet]
    rcases List.mem_cons.mp member with rfl | member
    · unfold NamePlace.kid at anchor
      split at anchor
      · next refers => exact .inl (refers.trans anchor)
      · exact .inr (comes.met place List.mem_cons_self id anchor)
    · exact .inr (comes.met other member id anchor)

end ComesTo

omit [Scalar α] in
theorem ComesTo.met_of_liesIn (comes : store.ComesTo root levels place above node walk)
    {other : NamePlace} (lies : other.LiesIn place) (id : Nat) (anchor : other.anchor? = some id) :
    id ∈ walk.met :=
  comes.met place List.mem_cons_self id (lies.1.symm.trans anchor)

/-- Whether every node that reading comes to with so many levels left is met with all that its kids
lead to. -/
def VisitsNodes (α : Type) [Scalar α] (store : Store) (root : Dictionary) (levels : Nat) : Prop :=
  ∀ ⦃place above node⦄ ⦃walk : NameWalk α⦄, store.ComesTo root levels place above node walk →
    ∃ visits, store.Visits root (·.LiesIn place) walk (store.readNameTree levels node walk) visits ∧
      place ∈ visits.map NameVisit.place

/-- A kid is read if it was not met before, and is accounted for. -/
theorem exists_visits_readKid (comes : store.ComesTo root (levels + 1) place above node walk)
    (isKid : (store.nameKids node)[position]? = some kid)
    (reads : store.VisitsNodes α root levels) :
    ∃ visits, store.Visits root (·.LiesIn (place.within position)) walk
        (store.readKid (store.readNameTree levels) walk kid) visits ∧
      (store.IsKid root (place.kid position kid) place →
        Accounts visits (store.readKid (store.readNameTree levels) walk kid)
          (place.kid position kid)) := by
  by_cases known : ∃ id, kid.reference? = some id ∧ id ∈ walk.met
  · obtain ⟨id, refers, known⟩ := known
    rw [readKid_of_met refers known]
    refine ⟨[], .none rfl (fun _ member => member) (fun _ member isNew => absurd member isNew), ?_⟩
    intro _
    refine .inr ⟨id, known, ?_⟩
    unfold NamePlace.kid
    rw [refers]
  · have unmet : ∀ id, kid.reference? = some id → id ∉ walk.met := fun id refers member =>
      known ⟨id, refers, member⟩
    have kept : ∀ id ∈ walk.met, id ∈ (walk.meet kid).met := fun id member =>
      NameWalk.mem_met_meet.mpr (.inr member)
    rw [readKid_of_unmet unmet]
    cases leads : (store.resolve kid).dictionary? with
    | none =>
      refine ⟨[], .none NameWalk.definitions_meet kept ?_, ?_⟩
      · intro id member isNew
        rcases NameWalk.mem_met_meet.mp member with refers | member
        · rw [← leads, Object.eq_of_reference? refers]
          rfl
        · exact absurd member isNew
      · rintro ⟨_, _, _, -, -, -, found⟩
        rw [nodeAt?_kid comes.found isKid, leads] at found
        cases found
    | some inner =>
      obtain ⟨visits, read, first⟩ := reads (comes.toKid isKid unmet leads)
      exact ⟨visits, read.ofMeet unmet first, fun _ => .inl first⟩

/-- The kids of a node from some position on are read. -/
theorem exists_visits_kids (reads : store.VisitsNodes α root levels)
    {kids : List Object} (rest : (store.nameKids node).drop position = kids)
    (comes : store.ComesTo root (levels + 1) place above node walk) :
    let after := kids.foldl (store.readKid (store.readNameTree levels)) walk
    ∃ visits,
      store.Visits root (fun inner => ∃ other ≥ position, inner.LiesIn (place.within other)) walk
        after visits ∧
      ∀ other ≥ position, ∀ kid, (store.nameKids node)[other]? = some kid →
        store.IsKid root (place.kid other kid) place →
          Accounts visits after (place.kid other kid) := by
  induction kids generalizing position walk with
  | nil =>
    refine ⟨[], .none rfl (fun _ member => member) (fun _ member isNew => absurd member isNew), ?_⟩
    intro other behind kid isKid
    have ends := List.drop_eq_nil_iff.mp rest
    rw [List.getElem?_eq_none (by omega)] at isKid
    cases isKid
  | cons kid kids ih =>
    have isKid : (store.nameKids node)[position]? = some kid := by
      rw [← Nat.add_zero position, ← List.getElem?_drop, rest]
      rfl
    have later : (store.nameKids node).drop (position + 1) = kids := by
      rw [← List.tail_drop, rest]
      rfl
    obtain ⟨visits, read, accounts⟩ := exists_visits_readKid comes isKid reads
    obtain ⟨more, readLater, accountsLater⟩ := ih later (comes.mono read.kept)
    -- What is behind the kid stands apart from it, unless it is referred to and was noted.
    have whole := read.append readLater
      (fun inner here ⟨other, behind, there⟩ => by
        have same := here.position_eq there
        omega)
      (fun inner stands id anchor => by
        rcases stands with here | ⟨other, -, there⟩
        · exact comes.met_of_liesIn here.of_within id anchor
        · exact comes.met_of_liesIn there.of_within id anchor)
    refine ⟨visits ++ more, whole.imp ?_, ?_⟩
    · rintro inner (here | ⟨other, behind, there⟩)
      · exact ⟨position, le_rfl, here⟩
      · exact ⟨other, by omega, there⟩
    · intro other behind otherKid isOther standsHere
      rcases Nat.eq_or_lt_of_le behind with rfl | behind
      · rw [isKid] at isOther
        cases isOther
        exact (accounts standsHere).mono (List.subset_append_left ..) readLater.kept
      · exact (accountsLater other behind otherKid isOther standsHere).mono
          (List.subset_append_right ..) fun _ known => known

omit [Scalar α] in
theorem ComesTo.isRead_iff (comes : store.ComesTo root levels place above node walk) :
    NameVisit.IsRead ⟨place, above⟩ ↔ levels ≠ 0 := by
  have depth := comes.depth
  change above.length ≤ maxNameTreeLevel ↔ levels ≠ 0
  omega

/-- A node that is too deep is met, but not read. -/
theorem ComesTo.visits_zero (comes : store.ComesTo root 0 place above node walk) :
    store.Visits root (·.LiesIn place) walk walk [⟨place, above⟩] := by
  have unread : ¬ NameVisit.IsRead ⟨place, above⟩ := fun isRead => comes.isRead_iff.mp isRead rfl
  exact {
    definitions := by simp [readDefinitions, unread]
    kept := fun _ known => known
    entered := fun id known isNew => absurd known isNew
    places := by
      rintro _ (_ | ⟨_, ⟨⟩⟩)
      exact .inl (.refl place)
    distinct := List.nodup_singleton _
    paths := by
      rintro _ (_ | ⟨_, ⟨⟩⟩)
      exact ⟨comes.path, comes.simple, Nat.le.intro comes.depth⟩
    closed := by
      rintro _ (_ | ⟨_, ⟨⟩⟩) isRead
      exact absurd isRead unread }

/-- A node is read before its kids. -/
theorem ComesTo.visits_succ (comes : store.ComesTo root (levels + 1) place above node walk)
    (read : store.Visits root (fun inner => ∃ other ≥ 0, inner.LiesIn (place.within other))
      (walk.append (store.ownDefinitions node)) after visits)
    (accounts : ∀ other ≥ 0, ∀ kid, (store.nameKids node)[other]? = some kid →
      store.IsKid root (place.kid other kid) place → Accounts visits after (place.kid other kid)) :
    store.Visits root (·.LiesIn place) walk after (⟨place, above⟩ :: visits) where
  definitions := by
    have isRead : NameVisit.IsRead ⟨place, above⟩ := comes.isRead_iff.mpr (Nat.succ_ne_zero levels)
    rw [read.definitions, NameWalk.toList_definitions_append, List.append_assoc]
    simp [readDefinitions, isRead, definitionsAt, comes.found]
  kept := read.kept
  entered := fun id known isNew found => List.mem_cons_of_mem _ (read.entered id known isNew found)
  places := by
    rintro visit (_ | ⟨_, member⟩)
    · exact .inl (.refl place)
    · exact (read.places visit member).imp_left fun ⟨_, _, lies⟩ => lies.of_within
  distinct := by
    refine List.nodup_cons.mpr ⟨fun member => ?_, read.distinct⟩
    obtain ⟨visit, member, same⟩ := List.mem_map.mp member
    rcases read.places visit member with ⟨other, -, lies⟩ | ⟨id, anchor, isNew, -⟩
    · exact NamePlace.not_liesIn_within (same ▸ lies)
    · exact isNew (comes.met_of_liesIn (same ▸ .refl place) id anchor)
  paths := by
    rintro visit (_ | ⟨_, member⟩)
    · exact ⟨comes.path, comes.simple, Nat.le.intro comes.depth⟩
    · exact read.paths visit member
  closed := by
    have whole {child : NamePlace} (known : Accounts visits after child) :=
      known.mono (List.subset_cons_self ⟨place, above⟩ visits) fun _ known => known
    rintro visit (_ | ⟨_, member⟩) isRead child isKid
    · have ⟨parent, other, kid, found, there, same, _⟩ := isKid
      subst same
      obtain rfl : node = parent := Option.some.inj (comes.found.symm.trans found)
      exact whole (accounts other (Nat.zero_le _) kid there isKid)
    · exact whole (read.closed visit member isRead child isKid)

/-- **A node is read with all that its kids lead to.** -/
theorem visitsNodes (levels : Nat) : store.VisitsNodes α root levels := by
  induction levels with
  | zero => exact fun _ _ _ _ comes => ⟨_, comes.visits_zero, List.mem_cons_self⟩
  | succ levels ih =>
    intro place above node walk comes
    have begun : store.ComesTo root (levels + 1) place above node
        (walk.append (store.ownDefinitions node)) := comes.mono fun _ known => known
    obtain ⟨visits, read, accounts⟩ := exists_visits_kids ih rfl begun
    rw [readNameTree_succ]
    exact ⟨_, comes.visits_succ read accounts, List.mem_cons_self⟩

end Store

end PlacedText
