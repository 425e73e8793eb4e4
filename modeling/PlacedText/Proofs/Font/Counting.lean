import PlacedText.Font.CMap
import Mathlib.Data.Finset.Card
import Mathlib.Data.Set.Card

/-! # Consecutive codes

Values of consecutive numbers (`Counting.counted`), and the codes that numbers below `2 ^ 32` are
(`Counting.coded`). Where numbers are checked before they become codes (`Counting.codedBelow`), a
number that is too large ends the counting. A table that is filled from a list of codes has the last
value that is listed for a code.
-/

namespace PlacedText.Counting

variable {β : Type}

/-! ## Numbers -/

/-- The values of consecutive numbers, some of which may have none. -/
def counted (first length : Nat) (value? : Nat → Option β) : List (Nat × β) :=
  (List.range length).filterMap fun offset =>
    (value? offset).map fun value => (first + offset, value)

/-- A number is found in a counted run just where it is in its interval, with the value at its
place. -/
theorem lookup_counted (first length : Nat) (value? : Nat → Option β) (number : Nat) :
    (counted first length value?).reverse.lookup number =
      if first ≤ number ∧ number < first + length then value? (number - first) else none := by
  induction length with
  | zero => simp [counted, show ¬(first ≤ number ∧ number < first) by omega]
  | succ length ih =>
    unfold counted at ih ⊢
    rw [List.range_succ, List.filterMap_append, List.reverse_append, List.lookup_append, ih]
    by_cases same : number = first + length
    · cases found : value? length <;> simp [same, found]
    · have within : first ≤ number ∧ number < first + (length + 1) ↔
          first ≤ number ∧ number < first + length := by omega
      cases found : value? length with
      | none => simp [found, within]
      | some value => simp [found, within, List.lookup_cons, beq_eq_false_iff_ne.mpr same]

/-- A counted run has no number beyond its end. -/
theorem lt_of_mem_counted {first length : Nat} {value? : Nat → Option β} {entry : Nat × β}
    (member : entry ∈ counted first length value?) : entry.1 < first + length := by
  obtain ⟨offset, place, listed⟩ := List.mem_filterMap.mp member
  obtain ⟨value, -, rfl⟩ := Option.map_eq_some_iff.mp listed
  have := List.mem_range.mp place
  dsimp only
  omega

/-! ## Places -/

/-- A list is read by its places, as far as these go. -/
theorem filterMap_zip_range {γ : Type} (values : List β) (length : Nat)
    (view : Nat × β → Option γ) :
    ((List.range length).zip values).filterMap view =
      (List.range length).filterMap fun place => values[place]?.bind fun value =>
        view (place, value) := by
  induction values generalizing length view with
  | nil => simp
  | cons value values ih =>
    cases length with
    | zero => rfl
    | succ length =>
      rw [List.range_succ_eq_map, List.zip_cons_cons, List.zip_map_left, List.filterMap_cons,
        List.filterMap_cons, List.filterMap_map, List.filterMap_map, ih]
      simp

theorem filterMap_zipIdx {γ : Type} (values : List β) (view : β × Nat → Option γ) :
    values.zipIdx.filterMap view =
      (List.range values.length).filterMap fun place => values[place]?.bind fun value =>
        view (value, place) := by
  rw [List.zipIdx_eq_zip_range', ← List.range_eq_range', ← List.zip_swap, List.filterMap_map,
    filterMap_zip_range]
  rfl

/-! ## Codes -/

/-- Values under the codes of their numbers. -/
def coded (entries : List (Nat × β)) : List (UInt32 × β) :=
  entries.map fun (number, value) => (number.toUInt32, value)

theorem toUInt32_add (first : UInt32) (offset : Nat) :
    (first.toNat + offset).toUInt32 = first + offset.toUInt32 := by
  simp [UInt32.ofNat_add]

theorem coded_counted (first : UInt32) (length : Nat) (value? : Nat → Option β) :
    coded (counted first.toNat length value?) = (List.range length).filterMap fun offset =>
      (value? offset).map fun value => (first + offset.toUInt32, value) := by
  simp only [coded, counted, List.map_filterMap, Option.map_map, Function.comp_def, toUInt32_add]

theorem coded_append (entries entries' : List (Nat × β)) :
    coded (entries ++ entries') = coded entries ++ coded entries' := List.map_append

/-- Numbers below `2 ^ 32` are told apart by their codes. -/
theorem lookup_coded {entries : List (Nat × β)} (bounded : ∀ entry ∈ entries, entry.1 < 2 ^ 32)
    (code : UInt32) : (coded entries).reverse.lookup code = entries.reverse.lookup code.toNat := by
  have bounded' : ∀ entry ∈ entries.reverse, entry.1 < 2 ^ 32 := by simpa using bounded
  unfold coded
  rw [← List.map_reverse]
  generalize entries.reverse = entries at bounded'
  induction entries with
  | nil => rfl
  | cons entry entries ih =>
    obtain ⟨here, later⟩ := List.forall_mem_cons.mp bounded'
    have same : code = entry.1.toUInt32 ↔ code.toNat = entry.1 := by
      rw [← UInt32.toNat_inj, Nat.toUInt32, UInt32.toNat_ofNat_of_lt' here]
    rw [List.map_cons, List.lookup_cons, List.lookup_cons, ih later]
    by_cases found : code.toNat = entry.1
    · rw [beq_iff_eq.mpr (same.mpr found), beq_iff_eq.mpr found]
    · rw [beq_eq_false_iff_ne.mpr (mt same.mp found), beq_eq_false_iff_ne.mpr found]

/-! ## Checked codes -/

/-- The code of a number that is below a bound. -/
def codeBelow (bound number : Nat) : Except FontAbort UInt32 :=
  if number < bound then .ok number.toUInt32 else .error .codeOverflow

/-- Values under the codes of their numbers, as long as these are below a bound. -/
def codedBelow (bound : Nat) (entries : List (Nat × β)) : Except FontAbort (List (UInt32 × β)) :=
  entries.mapM fun entry => (codeBelow bound entry.1).map fun code => (code, entry.2)

/-- The first entry is coded or ends the coding; those behind it are coded if it is. -/
theorem codedBelow_cons (bound : Nat) (entry : Nat × β) (entries : List (Nat × β)) :
    codedBelow bound (entry :: entries) =
      if entry.1 < bound then
        (codedBelow bound entries).map fun codes => (entry.1.toUInt32, entry.2) :: codes
      else .error .codeOverflow := by
  unfold codedBelow codeBelow
  rw [List.mapM_cons]
  by_cases within : entry.1 < bound
  · rw [if_pos within, if_pos within]
    cases entries.mapM (m := Except FontAbort) _ <;> rfl
  · rw [if_neg within, if_neg within]
    rfl

/-- Entries are coded in their order, and the first one that is too great ends the coding. -/
theorem codedBelow_append (bound : Nat) (entries entries' : List (Nat × β)) :
    codedBelow bound (entries ++ entries') =
      (codedBelow bound entries).bind fun codes =>
        (codedBelow bound entries').map fun codes' => codes ++ codes' := by
  unfold codedBelow
  rw [List.mapM_append]
  cases entries.mapM (m := Except FontAbort) _ with
  | error abort => rfl
  | ok codes => cases entries'.mapM (m := Except FontAbort) _ <;> rfl

section

variable {bound : Nat} {entries : List (Nat × β)}

/-- Entries below the bound are all coded. -/
theorem codedBelow_of_lt (bounded : ∀ entry ∈ entries, entry.1 < bound) :
    codedBelow bound entries = .ok (coded entries) := by
  induction entries with
  | nil => rfl
  | cons entry entries ih =>
    obtain ⟨here, later⟩ := List.forall_mem_cons.mp bounded
    rw [codedBelow_cons, if_pos here, ih later]
    rfl

/-- One entry that is not below the bound is enough to end the coding. -/
theorem codedBelow_of_le (beyond : ∃ entry ∈ entries, bound ≤ entry.1) :
    codedBelow bound entries = .error .codeOverflow := by
  induction entries with
  | nil => simp at beyond
  | cons entry entries ih =>
    rw [codedBelow_cons]
    by_cases within : entry.1 < bound
    · have later :=
        (List.or_exists_of_exists_mem_cons beyond).resolve_left (Nat.not_le_of_lt within)
      rw [if_pos within, ih later]
      rfl
    · rw [if_neg within]

/-- All numbers are codes, or one of them ends the counting. -/
theorem lt_or_exists_le (bound : Nat) (entries : List (Nat × β)) :
    (∀ entry ∈ entries, entry.1 < bound) ∨ ∃ entry ∈ entries, bound ≤ entry.1 := by
  by_cases bounded : ∀ entry ∈ entries, entry.1 < bound
  · exact .inl bounded
  · push Not at bounded
    exact .inr bounded

/-- Coding comes to codes just where every entry is below the bound, and these are its codes. -/
theorem codedBelow_eq_ok_iff {codes : List (UInt32 × β)} :
    codedBelow bound entries = .ok codes ↔
      (∀ entry ∈ entries, entry.1 < bound) ∧ codes = coded entries := by
  rcases lt_or_exists_le bound entries with bounded | beyond
  · simp only [codedBelow_of_lt bounded, Except.ok.injEq, eq_comm, and_iff_right bounded]
  · obtain ⟨entry, member, far⟩ := beyond
    have unbounded : ¬∀ entry ∈ entries, entry.1 < bound := fun bounded =>
      Nat.not_lt_of_le far (bounded entry member)
    simp only [codedBelow_of_le ⟨entry, member, far⟩, reduceCtorEq, unbounded, false_and]

/-- Coding ends in an overflow, and in nothing else, just where an entry is not below the bound. -/
theorem codedBelow_eq_error_iff {abort : FontAbort} :
    codedBelow bound entries = .error abort ↔
      abort = .codeOverflow ∧ ∃ entry ∈ entries, bound ≤ entry.1 := by
  rcases lt_or_exists_le bound entries with bounded | beyond
  · have within : ¬∃ entry ∈ entries, bound ≤ entry.1 := by
      rintro ⟨entry, member, far⟩
      exact Nat.not_lt_of_le far (bounded entry member)
    simp only [codedBelow_of_lt bounded, reduceCtorEq, within, and_false]
  · simp only [codedBelow_of_le beyond, Except.error.injEq, beyond, and_true, eq_comm]

end

/-! ## Tables -/

/-- The last value that is listed for a code stands in the table. -/
theorem getElem?_foldl_insert (entries : List (UInt32 × β)) (table : Std.HashMap UInt32 β)
    (code : UInt32) :
    (entries.foldl (fun table (code, value) => table.insert code value) table)[code]? =
      (entries.reverse.lookup code).or table[code]? := by
  induction entries generalizing table with
  | nil => simp
  | cons entry entries ih =>
    obtain ⟨listed, value⟩ := entry
    simp only [List.foldl_cons, ih, List.reverse_cons, List.lookup_append, Option.or_assoc,
      Std.HashMap.getElem?_insert]
    by_cases same : code = listed
    · simp [same]
    · simp [List.lookup_cons, beq_eq_false_iff_ne.mpr same, Ne.symm same]

/-- The table that has values under the codes of their numbers. -/
def table (entries : List (Nat × β)) : Std.HashMap UInt32 β :=
  (coded entries).foldl (fun table (code, value) => table.insert code value) ∅

/-- A table has the last value of a number that is a code. -/
theorem getElem?_table {entries : List (Nat × β)} (bounded : ∀ entry ∈ entries, entry.1 < 2 ^ 32)
    (code : UInt32) : (table entries)[code]? = entries.reverse.lookup code.toNat := by
  unfold table
  rw [getElem?_foldl_insert, lookup_coded bounded]
  simp

/-- A table has as many entries as there are codes with a value. -/
theorem size_eq_ncard (table : Std.HashMap UInt32 β) :
    table.size = {code : UInt32 | table[code]?.isSome}.ncard := by
  have keys : {code : UInt32 | table[code]?.isSome} = (table.keys.toFinset : Set UInt32) := by
    ext code
    simp
  rw [keys, Set.ncard_coe_finset, List.toFinset_card_of_nodup Std.HashMap.nodup_keys,
    Std.HashMap.length_keys]

end PlacedText.Counting
