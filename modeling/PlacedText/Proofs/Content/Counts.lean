import PlacedText.Content.Stream
import Mathlib.Algebra.GroupWithZero.Nat

/-! # How much a content stream can hold

What has been read is counted: the operators, their operands, and what is in these. A lexeme adds at
most one to the count (`Progress.count_take_le`) and takes at least one byte, so there is no more to
be read from a stream than there are bytes in it (`countOperators_le`).
-/

namespace PlacedText

namespace Operand

variable {ν : Type}

mutual

/-- An operand with all that is in it: the items of arrays, and the keys and the values of
dictionaries. -/
def count : Operand ν → Nat
  | array items => 1 + countItems items
  | dictionary entries => 1 + countEntries entries
  | number _ | name _ | string _ | bool _ | null => 1

def countItems : List (Operand ν) → Nat
  | [] => 0
  | item :: items => item.count + countItems items

def countEntries : List (String × Operand ν) → Nat
  | [] => 0
  | (_, value) :: entries => 1 + value.count + countEntries entries

end

theorem countItems_eq_sum (items : List (Operand ν)) :
    countItems items = (items.map count).sum := by
  induction items with
  | nil => rfl
  | cons item items ih => rw [countItems, ih, List.map_cons, List.sum_cons]

theorem countEntries_eq_sum (entries : List (String × Operand ν)) :
    countEntries entries = (entries.map fun entry => 1 + entry.2.count).sum := by
  induction entries with
  | nil => rfl
  | cons entry entries ih => rw [countEntries, ih, List.map_cons, List.sum_cons]

theorem countItems_reverse (items : List (Operand ν)) :
    countItems items.reverse = countItems items := by
  rw [countItems_eq_sum, countItems_eq_sum, List.map_reverse, List.sum_reverse]

theorem countEntries_reverse (entries : List (String × Operand ν)) :
    countEntries entries.reverse = countEntries entries := by
  rw [countEntries_eq_sum, countEntries_eq_sum, List.map_reverse, List.sum_reverse]

end Operand

/-- An operator with its operands and all that is in these. -/
def Operator.count {ν : Type} (operator : Operator ν) : Nat :=
  1 + Operand.countItems operator.operands

def countOperators {ν : Type} (operators : List (Operator ν)) : Nat :=
  (operators.map Operator.count).sum

namespace Content

open Operand

/-! ## What has been read -/

/-- An array or a dictionary with all that is in it so far. -/
def Frame.count : Frame → Nat
  | .array items => 1 + countItems items
  | .dictionary entries key? => 1 + countEntries entries + key?.toList.length

namespace Progress

variable {progress next : Progress} {operand : Operand Numeral}

/-- All that has been read and is kept so far. -/
def count (progress : Progress) : Nat :=
  (progress.frames.map Frame.count).sum + countItems progress.operands +
    countOperators progress.operators

/-- An operand adds what is in it, as an item of an array, as the key of an entry or as its value.
-/
theorem count_push_le (pushed : progress.push operand = .ok next) :
    next.count ≤ progress.count + operand.count := by
  obtain ⟨frames, operands, operators⟩ := progress
  cases frames with
  | nil =>
    cases pushed
    simp only [count, countItems]
    omega
  | cons frame outer =>
    cases frame with
    | array items =>
      cases pushed
      simp only [count, List.map_cons, List.sum_cons, Frame.count, countItems]
      omega
    | dictionary entries key? =>
      cases key? with
      | some key =>
        cases pushed
        simp only [count, List.map_cons, List.sum_cons, Frame.count, countEntries,
          Option.toList_some, Option.toList_none, List.length_singleton, List.length_nil]
        omega
      | none =>
        cases operand with
        | name key =>
          cases pushed
          simp only [count, List.map_cons, List.sum_cons, Frame.count, Operand.count,
            Option.toList_some, Option.toList_none, List.length_singleton, List.length_nil]
          omega
        | _ => cases pushed

/-- A finished array holds what was read for it. -/
theorem count_endArray_le {size : Nat} {after : Bytes}
    (ended : progress.endArray size after = .ok next) : next.count ≤ progress.count := by
  obtain ⟨frames, operands, operators⟩ := progress
  cases frames with
  | nil => cases ended
  | cons frame outer =>
    cases frame with
    | array items =>
      have pushed := count_push_le ended
      simp only [count, List.map_cons, List.sum_cons, Frame.count, Operand.count,
        countItems_reverse] at pushed ⊢
      omega
    | dictionary entries key? =>
      cases ended
      exact Nat.le_refl _

/-- A key that waits for its value is dropped. -/
theorem count_endDictionary_le {size : Nat} {after : Bytes}
    (ended : progress.endDictionary size after = .ok next) : next.count ≤ progress.count := by
  obtain ⟨frames, operands, operators⟩ := progress
  cases frames with
  | nil => cases ended
  | cons frame outer =>
    cases frame with
    | array items =>
      cases ended
      exact Nat.le_refl _
    | dictionary entries key? =>
      have pushed := count_push_le ended
      simp only [count, List.map_cons, List.sum_cons, Frame.count, Operand.count,
        countEntries_reverse] at pushed ⊢
      omega

/-- An operator takes the operands in front of it and adds one. -/
theorem count_keyword_le (progress : Progress) (name : String) :
    (progress.keyword name).count ≤ progress.count + 1 := by
  obtain ⟨frames, operands, operators⟩ := progress
  cases frames with
  | nil =>
    simp only [keyword, count, countOperators, List.map_cons, List.sum_cons, Operator.count,
      countItems, countItems_reverse]
    omega
  | cons frame outer => exact Nat.le_succ _

/-- A lexeme adds at most one to what has been read. -/
theorem count_take_le {lexeme : Lexeme} {size : Nat} {after : Bytes}
    (simple : ∀ operand, lexeme = .value operand → operand.count = 1)
    (taken : progress.take lexeme size after = .ok next) : next.count ≤ progress.count + 1 := by
  cases lexeme with
  | value operand =>
    have pushed := count_push_le taken
    rwa [simple operand rfl] at pushed
  | keyword name =>
    cases taken
    exact count_keyword_le progress name
  | arrayStart =>
    cases taken
    simp only [count, List.map_cons, List.sum_cons, Frame.count, countItems]
    omega
  | dictionaryStart =>
    cases taken
    simp only [count, List.map_cons, List.sum_cons, Frame.count, countEntries, Option.toList_none,
      List.length_nil]
    omega
  | arrayEnd => exact Nat.le_succ_of_le (count_endArray_le taken)
  | dictionaryEnd => exact Nat.le_succ_of_le (count_endDictionary_le taken)

/-- At the end no more is left than was read. -/
theorem count_finish_le {found : List (Operator Numeral)} (finished : progress.finish = .ok found) :
    countOperators found ≤ progress.count := by
  obtain ⟨frames, operands, operators⟩ := progress
  cases frames with
  | nil =>
    cases finished
    unfold countOperators
    rw [List.map_reverse, List.sum_reverse]
    exact Nat.le_add_left _ _
  | cons frame outer => cases frame <;> cases finished

end Progress

/-! ## Reading a stream -/

theorem count_of_word {text : String} {operand : Operand Numeral}
    (value : word text = .value operand) : operand.count = 1 := by
  unfold word at value
  repeat' split at value
  all_goals cases value
  all_goals rfl

/-- A lexeme is one that begins with a byte of the stream. -/
theorem exists_lexemeAt {size : Nat} {bytes rest : Bytes} {lexeme : Lexeme}
    (lexed : lexeme? size bytes = .ok (some (lexeme, rest))) :
    ∃ b later, lexemeAt size b later = .ok (lexeme, rest) := by
  unfold lexeme? at lexed
  split at lexed
  · cases lexed
  · next b later _ =>
    refine ⟨b, later, ?_⟩
    cases found : lexemeAt size b later with
    | error fault =>
      rw [found] at lexed
      cases lexed
    | ok pair =>
      rw [found] at lexed
      cases lexed
      rfl

/-- A lexeme that is an operand has nothing in it. -/
theorem count_of_lexeme? {size : Nat} {bytes rest : Bytes} {operand : Operand Numeral}
    (lexed : lexeme? size bytes = .ok (some (.value operand, rest))) : operand.count = 1 := by
  obtain ⟨b, later, found⟩ := exists_lexemeAt lexed
  simp only [lexemeAt] at found
  repeat' split at found
  all_goals simp only [Except.ok.injEq, Prod.mk.injEq, reduceCtorEq, false_and] at found
  all_goals obtain ⟨value, -⟩ := found
  all_goals first
    | exact count_of_word value
    | cases value; rfl

/-- Every lexeme takes a byte at least and adds one at most. By recursion on the reading. -/
theorem countOperators_le_of_readFrom {size : Nat} {progress : Progress} {bytes : Bytes}
    {found : List (Operator Numeral)} (read : readFrom size progress bytes = .ok found) :
    countOperators found ≤ progress.count + bytes.length := by
  fun_induction readFrom size progress bytes with
  | case1 => cases read
  | case2 progress bytes ended => exact Nat.le_add_right_of_le (Progress.count_finish_le read)
  | case3 progress bytes lexeme rest lexed shorter image skipped ih =>
    have bound := ih read
    have dropped : Progress.count { progress with operands := [] } ≤ progress.count := by
      simp only [Progress.count, countItems]
      omega
    omega
  | case4 => cases read
  | case5 progress bytes lexeme rest lexed shorter image next taken ih =>
    have bound := ih read
    have simple : ∀ operand, lexeme = .value operand → operand.count = 1 := by
      rintro operand rfl
      exact count_of_lexeme? lexed
    have added := Progress.count_take_le simple taken
    omega

/-- There are no more operators, operands and elements of them in a stream than there are bytes. -/
theorem countOperators_le {bytes : Bytes} {found : List (Operator Numeral)}
    (read : operators bytes = .ok found) : countOperators found ≤ bytes.length := by
  have bound := countOperators_le_of_readFrom read
  have nothing : Progress.start.count = 0 := rfl
  rwa [nothing, Nat.zero_add] at bound

end Content

end PlacedText
