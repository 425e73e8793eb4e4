import PlacedText.Content.Stream

/-! # A position in a content stream

A content stream can be read with a position in it that moves on. Every index that is used then is
looked up, and one that is outside is a `Stop`. A run of bytes ends at a position inside
(`runEnd_le`), and where blanks and comments have been skipped something else stands or nothing
(`skip_blanks`, `skipBlanks_ends`).
-/

namespace PlacedText.Content

/-- Why a reader by positions does not come to its end. -/
inductive Stop where
  | fault (fault : SyntaxFault)
  /-- It used an index where nothing stands. -/
  | outOfBounds (index : Nat)
  /-- It was to take more steps than it may. -/
  | outOfSteps

namespace Cursor

variable {input rest : Bytes} {pos : Nat} {b : UInt8} {test : UInt8 → Bool}

/-! ## Indices -/

def byteAt (input : Bytes) (index : Nat) : Except Stop UInt8 :=
  match input[index]? with
  | some b => .ok b
  | none => .error (.outOfBounds index)

/-- The bytes from one position up to another. -/
def slice (input : Bytes) (start stop : Nat) : Except Stop Bytes :=
  if start ≤ stop ∧ stop ≤ input.length then .ok ((input.take stop).drop start)
  else .error (.outOfBounds stop)

theorem byteAt_of_getElem? (there : input[pos]? = some b) : byteAt input pos = .ok b := by
  unfold byteAt
  rw [there]

/-- The bytes of what begins at a position are those from there on. -/
theorem byteAt_of_drop {offset : Nat} (split : input.drop pos = rest)
    (there : rest[offset]? = some b) : byteAt input (pos + offset) = .ok b := by
  subst split
  rw [List.getElem?_drop] at there
  exact byteAt_of_getElem? there

theorem byteAt_of_drop_cons (there : input.drop pos = b :: rest) : byteAt input pos = .ok b := by
  have first : byteAt input (pos + 0) = .ok b := byteAt_of_drop there rfl
  rwa [Nat.add_zero] at first

/-- What stands between a position and the rest is the front of what begins there. -/
theorem slice_of_drop {front : Bytes} (split : input.drop pos = front ++ rest)
    (within : pos ≤ input.length) : slice input pos (pos + front.length) = .ok front := by
  have lengths := congrArg List.length split
  rw [List.length_drop, List.length_append] at lengths
  unfold slice
  rw [if_pos (by omega), List.drop_take, split, Nat.add_sub_cancel_left, List.take_left]

theorem slice_zero (front rest : Bytes) : slice (front ++ rest) 0 front.length = .ok front := by
  have cut : slice (front ++ rest) 0 (0 + front.length) = .ok front :=
    slice_of_drop List.drop_zero (Nat.zero_le _)
  rwa [Nat.zero_add] at cut

theorem drop_of_getElem? (there : input[pos]? = some b) :
    input.drop pos = b :: input.drop (pos + 1) := by
  obtain ⟨inside, rfl⟩ := List.getElem?_eq_some_iff.mp there
  exact List.drop_eq_getElem_cons inside

theorem lt_length_of_getElem? (there : input[pos]? = some b) : pos < input.length :=
  (List.getElem?_eq_some_iff.mp there).1

/-! ## Runs of bytes -/

/-- The end of the run of bytes that pass a test. -/
def runEnd (input : Bytes) (test : UInt8 → Bool) (pos : Nat) : Nat :=
  if inside : pos < input.length then
    if test input[pos] then runEnd input test (pos + 1) else pos
  else pos
termination_by input.length - pos

/-- A run ends behind as many bytes as pass its test one after the other. -/
theorem runEnd_eq (input : Bytes) (test : UInt8 → Bool) (pos : Nat) :
    runEnd input test pos = pos + ((input.drop pos).takeWhile test).length := by
  fun_induction runEnd input test pos with
  | case1 pos inside passes ih =>
    rw [ih, List.drop_eq_getElem_cons inside, List.takeWhile_cons_of_pos passes, List.length_cons]
    omega
  | case2 pos inside fails =>
    rw [List.drop_eq_getElem_cons inside, List.takeWhile_cons_of_neg fails]
    rfl
  | case3 pos outside => rw [List.drop_eq_nil_of_le (Nat.le_of_not_lt outside)]; rfl

/-- What is behind a run is what is left when the bytes that pass are dropped. -/
theorem drop_runEnd (input : Bytes) (test : UInt8 → Bool) (pos : Nat) :
    input.drop (runEnd input test pos) = (input.drop pos).dropWhile test := by
  have whole : (input.drop pos).takeWhile test ++ (input.drop pos).dropWhile test =
      input.drop pos := List.takeWhile_append_dropWhile
  have behind := congrArg (List.drop ((input.drop pos).takeWhile test).length) whole
  rw [List.drop_left, List.drop_drop] at behind
  rw [runEnd_eq, behind]

theorem slice_runEnd (within : pos ≤ input.length) :
    slice input pos (runEnd input test pos) = .ok ((input.drop pos).takeWhile test) := by
  rw [runEnd_eq]
  exact slice_of_drop List.takeWhile_append_dropWhile.symm within

theorem lt_runEnd (test : UInt8 → Bool) (inside : pos < input.length) (passes : test input[pos]) :
    pos < runEnd input test pos := by
  rw [runEnd_eq, List.drop_eq_getElem_cons inside, List.takeWhile_cons_of_pos passes,
    List.length_cons]
  omega

theorem runEnd_le (test : UInt8 → Bool) (within : pos ≤ input.length) :
    runEnd input test pos ≤ input.length := by
  have bound := (List.takeWhile_sublist test (l := input.drop pos)).length_le
  rw [List.length_drop] at bound
  rw [runEnd_eq]
  omega

theorem runEnd_eq_sub (test : UInt8 → Bool) (within : pos ≤ input.length) :
    runEnd input test pos = input.length - ((input.drop pos).dropWhile test).length := by
  have bound := runEnd_le test within
  rw [← drop_runEnd, List.length_drop]
  omega

/-! ## Blanks and comments -/

/-- The first position at which there is neither a blank nor a comment. -/
def skipBlanks (input : Bytes) (pos : Nat) : Nat :=
  if inside : pos < input.length then
    if isBlank input[pos] then skipBlanks input (pos + 1)
    else if comment : input[pos] = ascii '%' then
      have := lt_runEnd (fun b => !isLineEnd b) inside (by rw [comment]; rfl)
      skipBlanks input (runEnd input (fun b => !isLineEnd b) pos)
    else pos
  else pos
termination_by input.length - pos

theorem isBlank_of_isLineEnd (ends : isLineEnd b) : isBlank b := by
  unfold isLineEnd at ends
  unfold isBlank
  grind

/-- A comment goes up to the end of its line. -/
theorem skip_comment (bytes : Bytes) :
    skip true bytes = skip false (bytes.dropWhile fun b => !isLineEnd b) := by
  induction bytes with
  | nil => rfl
  | cons b rest ih =>
    cases ends : isLineEnd b with
    | false =>
      rw [List.dropWhile_cons_of_pos (by rw [ends]; rfl), ← ih]
      simp only [skip, if_true, ends, Bool.not_false]
    | true =>
      rw [List.dropWhile_cons_of_neg (by rw [ends]; exact Bool.false_ne_true)]
      simp only [skip, if_true, ends, Bool.not_true, Bool.false_eq_true, if_false,
        isBlank_of_isLineEnd ends]

/-- Blanks and comments that the position moves over are skipped by the reader of lists as well. -/
theorem skip_blanks (input : Bytes) (pos : Nat) :
    skip false (input.drop (skipBlanks input pos)) = skip false (input.drop pos) := by
  fun_induction skipBlanks input pos with
  | case1 pos inside blank ih =>
    rw [ih, List.drop_eq_getElem_cons inside]
    simp only [skip, Bool.false_eq_true, if_false, blank, if_true]
  | case2 pos inside noBlank comment longer ih =>
    rw [ih, drop_runEnd, ← skip_comment, List.drop_eq_getElem_cons inside]
    simp only [skip, if_true, comment, Bool.false_eq_true, if_false]
    rfl
  | case3 => rfl
  | case4 => rfl

theorem le_skipBlanks (input : Bytes) (pos : Nat) : pos ≤ skipBlanks input pos := by
  fun_induction skipBlanks input pos with
  | case1 pos inside blank ih => omega
  | case2 pos inside noBlank comment longer ih => omega
  | case3 | case4 => exact Nat.le_refl _

theorem skipBlanks_le (within : pos ≤ input.length) : skipBlanks input pos ≤ input.length := by
  fun_induction skipBlanks input pos with
  | case1 pos inside blank ih => exact ih inside
  | case2 pos inside noBlank comment longer ih => exact ih (runEnd_le _ within)
  | case3 | case4 => exact within

/-- Where blanks and comments end, there is something else or nothing. -/
theorem skipBlanks_ends (there : input[skipBlanks input pos]? = some b) :
    isBlank b = false ∧ b ≠ ascii '%' := by
  fun_induction skipBlanks input pos with
  | case1 pos inside blank ih => exact ih there
  | case2 pos inside noBlank comment longer ih => exact ih there
  | case3 pos inside noBlank noComment =>
    rw [List.getElem?_eq_getElem inside] at there
    cases there
    exact ⟨by simpa using noBlank, noComment⟩
  | case4 pos outside => exact absurd (lt_length_of_getElem? there) outside

end Cursor

end PlacedText.Content
