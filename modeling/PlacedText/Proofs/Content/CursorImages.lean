import PlacedText.Proofs.Content.Cursor
import PlacedText.Proofs.Content.Words

/-! # Inline images by their positions

The markers of an inline image are looked for around a position, in front of it as well. The
position behind an image is the one at which what `skipImage` leaves of the stream begins
(`imageEnd_leads`).
-/

namespace PlacedText.Content.Cursor

variable {input bytes rest : Bytes} {pos : Nat} {b e i d : UInt8}

/-! ## Markers -/

/-- Whether the marker in front of the data of an image ends at a position. -/
def headerEndsAt (input : Bytes) (pos : Nat) : Except Stop Bool :=
  if 2 ≤ pos then do
    let before ← byteAt input (pos - 2)
    let i ← byteAt input (pos - 1)
    let d ← byteAt input pos
    let blank ← byteAt input (pos + 1)
    return decide (isBlank before ∧ i = ascii 'I' ∧ d = ascii 'D' ∧ isBlank blank)
  else return false

/-- The position of the data of an image; if it has none, the position of the last byte, or the one
given if that is behind it. -/
def headerEnd (input : Bytes) (pos : Nat) : Except Stop Nat :=
  if pos + 1 < input.length then do
    if ← headerEndsAt input pos then return pos + 2 else headerEnd input (pos + 1)
  else return pos
termination_by input.length - pos

/-- Whether the marker behind the data of an image begins at a position. -/
def dataEndsAt (input : Bytes) (pos : Nat) : Except Stop Bool := do
  let e ← byteAt input pos
  let i ← byteAt input (pos + 1)
  if 0 < pos then
    let before ← byteAt input (pos - 1)
    return decide (isBlank before ∧ e = ascii 'E' ∧ i = ascii 'I' ∧
      input[pos + 2]?.all fun b => isBlank b || isDelimiter b)
  else return false

/-- The position behind the data of an image. -/
def dataEnd (input : Bytes) (pos : Nat) : Except Stop Nat :=
  if pos + 1 < input.length then do
    if ← dataEndsAt input pos then return pos + 2 else dataEnd input (pos + 1)
  else return input.length
termination_by input.length - pos

/-- The position behind an image whose beginning has been read. -/
def imageEnd (input : Bytes) (pos : Nat) : Except Stop Nat := do
  dataEnd input (← headerEnd input pos)

/-! ## The markers in what follows a position -/

/-- Whether a header ends at a position is read off the four bytes around it, all of which are
there. -/
theorem headerEndsAt_eq {blank : UInt8} (there : input.drop pos = b :: i :: d :: blank :: rest) :
    headerEndsAt input (pos + 2) =
      .ok (decide (isBlank b ∧ i = ascii 'I' ∧ d = ascii 'D' ∧ isBlank blank)) := by
  have first := byteAt_of_drop_cons there
  have second : byteAt input (pos + 1) = .ok i := byteAt_of_drop there rfl
  have third : byteAt input (pos + 2) = .ok d := byteAt_of_drop there rfl
  have fourth : byteAt input (pos + 3) = .ok blank := byteAt_of_drop there rfl
  unfold headerEndsAt
  rw [if_pos (Nat.le_add_left 2 pos), Nat.add_sub_cancel, Nat.add_sub_assoc (by decide), first]
  dsimp only [bind, Except.bind]
  rw [second]
  dsimp only
  rw [third]
  dsimp only
  rw [fourth]
  rfl

/-- Whether the data end at a position is read off three bytes and the one behind them, if there is
one. -/
theorem dataEndsAt_eq (there : input.drop pos = b :: e :: i :: rest) :
    dataEndsAt input (pos + 1) = .ok (decide (isBlank b ∧ e = ascii 'E' ∧ i = ascii 'I' ∧
      rest.head?.all fun b => isBlank b || isDelimiter b)) := by
  have first := byteAt_of_drop_cons there
  have second : byteAt input (pos + 1) = .ok e := byteAt_of_drop there rfl
  have third : byteAt input (pos + 2) = .ok i := byteAt_of_drop there rfl
  have behind : input[pos + 3]? = rest.head? := by
    rw [← List.getElem?_drop, there, List.head?_eq_getElem?]
    rfl
  unfold dataEndsAt
  rw [second]
  dsimp only [bind, Except.bind]
  rw [third]
  dsimp only
  rw [if_pos pos.succ_pos, Nat.add_sub_cancel, first]
  dsimp only
  rw [behind]
  rfl

/-! ## The way to the markers -/

theorem drop_succ (there : input.drop pos = b :: rest) : input.drop (pos + 1) = rest := by
  rw [← List.drop_drop, there]
  rfl

theorem length_of_drop (there : input.drop pos = bytes) (within : pos ≤ input.length) :
    input.length = pos + bytes.length := by
  rw [← there, List.length_drop, Nat.add_sub_cancel' within]

theorem dataEnd_short (short : input.length ≤ pos + 1) : dataEnd input pos = .ok input.length := by
  rw [dataEnd, if_neg (Nat.not_lt.mpr short)]
  rfl

/-- Whether a position is found, not in front of another one, from which on the stream is the
bytes. -/
def LeadsTo (input : Bytes) (pos : Nat) (answer : Except Stop Nat) (bytes : Bytes) : Prop :=
  ∃ next, answer = .ok next ∧ (pos ≤ next ∧ next ≤ input.length) ∧ input.drop next = bytes

theorem LeadsTo.length (within : pos ≤ input.length) : LeadsTo input pos (.ok input.length) [] :=
  ⟨input.length, rfl, ⟨within, Nat.le_refl _⟩, List.drop_length⟩

theorem LeadsTo.of_le {mid : Nat} {answer : Except Stop Nat} (le : pos ≤ mid)
    (leads : LeadsTo input mid answer bytes) : LeadsTo input pos answer bytes := by
  obtain ⟨next, found, ⟨ahead, within⟩, split⟩ := leads
  exact ⟨next, found, ⟨Nat.le_trans le ahead, within⟩, split⟩

/-- The search for the end of the data by positions leads where the search on the list does. By
induction on the bytes. -/
theorem dataEnd_leads (there : input.drop pos = b :: bytes) (within : pos < input.length) :
    LeadsTo input (pos + 1) (dataEnd input (pos + 1)) (afterImageData (isBlank b) bytes) := by
  have lengths := length_of_drop there (Nat.le_of_lt within)
  induction bytes generalizing pos b with
  | nil =>
    rw [dataEnd_short (by rw [lengths]; exact Nat.le_succ _)]
    exact .length within
  | cons e rest ih =>
    cases rest with
    | nil =>
      rw [dataEnd_short (by rw [lengths]; exact Nat.le_refl _)]
      exact .length within
    | cons i rest =>
      simp only [List.length_cons] at lengths ih
      rw [dataEnd, if_pos (by omega), dataEndsAt_eq there]
      dsimp only [bind, Except.bind]
      by_cases marked : isBlank b ∧ e = ascii 'E' ∧ i = ascii 'I' ∧
        rest.head?.all fun b => isBlank b || isDelimiter b
      · rw [if_pos (decide_eq_true marked), afterImageData, if_pos marked]
        exact ⟨pos + 3, rfl, ⟨by omega, by omega⟩, drop_succ (drop_succ (drop_succ there))⟩
      · rw [if_neg (by simpa using marked), afterImageData, if_neg marked]
        exact (ih (drop_succ there) (by omega) (by omega)).of_le (Nat.le_succ _)

theorem imageEnd_short (short : input.length ≤ pos + 1) :
    imageEnd input pos = .ok input.length := by
  unfold imageEnd
  rw [headerEnd, if_neg (Nat.not_lt.mpr short)]
  exact dataEnd_short short

theorem imageEnd_unmarked (inside : pos + 1 < input.length)
    (unmarked : headerEndsAt input pos = .ok false) :
    imageEnd input pos = imageEnd input (pos + 1) := by
  unfold imageEnd
  rw [headerEnd, if_pos inside, unmarked]
  rfl

/-- From the third byte of the rest on, the markers are found that are in the rest. A marker is four
bytes long with its blanks and is looked for around its third byte, while the reader of lists takes
four bytes at a time. -/
theorem imageEnd_leads_from (there : input.drop pos = bytes) (within : pos ≤ input.length) :
    LeadsTo input pos (imageEnd input (pos + 2)) (skipImage bytes) := by
  have lengths := length_of_drop there within
  -- The marker with its blanks is four bytes long and is looked for around its third one.
  unfold skipImage
  fun_induction afterImageHeader? bytes generalizing pos with
  | case1 b i d blank data marked =>
    simp only [List.length_cons] at lengths
    obtain ⟨before, first, second, behind⟩ := marked
    have data := dataEnd_leads (drop_succ (drop_succ (drop_succ there))) (by omega)
    rw [behind] at data
    unfold imageEnd
    rw [headerEnd, if_pos (by omega), headerEndsAt_eq there,
      decide_eq_true ⟨before, first, second, behind⟩]
    exact data.of_le (by omega)
  | case2 b i d blank data unmarked ih =>
    simp only [List.length_cons] at lengths ih
    have unmarked' : headerEndsAt input (pos + 2) = .ok false := by
      rw [headerEndsAt_eq there, decide_eq_false unmarked]
    rw [imageEnd_unmarked (by omega) unmarked']
    exact (ih (drop_succ there) (by omega) (by omega)).of_le (Nat.le_succ _)
  | case3 b rest few =>
    have short : rest.length ≤ 2 := by
      rcases rest with _ | ⟨i, _ | ⟨d, _ | ⟨blank, data⟩⟩⟩
      · exact Nat.zero_le 2
      · exact Nat.le_succ 1
      · exact Nat.le_refl 2
      · exact absurd rfl (few i d blank data)
    rw [List.length_cons] at lengths
    rw [imageEnd_short (by omega)]
    exact .length within
  | case4 =>
    rw [List.length_nil] at lengths
    rw [imageEnd_short (by omega)]
    exact .length within

theorem byteAt_of_lt (inside : pos < input.length) : byteAt input pos = .ok input[pos] :=
  byteAt_of_getElem? (List.getElem?_eq_getElem inside)

/-- A marker that ends at a position has its letters in front of it and there. -/
theorem headerEndsAt_eq_false (inside : pos + 1 < input.length)
    (unmarked : ∀ before i d blank, 0 < pos → input[pos - 1]? = some i → input[pos]? = some d →
      ¬(isBlank before ∧ i = ascii 'I' ∧ d = ascii 'D' ∧ isBlank blank)) :
    headerEndsAt input pos = .ok false := by
  unfold headerEndsAt
  split
  · next enough =>
    rw [byteAt_of_lt (by omega), byteAt_of_lt (by omega), byteAt_of_lt (by omega),
      byteAt_of_lt (by omega)]
    dsimp only [bind, Except.bind]
    rw [decide_eq_false (unmarked _ _ _ _ (by omega) (List.getElem?_eq_getElem _)
      (List.getElem?_eq_getElem _))]
    rfl
  · rfl

/-- Behind a word the position goes on to where the stream goes on behind the image. The search by
positions begins two bytes earlier than that on the rest; a marker there would have a letter where
the word ends. -/
theorem imageEnd_leads (ends : EndsWord (input.drop pos)) (within : pos ≤ input.length) :
    LeadsTo input pos (imageEnd input pos) (skipImage (input.drop pos)) := by
  have leads := imageEnd_leads_from rfl within
  -- A marker that ended here or at the next byte would have a letter where the word has ended.
  have noLetter (c : UInt8) (letter : isRegular c) (there : input[pos]? = some c) : False := by
    have irregular := ends c (List.head?_drop.trans there)
    rw [letter] at irregular
    cases irregular
  by_cases next : pos + 1 < input.length
  · have unmarked : headerEndsAt input pos = .ok false := by
      refine headerEndsAt_eq_false next fun before i d blank _ _ there marked => ?_
      rw [marked.2.2.1] at there
      exact noLetter _ rfl there
    rw [imageEnd_unmarked next unmarked]
    by_cases next' : pos + 2 < input.length
    · have unmarked' : headerEndsAt input (pos + 1) = .ok false := by
        refine headerEndsAt_eq_false next' fun before i d blank _ there _ marked => ?_
        rw [marked.2.1] at there
        exact noLetter _ rfl there
      rw [imageEnd_unmarked next' unmarked']
      exact leads
    · rw [imageEnd_short (by omega)] at leads ⊢
      exact leads
  · rw [imageEnd_short (by omega)] at leads ⊢
    exact leads

end PlacedText.Content.Cursor
