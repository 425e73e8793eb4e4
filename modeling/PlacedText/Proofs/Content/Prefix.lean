import PlacedText.Content.Stream
import PlacedText.Proofs.Content.Words

/-! # Content behind other content

Reading a content stream that begins with words and blanks: what the words come to is put in front
of what the rest of the stream comes to. Where in a stream of which size it stands makes no
difference to what is read (`toOption_readFrom_behind`).
-/

namespace PlacedText.Content

variable {size size' : Nat} {progress next : Progress} {bytes rest word : Bytes} {b : UInt8}

/-! ## One lexeme -/

theorem lexeme?_blank (blank : isBlank b) : lexeme? size (b :: rest) = lexeme? size rest := by
  unfold lexeme?
  rw [show skip false (b :: rest) = skip false rest by simp [skip, blank]]

theorem toOption_map {ε α β : Type} (answer : Except ε α) (f : α → β) :
    (answer.map f).toOption = answer.toOption.map f := by
  cases answer <;> rfl

theorem eq_ok_of_toOption {ε α : Type} {answer : Except ε α} {found : α}
    (ended : answer.toOption = some found) : answer = .ok found := by
  cases answer with
  | error fault => cases ended
  | ok found' => rw [Option.some.inj ended]

theorem toOption_lexemeAt (size size' : Nat) (b : UInt8) (rest : Bytes) :
    (lexemeAt size b rest).toOption = (lexemeAt size' b rest).toOption := by
  unfold lexemeAt
  dsimp only
  repeat' split
  all_goals rfl

/-- The size of the stream shows in faults only. -/
theorem toOption_lexeme? (size size' : Nat) (bytes : Bytes) :
    (lexeme? size bytes).toOption = (lexeme? size' bytes).toOption := by
  unfold lexeme?
  cases skip false bytes with
  | nil => rfl
  | cons b rest =>
    dsimp only
    rw [toOption_map, toOption_map, toOption_lexemeAt size size']

/-! ## Reading on -/

/-- One step of reading: a lexeme is taken, an inline image is skipped, and a stream without another
lexeme is finished. -/
theorem readFrom_eq (size : Nat) (progress : Progress) (bytes : Bytes) :
    readFrom size progress bytes =
      match lexeme? size bytes with
      | .error fault => .error fault
      | .ok none => progress.finish
      | .ok (some (lexeme, rest)) =>
        if progress.beginsImage lexeme then
          readFrom size { progress with operands := [] } (skipImage rest)
        else
          match progress.take lexeme size rest with
          | .error fault => .error fault
          | .ok next => readFrom size next rest := by
  rw [readFrom]
  split
  · next fault failed => rw [failed]
  · next ended => rw [ended]
  · next lexeme rest step =>
    split
    · next image => simp [step, image]
    · next image =>
      split
      · next fault failed => simp [step, image, failed]
      · next following taken => simp [step, image, taken]

/-- What is read if there is no fault. -/
theorem toOption_readFrom_eq (size : Nat) (progress : Progress) (bytes : Bytes) :
    (readFrom size progress bytes).toOption = (lexeme? size bytes).toOption.bind fun
      | none => progress.finish.toOption
      | some (lexeme, rest) =>
        if progress.beginsImage lexeme then
          (readFrom size { progress with operands := [] } (skipImage rest)).toOption
        else
          (progress.take lexeme size rest).toOption.bind fun next =>
            (readFrom size next rest).toOption := by
  rw [readFrom_eq]
  cases lexeme? size bytes with
  | error fault => rfl
  | ok found? =>
    cases found? with
    | none => rfl
    | some found =>
      refine (apply_ite Except.toOption _ _ _).trans (ite_congr rfl (fun _ => rfl) fun _ => ?_)
      cases progress.take found.1 size found.2 <;> rfl

/-- Reading goes on with what one lexeme does. -/
theorem readFrom_take {lexeme : Lexeme} (lexed : lexeme? size bytes = .ok (some (lexeme, rest)))
    (noImage : progress.beginsImage lexeme = false)
    (taken : progress.take lexeme size rest = .ok next) :
    readFrom size progress bytes = readFrom size next rest := by
  rw [readFrom_eq, lexed]
  dsimp only
  rw [noImage, if_neg Bool.false_ne_true, taken]

theorem readFrom_value {operand : Operand Numeral}
    (lexed : lexeme? size bytes = .ok (some (.value operand, rest)))
    (pushed : progress.push operand = .ok next) :
    readFrom size progress bytes = readFrom size next rest :=
  readFrom_take lexed rfl pushed

theorem readFrom_blank (blank : isBlank b) :
    readFrom size progress (b :: rest) = readFrom size progress rest := by
  rw [readFrom_eq, readFrom_eq size progress rest, lexeme?_blank blank]

/-! ## Operators that were read before -/

namespace Progress

variable {before : List (Operator Numeral)}

/-- The same progress behind operators that were read before, given last first. -/
def behind (progress : Progress) (before : List (Operator Numeral)) : Progress :=
  { progress with operators := progress.operators ++ before }

/-- An operand is read alike whatever operators were read before. -/
theorem push_behind (progress : Progress) (before : List (Operator Numeral))
    (operand : Operand Numeral) :
    (progress.behind before).push operand = (progress.push operand).map (behind · before) := by
  obtain ⟨frames, operands, operators⟩ := progress
  unfold push behind
  cases frames with
  | nil => rfl
  | cons frame outer =>
    cases frame with
    | array items => rfl
    | dictionary entries key? =>
      cases key? with
      | some key => rfl
      | none => cases operand <;> rfl

/-- An array is ended alike whatever operators were read before, though its fault tells of the
position. -/
theorem endArray_behind : ((progress.behind before).endArray size' rest).toOption =
    (progress.endArray size rest).toOption.map (behind · before) := by
  obtain ⟨frames, operands, operators⟩ := progress
  cases frames with
  | nil => rfl
  | cons frame outer =>
    cases frame with
    | array items =>
      have pushed := push_behind ⟨outer, operands, operators⟩ before (.array items.reverse)
      exact (congrArg Except.toOption pushed).trans (toOption_map _ _)
    | dictionary entries key? => rfl

/-- A dictionary is ended alike whatever operators were read before. -/
theorem endDictionary_behind : ((progress.behind before).endDictionary size' rest).toOption =
    (progress.endDictionary size rest).toOption.map (behind · before) := by
  obtain ⟨frames, operands, operators⟩ := progress
  cases frames with
  | nil => rfl
  | cons frame outer =>
    cases frame with
    | dictionary entries key? =>
      have pushed := push_behind ⟨outer, operands, operators⟩ before (.dictionary entries.reverse)
      exact (congrArg Except.toOption pushed).trans (toOption_map _ _)
    | array items => rfl

theorem keyword_behind (name : String) :
    (progress.behind before).keyword name = (progress.keyword name).behind before := by
  obtain ⟨frames, operands, operators⟩ := progress
  cases frames with
  | nil => rfl
  | cons frame outer => rfl

/-- A lexeme is taken alike whatever operators were read before. -/
theorem take_behind (size : Nat) (lexeme : Lexeme) :
    ((progress.behind before).take lexeme size' rest).toOption =
      (progress.take lexeme size rest).toOption.map (behind · before) := by
  cases lexeme with
  | value operand =>
    exact (congrArg Except.toOption (push_behind progress before operand)).trans (toOption_map _ _)
  | keyword name => exact congrArg some (keyword_behind name)
  | arrayStart => rfl
  | arrayEnd => exact endArray_behind
  | dictionaryStart => rfl
  | dictionaryEnd => exact endDictionary_behind

theorem finish_behind :
    (progress.behind before).finish = progress.finish.map (before.reverse ++ ·) := by
  obtain ⟨frames, operands, operators⟩ := progress
  cases frames with
  | nil => exact congrArg Except.ok List.reverse_append
  | cons frame outer => cases frame <;> rfl

end Progress

/-- What is read behind other operators is put behind them, and it is a fault in front of any
operators or none. -/
theorem toOption_readFrom_behind (size size' : Nat) (progress : Progress)
    (before : List (Operator Numeral)) (bytes : Bytes) :
    (readFrom size' (progress.behind before) bytes).toOption =
      (readFrom size progress bytes).toOption.map (before.reverse ++ ·) := by
  fun_induction readFrom size progress bytes with
  | case1 progress bytes fault failed =>
    rw [toOption_readFrom_eq, toOption_lexeme? size' size, failed]
    rfl
  | case2 progress bytes ended =>
    rw [toOption_readFrom_eq, toOption_lexeme? size' size, ended]
    exact (congrArg Except.toOption Progress.finish_behind).trans (toOption_map _ _)
  | case3 progress bytes lexeme rest lexed _ image _ ih =>
    have begins : (progress.behind before).beginsImage lexeme = true := image
    rw [toOption_readFrom_eq, toOption_lexeme? size' size, lexed]
    exact (if_pos begins).trans ih
  | case4 progress bytes lexeme rest lexed _ image fault failed =>
    have plain : ¬(progress.behind before).beginsImage lexeme = true := image
    rw [toOption_readFrom_eq, toOption_lexeme? size' size, lexed]
    refine (if_neg plain).trans ?_
    rw [Progress.take_behind size, failed]
    rfl
  | case5 progress bytes lexeme rest lexed _ image next taken ih =>
    have plain : ¬(progress.behind before).beginsImage lexeme = true := image
    rw [toOption_readFrom_eq, toOption_lexeme? size' size, lexed]
    refine (if_neg plain).trans ?_
    rw [Progress.take_behind size, taken]
    exact ih

/-- Content behind operators reads as it does alone, behind them. -/
theorem toOption_readFrom_content (size : Nat) (before : List (Operator Numeral))
    (content : Bytes) : (readFrom size ⟨[], [], before⟩ content).toOption =
      (operators content).toOption.map (before.reverse ++ ·) :=
  toOption_readFrom_behind content.length size .start before content

/-! ## Words and blanks -/

/-- Whether an operator stands for nothing or for a transform: it is what a transform that is
written out comes to, whose entries need not be finite. -/
def isOfTransform (operator : Operator Numeral) : Prop :=
  operator.name = "NaN" ∨ operator.name = "inf" ∨ operator.name = "cm"

/-- Reading some bytes outside of arrays and dictionaries comes to operands and operators of a
transform, behind which the rest is read. -/
def ReadsTransform (word : Bytes) : Prop :=
  ∀ size operands before rest operators,
    readFrom size ⟨[], operands, before⟩ (word ++ rest) = .ok operators →
      ∃ operands' found, (∀ operator ∈ found, isOfTransform operator) ∧
        readFrom size ⟨[], operands', found ++ before⟩ rest = .ok operators

/-- Two parts of a transform in a row are one. -/
theorem ReadsTransform.append {word' : Bytes} (first : ReadsTransform word)
    (second : ReadsTransform word') : ReadsTransform (word ++ word') := by
  intro size operands before rest operators ended
  rw [List.append_assoc] at ended
  obtain ⟨between, found, named, reached⟩ := first _ _ _ _ _ ended
  obtain ⟨operands', found', named', reached'⟩ := second _ _ _ _ _ reached
  refine ⟨operands', found' ++ found, ?_, ?_⟩
  · intro operator member
    rcases List.mem_append.mp member with later | earlier
    · exact named' operator later
    · exact named operator earlier
  · rw [List.append_assoc]
    exact reached'

/-- A number is an operand. -/
theorem readsTransform_numeric (visible : word ≠ []) (numeric : ∀ c ∈ word, isNumeric c)
    (blank : isBlank b) : ReadsTransform (word ++ [b]) := by
  intro size operands before rest operators ended
  rw [List.append_assoc, List.singleton_append, readFrom_eq] at ended
  obtain ⟨first, later, rfl⟩ := List.exists_cons_of_ne_nil visible
  rw [lexeme?_numeric numeric (.of_isBlank blank)] at ended
  cases valued : numeral? (first :: later) with
  | none =>
    rw [valued] at ended
    cases ended
  | some numeral =>
    rw [valued] at ended
    refine ⟨.number numeral :: operands, [], by simp, ?_⟩
    rw [← readFrom_blank blank]
    exact ended

/-- A word that is no value ends an operator, and nothing is left of the operands. -/
theorem readFrom_keyword {first : UInt8} {later : Bytes} {operands : List (Operand Numeral)}
    {before : List (Operator Numeral)} {name : String}
    (regular : ∀ c ∈ first :: later, isRegular c) (noNumber : isNumeric first = false)
    (blank : isBlank b)
    (keyword : Content.word (Text.Utf8.decodeLossy (first :: later)) = .keyword name)
    (noImage : name ≠ "BI") :
    readFrom size ⟨[], operands, before⟩ (first :: later ++ b :: rest) =
      readFrom size ⟨[], [], ⟨name, operands.reverse⟩ :: before⟩ rest := by
  have lexed : lexeme? size (first :: later ++ b :: rest) =
      .ok (some (.keyword name, b :: rest)) := by
    rw [lexeme?_regular regular noNumber (.of_isBlank blank), keyword]
  have plain : Progress.beginsImage ⟨[], operands, before⟩ (.keyword name) = false := by
    simpa [Progress.beginsImage] using noImage
  rw [readFrom_take lexed plain rfl]
  exact readFrom_blank blank

/-- A keyword that may stand in a transform is read as an operator of it. -/
theorem readsTransform_keyword {first : UInt8} {later : Bytes} {name : String}
    (regular : ∀ c ∈ first :: later, isRegular c) (noNumber : isNumeric first = false)
    (blank : isBlank b)
    (keyword : Content.word (Text.Utf8.decodeLossy (first :: later)) = .keyword name)
    (noImage : name ≠ "BI") (transform : name = "NaN" ∨ name = "inf" ∨ name = "cm") :
    ReadsTransform (first :: later ++ [b]) := by
  intro size operands before rest operators ended
  rw [List.append_assoc, List.singleton_append,
    readFrom_keyword regular noNumber blank keyword noImage] at ended
  refine ⟨[], [⟨name, operands.reverse⟩], ?_, ended⟩
  intro operator member
  rw [List.mem_singleton.mp member]
  exact transform

/-- What stands for a negative infinity is no number and ends the reading in a fault. -/
theorem readsTransform_negative_infinity : ReadsTransform [0x2d, 0x69, 0x6e, 0x66, 0x20] := by
  intro size operands before rest operators ended
  rw [readFrom_eq] at ended
  cases ended

theorem readsTransform_nan : ReadsTransform (0x4e :: [0x61, 0x4e] ++ [0x20]) :=
  readsTransform_keyword (List.all_eq_true.mp (by decide)) (by decide) (by decide) rfl (by decide)
    (Or.inl rfl)

theorem readsTransform_infinity : ReadsTransform (0x69 :: [0x6e, 0x66] ++ [0x20]) :=
  readsTransform_keyword (List.all_eq_true.mp (by decide)) (by decide) (by decide) rfl (by decide)
    (Or.inr (Or.inl rfl))

/-- Behind what a transform is written with, the operator itself leaves no operands. -/
theorem ReadsTransform.concat (entries : ReadsTransform word)
    {operators : List (Operator Numeral)}
    (ended : readFrom size .start (word ++ (0x63 :: [0x6d] ++ 0x0a :: rest)) = .ok operators) :
    ∃ found, (∀ operator ∈ found, isOfTransform operator) ∧
      readFrom size ⟨[], [], found⟩ rest = .ok operators := by
  obtain ⟨operands, found, named, reached⟩ := entries _ _ _ _ _ ended
  rw [readFrom_keyword (List.all_eq_true.mp (by decide)) (by decide) (by decide)
    (show _ = Lexeme.keyword "cm" from rfl) (by decide), List.append_nil] at reached
  refine ⟨⟨"cm", operands.reverse⟩ :: found, ?_, reached⟩
  intro operator member
  rcases List.mem_cons.mp member with rfl | earlier
  · exact Or.inr (Or.inr rfl)
  · exact named operator earlier

/-- Blanks in front do not change what is read. -/
theorem readFrom_blanks {blanks : Bytes} (all : ∀ b ∈ blanks, isBlank b) :
    readFrom size progress (blanks ++ rest) = readFrom size progress rest := by
  induction blanks with
  | nil => rfl
  | cons b blanks ih =>
    rw [List.cons_append, readFrom_blank (all b (.head _))]
    exact ih fun b member => all b (.tail _ member)

/-- Whether content reads as other content does, with nothing in front but what a transform comes
to. -/
def ReadsBehindTransform (content content' : Bytes) : Prop :=
  ∀ found found', operators content = .ok found → operators content' = .ok found' →
    ∃ transform, (∀ operator ∈ transform, isOfTransform operator) ∧ found' = transform ++ found

/-- Content behind a transform and blanks reads as that content behind the transform. -/
theorem ReadsTransform.readsBehind (entries : ReadsTransform word) {blanks : Bytes}
    (all : ∀ b ∈ blanks, isBlank b) (content : Bytes) :
    ReadsBehindTransform content (word ++ (0x63 :: [0x6d] ++ 0x0a :: (blanks ++ content))) := by
  intro found found' read read'
  obtain ⟨before, named, reached⟩ := entries.concat read'
  rw [readFrom_blanks all] at reached
  have behind := toOption_readFrom_content
    (word ++ (0x63 :: [0x6d] ++ 0x0a :: (blanks ++ content))).length before content
  rw [reached, read] at behind
  refine ⟨before.reverse, fun operator member => named operator (List.mem_reverse.mp member), ?_⟩
  exact Option.some.inj behind

end PlacedText.Content
