import PlacedText.Proofs.Content.Prefix

/-! # Inline images

An inline image between two pieces of content is skipped and nothing else: the content reads as its
pieces do (`operators_image`). The piece in front of the image ends in a line feed, so that reading
it comes to the same lexemes when something follows it (`readFrom_lineFeed`), and the two markers
of the image are the first ones that the scans for them come to.
-/

namespace PlacedText.Content

variable {size size' : Nat} {progress next : Progress} {bytes rest more : Bytes} {b : UInt8}

/-! ## Lexemes in front of a line feed -/

/-- A single `>` is skipped. -/
theorem skip_eq_cons {inComment : Bool} (skipped : skip inComment bytes = b :: rest)
    (bracket : b = ascii '>') : rest ≠ [] := by
  induction bytes generalizing inComment with
  | nil => cases skipped
  | cons first bytes ih =>
    unfold skip at skipped
    repeat' split at skipped
    · exact ih skipped
    · exact ih skipped
    · exact ih skipped
    · exact ih skipped
    · next marked =>
      rintro rfl
      cases skipped
      simp [bracket] at marked

/-- A line feed ends a comment, so what is skipped in front of it does not depend on what is behind
it. -/
theorem skip_lineFeed (inComment : Bool) (bytes more : Bytes) :
    skip inComment (bytes ++ 0x0a :: more) =
      match skip inComment bytes with
      | [] => skip false more
      | b :: rest => b :: rest ++ 0x0a :: more := by
  induction bytes generalizing inComment with
  | nil => cases inComment <;> rfl
  | cons b bytes ih =>
    -- A single `>` is dropped, and a line feed makes no pair of one.
    have single : (bytes ++ 0x0a :: more).head? ≠ some (ascii '>') ↔
        bytes.head? ≠ some (ascii '>') := by
      cases bytes with
      | nil => simp [ascii]
      | cons => rfl
    simp only [List.cons_append, skip, single, ih]
    repeat' split
    all_goals simp_all

/-- Whether the contents of a string that are found are also found with more behind them. -/
def FoundBefore (more : Bytes) (found? found'? : Option (Bytes × Bytes)) : Prop :=
  ∀ contents after, found? = some (contents, after) → found'? = some (contents, after ++ more)

theorem FoundBefore.ended {contents : Bytes} :
    FoundBefore more (some (contents, rest)) (some (contents, rest ++ more)) := by
  intro contents after found
  cases found
  rfl

/-- A change of the contents leaves what is behind them. -/
theorem FoundBefore.map {found? found'? : Option (Bytes × Bytes)}
    (found : FoundBefore more found? found'?) (change : Bytes → Bytes) :
    FoundBefore more (found?.map fun (contents, after) => (change contents, after))
      (found'?.map fun (contents, after) => (change contents, after)) := by
  intro contents after changed
  obtain ⟨⟨inner, later⟩, step, same⟩ := Option.map_eq_some_iff.mp changed
  cases same
  rw [found inner _ step]
  rfl

/-- A string that ends is found with more behind it. By recursion on the states of the reader. -/
theorem stringRest?_append (state : StringState) (depth : Nat) (bytes more : Bytes) :
    FoundBefore more (stringRest? state depth bytes) (stringRest? state depth (bytes ++ more)) := by
  induction bytes generalizing state depth with
  | nil =>
    intro contents after found
    simp [stringRest?] at found
  | cons b rest ih =>
    have kept (before : Bytes) (next : StringState) (depth : Nat) :=
      (ih next depth).map (before ++ ·)
    simp only [stringRest?, List.cons_append]
    repeat' split
    all_goals first
      | exact ih _ _
      | exact kept _ _ _
      | exact kept [_] _ _
      | exact kept [_, b] _ _
      | exact .ended

/-- A string in hexadecimal that ends is found with more behind it. -/
theorem hexStringRest?_append (high? : Option UInt8) (bytes more : Bytes) :
    FoundBefore more (hexStringRest? high? bytes) (hexStringRest? high? (bytes ++ more)) := by
  induction bytes generalizing high? with
  | nil =>
    intro contents after found
    simp [hexStringRest?] at found
  | cons b rest ih =>
    simp only [hexStringRest?, List.cons_append]
    repeat' split
    all_goals first
      | exact ih _
      | exact (ih _).map _
      | exact .ended

theorem takeWhile_append_cons {test : UInt8 → Bool} (stops : test b = false) (bytes more : Bytes) :
    (bytes ++ b :: more).takeWhile test = bytes.takeWhile test := by
  induction bytes with
  | nil => simp [stops]
  | cons first bytes ih => cases go : test first <;> simp [go, ih]

theorem dropWhile_append_cons {test : UInt8 → Bool} (stops : test b = false) (bytes more : Bytes) :
    (bytes ++ b :: more).dropWhile test = bytes.dropWhile test ++ b :: more := by
  induction bytes with
  | nil => simp [stops]
  | cons first bytes ih => cases go : test first <;> simp [go, ih]

/-- A lexeme in front of a line feed does not go on behind it, unless it is half a pair: a line feed
is neither regular nor numeric nor a bracket, and a string that ends does so in front of it. -/
theorem lexemeAt_append {lexeme : Lexeme} {after : Bytes}
    (found : lexemeAt size b rest = .ok (lexeme, after))
    (paired : b = ascii '>' → rest ≠ []) (size' : Nat) (more : Bytes) :
    lexemeAt size' b (rest ++ 0x0a :: more) = .ok (lexeme, after ++ 0x0a :: more) := by
  have pair : (rest ++ 0x0a :: more).head? = some (ascii '<') ↔ rest.head? = some (ascii '<') := by
    cases rest with
    | nil => simp [ascii]
    | cons => rfl
  have second (visible : rest ≠ []) :
      (rest ++ 0x0a :: more).drop 1 = rest.drop 1 ++ 0x0a :: more := by
    cases rest with
    | nil => exact (visible rfl).elim
    | cons => rfl
  revert found
  simp only [lexemeAt, pair, takeWhile_append_cons (show isRegular 0x0a = false from rfl),
    dropWhile_append_cons (show isRegular 0x0a = false from rfl),
    takeWhile_append_cons (show isNumeric 0x0a = false from rfl),
    dropWhile_append_cons (show isNumeric 0x0a = false from rfl)]
  split
  · intro found
    split at found
    · next contents later string =>
      cases found
      rw [stringRest?_append _ _ _ _ _ _ string]
    · cases found
  · split
    · next opens =>
      intro found
      cases found
      have visible : rest ≠ [] := by
        rintro rfl
        exact absurd opens.2 (by simp)
      rw [second visible]
    · split
      · intro found
        split at found
        · next contents later string =>
          cases found
          rw [hexStringRest?_append _ _ _ _ _ string]
        · cases found
      · split
        · next closes =>
          intro found
          cases found
          rw [second (paired closes)]
        · repeat' split
          all_goals intro found
          all_goals cases found
          all_goals rfl

/-- A lexeme in front of a line feed is found with more behind it. -/
theorem lexeme?_append {lexeme : Lexeme} {after : Bytes}
    (found : lexeme? size bytes = .ok (some (lexeme, after))) (size' : Nat) (more : Bytes) :
    lexeme? size' (bytes ++ 0x0a :: more) = .ok (some (lexeme, after ++ 0x0a :: more)) := by
  unfold lexeme? at found ⊢
  rw [skip_lineFeed]
  cases skipped : skip false bytes with
  | nil => simp [skipped] at found
  | cons b rest =>
    rw [skipped] at found
    cases step : lexemeAt size b rest with
    | error fault => simp [step, Except.map] at found
    | ok next =>
      obtain ⟨next, later⟩ := next
      simp only [step, Except.map, Except.ok.injEq, Option.some.injEq, Prod.mk.injEq] at found
      obtain ⟨rfl, rfl⟩ := found
      dsimp only [List.cons_append]
      rw [lexemeAt_append step (skip_eq_cons skipped) size' more]
      rfl

/-- Bytes without a lexeme have none in front of a line feed, so reading goes on behind it. -/
theorem lexeme?_lineFeed (ended : lexeme? size bytes = .ok none) (size' : Nat) (more : Bytes) :
    lexeme? size' (bytes ++ 0x0a :: more) = lexeme? size' more := by
  unfold lexeme? at ended ⊢
  rw [skip_lineFeed]
  cases skipped : skip false bytes with
  | nil => rfl
  | cons b rest =>
    rw [skipped] at ended
    cases step : lexemeAt size b rest with
    | error fault => simp [step, Except.map] at ended
    | ok found => simp [step, Except.map] at ended

/-! ## Reading in front of a line feed -/

/-- Whether reading some bytes comes to an inline image. -/
inductive MeetsImage (size : Nat) : Progress → Bytes → Prop where
  | here {progress : Progress} {bytes rest : Bytes} {lexeme : Lexeme}
      (lexed : lexeme? size bytes = .ok (some (lexeme, rest)))
      (image : progress.beginsImage lexeme) : MeetsImage size progress bytes
  | behind {progress next : Progress} {bytes rest : Bytes} {lexeme : Lexeme}
      (lexed : lexeme? size bytes = .ok (some (lexeme, rest)))
      (taken : progress.take lexeme size rest = .ok next)
      (later : MeetsImage size next rest) : MeetsImage size progress bytes

theorem not_meetsImage_nil (ended : lexeme? size bytes = .ok none) :
    ¬MeetsImage size progress bytes := by
  rintro (⟨lexed, -⟩ | ⟨lexed, -, -⟩)
  · cases ended.symm.trans lexed
  · cases ended.symm.trans lexed

/-- A lexeme that begins no image meets one only in what follows. -/
theorem not_meetsImage_take {lexeme : Lexeme}
    (lexed : lexeme? size bytes = .ok (some (lexeme, rest)))
    (noImage : progress.beginsImage lexeme = false)
    (taken : progress.take lexeme size rest = .ok next) (later : ¬MeetsImage size next rest) :
    ¬MeetsImage size progress bytes := by
  rintro (⟨lexed', image⟩ | ⟨lexed', taken', later'⟩)
  · cases lexed.symm.trans lexed'
    rw [noImage] at image
    cases image
  · cases lexed.symm.trans lexed'
    cases taken.symm.trans taken'
    exact later later'

namespace Progress

/-- The position that a fault would have makes no difference. -/
theorem take_anywhere {lexeme : Lexeme} (taken : progress.take lexeme size bytes = .ok next)
    (size' : Nat) (rest : Bytes) : progress.take lexeme size' rest = .ok next := by
  cases lexeme with
  | arrayEnd | dictionaryEnd =>
    obtain ⟨frames, operands, operators⟩ := progress
    cases frames with
    | nil => cases taken
    | cons frame outer => cases frame <;> exact taken
  | _ => exact taken

end Progress

/-- Content without an image, with a line feed behind it, leaves nothing but its operators to what
follows. -/
theorem readFrom_lineFeed {found : List (Operator Numeral)}
    (read : readFrom size progress bytes = .ok found) (noImage : ¬MeetsImage size progress bytes) :
    ∃ operands, ∀ size' more, readFrom size' progress (bytes ++ 0x0a :: more) =
      readFrom size' ⟨[], operands, found.reverse⟩ more := by
  fun_induction readFrom size progress bytes with
  | case1 => cases read
  | case2 progress bytes ended =>
    obtain ⟨frames, operands, operators⟩ := progress
    cases frames with
    | nil =>
      cases read
      refine ⟨operands, fun size' more => ?_⟩
      rw [readFrom_eq, readFrom_eq size' _ more, lexeme?_lineFeed ended, List.reverse_reverse]
    | cons frame outer => cases frame <;> cases read
  | case3 progress bytes lexeme rest lexed _ image => exact (noImage (.here lexed image)).elim
  | case4 => cases read
  | case5 progress bytes lexeme rest lexed _ image next taken ih =>
    obtain ⟨operands, onward⟩ := ih read fun later => noImage (.behind lexed taken later)
    refine ⟨operands, fun size' more => ?_⟩
    rw [readFrom_take (lexeme?_append lexed size' more) (by simpa using image)
      (Progress.take_anywhere taken size' _)]
    exact onward size' more

/-! ## The markers of an image -/

theorem afterImageHeader?_cons {i d blank : UInt8}
    (unmarked : isBlank b → isBlank blank → i = ascii 'I' → d ≠ ascii 'D') :
    afterImageHeader? (b :: i :: d :: blank :: rest) =
      afterImageHeader? (i :: d :: blank :: rest) := by
  rw [afterImageHeader?, if_neg]
  rintro ⟨before, first, second, behind⟩
  exact unmarked before behind first second

/-- The scan for the data of an image stops behind the first marker. -/
theorem afterImageHeader?_append {header : Bytes} (data : Bytes)
    (unmarked : ∀ b b', isBlank b → isBlank b' →
      ¬[b, ascii 'I', ascii 'D', b'] <:+: header ++ [0x20]) :
    afterImageHeader? (header ++ 0x20 :: ascii 'I' :: ascii 'D' :: 0x20 :: data) = some data := by
  induction header with
  | nil => rfl
  | cons b header ih =>
    have onward := ih fun c c' blank blank' inner =>
      unmarked c c' blank blank' (inner.trans (List.suffix_cons b _).isInfix)
    match header with
    | [] => exact (afterImageHeader?_cons fun _ _ first => absurd first (by decide)).trans onward
    | [i] => exact (afterImageHeader?_cons fun _ _ _ => by decide).trans onward
    | [i, d] =>
      refine (afterImageHeader?_cons fun before behind first second => ?_).trans onward
      subst first second
      exact unmarked b 0x20 before behind List.infix_rfl
    | i :: d :: blank :: header =>
      refine (afterImageHeader?_cons fun before behind first second => ?_).trans onward
      subst first second
      exact unmarked b blank before behind (List.prefix_append [b, _, _, blank] _).isInfix

/-- A position at which the data do not end is passed. -/
theorem afterImageData_cons {afterBlank : Bool} {e i : UInt8}
    (unmarked : afterBlank → e = ascii 'E' → i = ascii 'I' →
      ∃ b ∈ rest.head?, isBlank b = false ∧ isDelimiter b = false) :
    afterImageData afterBlank (e :: i :: rest) = afterImageData (isBlank e) (i :: rest) := by
  rw [afterImageData, if_neg]
  rintro ⟨before, first, second, behind⟩
  obtain ⟨b, next, plain, plain'⟩ := unmarked before first second
  rw [Option.mem_def.mp next] at behind
  simp [plain, plain'] at behind

/-- The scan for the end of the data of an image stops behind the first marker, where the byte in
front of the data is given. -/
theorem afterImageData_append {before : UInt8} {data : Bytes} (after : Bytes)
    (unmarked : ∀ b b', isBlank b → isBlank b' ∨ isDelimiter b' →
      ¬[b, ascii 'E', ascii 'I', b'] <:+: before :: data ++ [0x20]) :
    afterImageData (isBlank before) (data ++ 0x20 :: ascii 'E' :: ascii 'I' :: 0x20 :: after) =
      0x20 :: after := by
  induction data generalizing before with
  | nil =>
    refine (afterImageData_cons fun _ first => absurd first (by decide)).trans ?_
    rfl
  | cons e data ih =>
    have onward := ih fun c c' blank ends inner =>
      unmarked c c' blank ends (inner.trans (List.suffix_cons before _).isInfix)
    match data with
    | [] => exact (afterImageData_cons fun _ _ second => absurd second (by decide)).trans onward
    | [i] =>
      refine (afterImageData_cons fun blank first second => ?_).trans onward
      subst first second
      exact (unmarked before 0x20 blank (.inl rfl) List.infix_rfl).elim
    | i :: b :: data =>
      refine (afterImageData_cons fun blank first second => ⟨b, rfl, ?_⟩).trans onward
      subst first second
      have ends : ¬(isBlank b ∨ isDelimiter b) := fun ends =>
        unmarked before b blank ends (List.prefix_append [before, _, _, b] _).isInfix
      simpa using ends

/-! ## Content around an image -/

theorem skipImage_append {header data : Bytes} (after : Bytes)
    (unmarkedHeader : ∀ b b', isBlank b → isBlank b' →
      ¬[b, ascii 'I', ascii 'D', b'] <:+: header ++ [0x20])
    (unmarkedData : ∀ b b', isBlank b → isBlank b' ∨ isDelimiter b' →
      ¬[b, ascii 'E', ascii 'I', b'] <:+: 0x20 :: data ++ [0x20]) :
    skipImage (header ++ 0x20 :: ascii 'I' :: ascii 'D' :: 0x20 ::
      (data ++ 0x20 :: ascii 'E' :: ascii 'I' :: 0x20 :: after)) = 0x20 :: after := by
  unfold skipImage
  rw [afterImageHeader?_append _ unmarkedHeader]
  exact afterImageData_append after unmarkedData

/-- What follows an image is read behind the operators in front of it; operands that wait for their
operator are dropped. -/
theorem readFrom_image (ends : EndsWord rest) (operands : List (Operand Numeral))
    (before : List (Operator Numeral)) :
    readFrom size ⟨[], operands, before⟩ (ascii 'B' :: [ascii 'I'] ++ rest) =
      readFrom size ⟨[], [], before⟩ (skipImage rest) := by
  have lexed : lexeme? size (ascii 'B' :: [ascii 'I'] ++ rest) =
      .ok (some (.keyword "BI", rest)) :=
    lexeme?_regular (List.all_eq_true.mp (by decide)) (by decide) ends
  rw [readFrom_eq, lexed]
  rfl

/-- **An image is skipped and nothing else.** Content that can be read and meets no image, a line
feed, an inline image, and content that can be read come to the operators of the two contents. The
image is any header that begins with a blank and any data, as long as the marker that ends each of
them is the first one in it. -/
theorem operators_image {before header data after : Bytes} {found later : List (Operator Numeral)}
    (read : operators before = .ok found) (noImage : ¬MeetsImage before.length .start before)
    (opens : ∃ b ∈ header.head?, isBlank b)
    (unmarkedHeader : ∀ b b', isBlank b → isBlank b' →
      ¬[b, ascii 'I', ascii 'D', b'] <:+: header ++ [0x20])
    (unmarkedData : ∀ b b', isBlank b → isBlank b' ∨ isDelimiter b' →
      ¬[b, ascii 'E', ascii 'I', b'] <:+: 0x20 :: data ++ [0x20])
    (read' : operators after = .ok later) :
    operators (before ++ [0x0a] ++ Text.Utf8.encode "BI" ++ header ++ Text.Utf8.encode " ID " ++
      data ++ Text.Utf8.encode " EI " ++ after) = .ok (found ++ later) := by
  obtain ⟨operands, onward⟩ := readFrom_lineFeed read noImage
  have joined : before ++ [0x0a] ++ Text.Utf8.encode "BI" ++ header ++ Text.Utf8.encode " ID " ++
      data ++ Text.Utf8.encode " EI " ++ after =
      before ++ 0x0a :: (ascii 'B' :: [ascii 'I'] ++ (header ++ 0x20 :: ascii 'I' :: ascii 'D' ::
        0x20 :: (data ++ 0x20 :: ascii 'E' :: ascii 'I' :: 0x20 :: after))) := by
    have begin : Text.Utf8.encode "BI" = [ascii 'B', ascii 'I'] := rfl
    have middle : Text.Utf8.encode " ID " = [0x20, ascii 'I', ascii 'D', 0x20] := rfl
    have close : Text.Utf8.encode " EI " = [0x20, ascii 'E', ascii 'I', 0x20] := rfl
    simp [begin, middle, close]
  have ends (rest : Bytes) : EndsWord (header ++ rest) := by
    obtain ⟨b, first, blank⟩ := opens
    obtain ⟨header, rfl⟩ := List.head?_eq_some_iff.mp first
    exact .of_isBlank blank
  refine eq_ok_of_toOption ?_
  rw [joined]
  unfold operators
  rw [onward, readFrom_image (ends _), skipImage_append after unmarkedHeader unmarkedData,
    readFrom_blank rfl, toOption_readFrom_content, read', List.reverse_reverse]
  rfl

/-- An image between `1 w % BI` and `Q` whose header ` ID/W 1ID` and data `EIQ xEI` have what looks
like a marker at their ends. -/
theorem operators_image_between :
    let before := Text.Utf8.encode "1 w % BI"
    let header := Text.Utf8.encode " ID/W 1ID"
    let data := Text.Utf8.encode "EIQ xEI"
    operators before = .ok [⟨"w", [.number ⟨false, 1, 0⟩]⟩] ∧
      operators (before ++ [0x0a] ++ Text.Utf8.encode "BI" ++ header ++ Text.Utf8.encode " ID " ++
        data ++ Text.Utf8.encode " EI " ++ Text.Utf8.encode "Q") =
        .ok [⟨"w", [.number ⟨false, 1, 0⟩]⟩, ⟨"Q", []⟩] := by
  intro before header data
  have read : operators before = .ok [⟨"w", [.number ⟨false, 1, 0⟩]⟩] := by
    refine (readFrom_take rfl rfl rfl).trans ((readFrom_take rfl rfl rfl).trans ?_)
    rw [readFrom_eq]
    rfl
  have read' : operators (Text.Utf8.encode "Q") = .ok [⟨"Q", []⟩] := by
    refine (readFrom_take rfl rfl rfl).trans ?_
    rw [readFrom_eq]
    rfl
  have noImage : ¬MeetsImage before.length .start before :=
    not_meetsImage_take rfl rfl rfl <| not_meetsImage_take rfl rfl rfl <| not_meetsImage_nil rfl
  have spelled : header ++ [0x20] =
      [0x20, 0x49, 0x44, 0x2f, 0x57, 0x20, 0x31, 0x49, 0x44, 0x20] := rfl
  have spelled' : 0x20 :: data ++ [0x20] =
      [0x20, 0x45, 0x49, 0x51, 0x20, 0x78, 0x45, 0x49, 0x20] := rfl
  refine ⟨read, operators_image read noImage ⟨0x20, rfl, rfl⟩ ?_ ?_ read'⟩
  · intro b b' blank blank' inner
    rw [spelled] at inner
    simp [List.infix_cons_iff, ascii] at inner
    obtain ⟨rfl, rfl⟩ | ⟨rfl, rfl⟩ := inner
    · exact absurd blank' (by decide)
    · exact absurd blank (by decide)
  · intro b b' blank ends inner
    rw [spelled'] at inner
    simp [List.infix_cons_iff, ascii] at inner
    obtain ⟨rfl, rfl⟩ | ⟨rfl, rfl⟩ := inner
    · exact absurd ends (by decide)
    · exact absurd blank (by decide)

end PlacedText.Content
