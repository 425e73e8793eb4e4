import PlacedText.Proofs.Content.Prefix
import PlacedText.Proofs.Font.Counting

/-! # What a character map looks up

A character map is read as a list of definitions, each of which covers some codes and gives them
texts (`CMap.Definition.text?`). The map gives every code the text of the last definition that
covers it, and has as many entries as there are codes that are covered (`CMap.ofStream_lookup`).
-/

namespace PlacedText.CMap

open Counting

/-! ## The definitions of an operator -/

section

variable {ν : Type}

/-- The definition of a code and its text, which are strings. -/
def pairDefinition? : Operand ν → Operand ν → Option Definition
  | .string code, .string text => some (.single (codeOf code) (unitsOf text))
  | _, _ => none

/-- The definition of a range of codes between two strings, with a string or an array for texts. -/
def tripleDefinition? : Operand ν → Operand ν → Operand ν → Option Definition
  | .string first, .string last, .string text =>
    some (.range (codeOf first) (codeOf last) (unitsOf text))
  | .string first, .string last, .array items =>
    some (.listed (codeOf first) (codeOf last) (items.map fun item => item.string?.map unitsOf))
  | _, _, _ => none

/-- The pair at a place of the operands, two operands each. -/
def pairAt? (operands : List (Operand ν)) (place : Nat) : Option Definition := do
  pairDefinition? (← operands[2 * place]?) (← operands[2 * place + 1]?)

/-- The triple at a place of the operands, three operands each. -/
def tripleAt? (operands : List (Operand ν)) (place : Nat) : Option Definition := do
  tripleDefinition? (← operands[3 * place]?) (← operands[3 * place + 1]?)
    (← operands[3 * place + 2]?)

/-- The definitions that an operator lists. Operands that are left over at the end define nothing,
and neither do a pair or a triple of another kind. -/
def listedDefinitions (operator : Operator ν) : List Definition :=
  let operands := operator.operands
  if operator.name = "endbfchar" then
    (List.range (operands.length / 2)).filterMap (pairAt? operands)
  else if operator.name = "endbfrange" then
    (List.range (operands.length / 3)).filterMap (tripleAt? operands)
  else []

end

theorem singles_cons (source target : Operand Numeral) (rest : List (Operand Numeral)) :
    singles (source :: target :: rest) =
      (pairDefinition? source target).toList ++ singles rest := by
  cases source <;> cases target <;> rfl

theorem ranges_cons (first last target : Operand Numeral) (rest : List (Operand Numeral)) :
    ranges (first :: last :: target :: rest) =
      (tripleDefinition? first last target).toList ++ ranges rest := by
  cases first <;> cases last <;> cases target <;> rfl

theorem pairAt?_succ (source target : Operand Numeral) (rest : List (Operand Numeral))
    (place : Nat) : pairAt? (source :: target :: rest) (place + 1) = pairAt? rest place := rfl

theorem tripleAt?_succ (first last target : Operand Numeral) (rest : List (Operand Numeral))
    (place : Nat) :
    tripleAt? (first :: last :: target :: rest) (place + 1) = tripleAt? rest place := rfl

/-- The operands of `endbfchar` are read in pairs. What is no pair of strings is passed over, and so
is an operand that is left over. -/
theorem singles_eq (operands : List (Operand Numeral)) :
    singles operands = (List.range (operands.length / 2)).filterMap (pairAt? operands) := by
  match operands with
  | [] => rfl
  | [_] => simp [singles]
  | source :: target :: rest =>
    have head : pairAt? (source :: target :: rest) 0 = pairDefinition? source target := rfl
    have length : (source :: target :: rest).length / 2 = rest.length / 2 + 1 := by
      simp only [List.length_cons]
      omega
    rw [singles_cons, singles_eq rest, length, List.range_succ_eq_map, List.filterMap_cons,
      List.filterMap_map, head]
    cases pairDefinition? source target <;> simp [Function.comp_def, pairAt?_succ]

/-- The operands of `endbfrange` are read in threes, likewise. -/
theorem ranges_eq (operands : List (Operand Numeral)) :
    ranges operands = (List.range (operands.length / 3)).filterMap (tripleAt? operands) := by
  match operands with
  | [] => rfl
  | [_] => simp [ranges]
  | [_, _] => simp [ranges]
  | first :: last :: target :: rest =>
    have head :
        tripleAt? (first :: last :: target :: rest) 0 = tripleDefinition? first last target := rfl
    have length : (first :: last :: target :: rest).length / 3 = rest.length / 3 + 1 := by
      simp only [List.length_cons]
      omega
    rw [ranges_cons, ranges_eq rest, length, List.range_succ_eq_map, List.filterMap_cons,
      List.filterMap_map, head]
    cases tripleDefinition? first last target <;> simp [Function.comp_def, tripleAt?_succ]

theorem definitions_eq (operator : Operator Numeral) :
    definitions operator = listedDefinitions operator := by
  simp only [definitions, listedDefinitions, singles_eq, ranges_eq]

/-! ## Numbers among the operands -/

section

variable {ν μ : Type} (f : ν → μ)

/-- Pairs hold no numbers, so they are the same however numbers are read. -/
theorem pairAt?_map (operands : List (Operand ν)) (place : Nat) :
    pairAt? (operands.map (Operand.map f)) place = pairAt? operands place := by
  have pair (code text : Operand ν) :
      pairDefinition? (code.map f) (text.map f) = pairDefinition? code text := by
    cases code <;> cases text <;> rfl
  unfold pairAt?
  rw [List.getElem?_map, List.getElem?_map]
  cases operands[2 * place]? <;> cases operands[2 * place + 1]? <;> first | rfl | exact pair _ _

theorem mapItems_eq (items : List (Operand ν)) :
    Operand.mapItems f items = items.map (Operand.map f) := by
  induction items with
  | nil => rfl
  | cons item items ih => rw [Operand.mapItems, ih, List.map_cons]

/-- Nor do threes: what is no string in the array of a range counts as a gap. -/
theorem tripleAt?_map (operands : List (Operand ν)) (place : Nat) :
    tripleAt? (operands.map (Operand.map f)) place = tripleAt? operands place := by
  have text (item : Operand ν) : (item.map f).string? = item.string? := by cases item <;> rfl
  have triple (first last target : Operand ν) :
      tripleDefinition? (first.map f) (last.map f) (target.map f) =
        tripleDefinition? first last target := by
    cases first <;> cases last <;> cases target
    all_goals first
      | rfl
      | simp [Operand.map, tripleDefinition?, mapItems_eq, text]
  unfold tripleAt?
  rw [List.getElem?_map, List.getElem?_map, List.getElem?_map]
  cases operands[3 * place]? <;> cases operands[3 * place + 1]? <;> cases operands[3 * place + 2]?
  all_goals first
    | rfl
    | exact triple _ _ _

/-- Numbers do not show in the definitions of a character map. -/
theorem listedDefinitions_map (operator : Operator ν) :
    listedDefinitions (operator.map f) = listedDefinitions operator := by
  unfold listedDefinitions Operator.map
  simp only [List.length_map, funext (pairAt?_map f operator.operands),
    funext (tripleAt?_map f operator.operands)]

end

/-! ## The codes that definitions cover -/

/-- Whether a number is in a range of codes, which is cut at `2 ^ 16` codes. -/
def InRange (first last : UInt32) (number : Nat) : Prop :=
  first.toNat ≤ number ∧ number ≤ min last.toNat (first.toNat + 65535)

instance (first last : UInt32) (number : Nat) : Decidable (InRange first last number) :=
  inferInstanceAs (Decidable (_ ∧ _))

/-- The numbers from the first code on, as many as the range has, are those of the range. -/
theorem inRange_iff (first last : UInt32) (number : Nat) :
    first.toNat ≤ number ∧ number < first.toNat + rangeLength first last ↔
      InRange first last number := by
  unfold InRange rangeLength maxRange
  by_cases reversed : last < first
  · have := UInt32.lt_iff_toNat_lt.mp reversed
    simp only [reversed, if_true]
    omega
  · have := UInt32.le_iff_toNat_le.mp (UInt32.not_lt.mp reversed)
    simp only [reversed, if_false]
    omega

/-- A range ends below `2 ^ 32`, so counting its codes does not wrap. -/
theorem add_rangeLength_le (first last : UInt32) :
    first.toNat + rangeLength first last ≤ 2 ^ 32 := by
  have := first.toNat_lt
  have := last.toNat_lt
  unfold rangeLength
  split
  · omega
  · next ordered =>
    have := UInt32.le_iff_toNat_le.mp (UInt32.not_lt.mp ordered)
    omega

/-- The codes of a range are counted without an overflow. -/
theorem toNat_add_of_lt_rangeLength {first last : UInt32} {offset : Nat}
    (within : offset < rangeLength first last) :
    (first + offset.toUInt32).toNat = first.toNat + offset := by
  have := add_rangeLength_le first last
  rw [← toUInt32_add]
  exact UInt32.toNat_ofNat_of_lt' (show _ < 2 ^ 32 by omega)

/-- The values that are listed for a range are those of the codes in it. -/
theorem lookup_range {β : Type} (first last : UInt32) (value? : Nat → Option β) (code : UInt32) :
    (coded (counted first.toNat (rangeLength first last) value?)).reverse.lookup code =
      if InRange first last code.toNat then value? (code.toNat - first.toNat) else none := by
  have below : ∀ entry ∈ counted first.toNat (rangeLength first last) value?,
      entry.1 < 2 ^ 32 := fun entry member =>
    (lt_of_mem_counted member).trans_le (add_rangeLength_le first last)
  rw [lookup_coded below, lookup_counted]
  simp only [inRange_iff]

/-- The text that a definition gives a code, if it covers the code. -/
def Definition.text? (code : UInt32) : Definition → Option String
  | .single source units => if code = source then some (Text.Utf16.decode units) else none
  | .range first last units =>
    if InRange first last code.toNat then
      units.getLast?.map fun unit =>
        Text.Utf16.decode (units.dropLast ++ [unit + (code.toNat - first.toNat).toUInt16])
    else none
  | .listed first last texts =>
    if InRange first last code.toNat then
      texts[code.toNat - first.toNat]?.join.map Text.Utf16.decode
    else none

/-! ## The entries of definitions -/

/-- Counting up changes the last unit only. -/
theorem countUp_eq (offset : Nat) {units : List UInt16} {unit : UInt16}
    (ends : units.getLast? = some unit) :
    countUp offset units = units.dropLast ++ [unit + offset.toUInt16] := by
  fun_induction countUp offset units with
  | case1 => simp at ends
  | case2 => simp_all
  | case3 first units notLast ih =>
    cases units with
    | nil => exact (notLast rfl).elim
    | cons next others =>
      rw [List.getLast?_cons_cons] at ends
      simp [ih ends]

/-- A range covers its codes one by one, each with the text whose last unit is counted up. -/
theorem entries_range (first last : UInt32) {units : List UInt16} {unit : UInt16}
    (ends : units.getLast? = some unit) :
    (Definition.range first last units).entries =
      coded (counted first.toNat (rangeLength first last) fun offset =>
        some (Text.Utf16.decode (units.dropLast ++ [unit + offset.toUInt16]))) := by
  have visible : units.isEmpty = false := by
    cases units with
    | nil => simp at ends
    | cons => rfl
  rw [coded_counted]
  simp [-Nat.toUInt32_eq, -Nat.toUInt16_eq, Definition.entries, visible, countUp_eq _ ends]

/-- A range with a list covers the codes that the list has strings for. -/
theorem entries_listed (first last : UInt32) (texts : List (Option (List UInt16))) :
    (Definition.listed first last texts).entries =
      coded (counted first.toNat (rangeLength first last) fun offset =>
        texts[offset]?.join.map Text.Utf16.decode) := by
  rw [coded_counted]
  simp only [Definition.entries]
  rw [filterMap_zip_range]
  refine List.filterMap_congr fun offset _ => ?_
  cases texts[offset]? with
  | none => rfl
  | some units? => cases units? <;> rfl

/-- The entries of a definition give its texts. -/
theorem lookup_entries (definition : Definition) (code : UInt32) :
    definition.entries.reverse.lookup code = definition.text? code := by
  cases definition with
  | single source units =>
    by_cases same : code = source
    · simp [Definition.entries, Definition.text?, same]
    · simp [Definition.entries, Definition.text?, same, List.lookup_cons,
        beq_eq_false_iff_ne.mpr same]
  | range first last units =>
    cases ends : units.getLast? with
    | none =>
      rw [List.getLast?_eq_none_iff] at ends
      simp [Definition.entries, Definition.text?, ends]
    | some unit =>
      rw [entries_range first last ends, lookup_range]
      simp only [Definition.text?, ends, Option.map_some]
  | listed first last texts => rw [entries_listed, lookup_range, Definition.text?]

/-! ## The map of a stream -/

theorem lookup?_empty (code : UInt32) : empty.lookup? code = none := by
  simp [empty, lookup?]

theorem lookup?_define (cmap : CMap) (definition : Definition) (code : UInt32) :
    (cmap.define definition).lookup? code = (definition.text? code).or (cmap.lookup? code) := by
  rw [← lookup_entries]
  exact getElem?_foldl_insert definition.entries cmap.byCode code

/-- The last definition that covers a code decides. -/
theorem lookup?_foldl_define (definitions : List Definition) (cmap : CMap) (code : UInt32) :
    (definitions.foldl define cmap).lookup? code =
      (definitions.reverse.findSome? (·.text? code)).or (cmap.lookup? code) := by
  induction definitions generalizing cmap with
  | nil => simp
  | cons definition definitions ih =>
    rw [List.foldl_cons, ih, lookup?_define, List.reverse_cons, List.findSome?_append,
      Option.or_assoc]
    cases found : definition.text? code <;> simp [found]

theorem isSome_findSome?_reverse (definitions : List Definition) (code : UInt32) :
    (definitions.reverse.findSome? (·.text? code)).isSome ↔
      ∃ definition ∈ definitions, (definition.text? code).isSome := by
  simp [List.findSome?_isSome_iff]

/-- **The last definition of a code counts.** A stream that can be read is a character map. It gives
a code the text of the last definition in the stream that covers the code, it has no text for a code
that no definition covers, and its size is the number of the codes that are covered. -/
theorem ofStream_lookup (data : Bytes) {operators : List (Operator Numeral)}
    (read : Content.operators data = .ok operators) :
    ∃ cmap, ofStream data = .ok cmap ∧
      (∀ code, cmap.lookup? code =
        (operators.flatMap listedDefinitions).reverse.findSome? (·.text? code)) ∧
      cmap.size = {code : UInt32 | ∃ definition ∈ operators.flatMap listedDefinitions,
        (definition.text? code).isSome}.ncard := by
  have listed : operators.flatMap definitions = operators.flatMap listedDefinitions :=
    congrArg operators.flatMap (funext definitions_eq)
  have looked (code : UInt32) :
      ((operators.flatMap definitions).foldl define empty).lookup? code =
        (operators.flatMap listedDefinitions).reverse.findSome? (·.text? code) := by
    rw [lookup?_foldl_define, listed, lookup?_empty, Option.or_none]
  refine ⟨(operators.flatMap definitions).foldl define empty, by simp [ofStream, read, Except.map],
    looked, ?_⟩
  rw [size, size_eq_ncard]
  congr 1
  ext code
  rw [Set.mem_ofPred_eq, Set.mem_ofPred_eq, ← isSome_findSome?_reverse, ← looked]
  rfl

/-- `(1)(3)(A)endbfrange(2)(Z)endbfchar(3)(4)[(b)7]endbfrange` -/
def overlappingText : Bytes :=
  [0x28, 0x31, 0x29, 0x28, 0x33, 0x29, 0x28, 0x41, 0x29,
    0x65, 0x6e, 0x64, 0x62, 0x66, 0x72, 0x61, 0x6e, 0x67, 0x65,
    0x28, 0x32, 0x29, 0x28, 0x5a, 0x29,
    0x65, 0x6e, 0x64, 0x62, 0x66, 0x63, 0x68, 0x61, 0x72,
    0x28, 0x33, 0x29, 0x28, 0x34, 0x29, 0x5b, 0x28, 0x62, 0x29, 0x37, 0x5d,
    0x65, 0x6e, 0x64, 0x62, 0x66, 0x72, 0x61, 0x6e, 0x67, 0x65]

def overlappingOperators : List (Operator Numeral) :=
  [⟨"endbfrange", [.string [0x31], .string [0x33], .string [0x41]]⟩,
    ⟨"endbfchar", [.string [0x32], .string [0x5a]]⟩,
    ⟨"endbfrange", [.string [0x33], .string [0x34],
      .array [.string [0x62], .number ⟨false, 7, 0⟩]]⟩]

theorem operators_overlapping :
    Content.operators overlappingText = .ok overlappingOperators := by
  iterate 14 refine (Content.readFrom_take rfl rfl rfl).trans ?_
  rw [Content.readFrom_eq]
  rfl

/-- The definitions of the overlapping operators cover three codes. -/
theorem covered_overlapping : {code : UInt32 | ∃ definition ∈
    overlappingOperators.flatMap listedDefinitions, (definition.text? code).isSome} =
      ({0x31, 0x32, 0x33} : Finset UInt32) := by
  have listed : overlappingOperators.flatMap listedDefinitions =
      [.range 0x31 0x33 [0x41], .single 0x32 [0x5a], .listed 0x33 0x34 [some [0x62], none]] := rfl
  ext code
  rw [listed]
  simp [Definition.text?, InRange, ← UInt32.toNat_inj]
  constructor
  · rintro (inRange | single | covered)
    · omega
    · omega
    · split at covered
      · have place : code.toNat = 51 ∨ code.toNat = 52 := by omega
        rcases place with place | place <;> simp [place] at covered ⊢
      · simp at covered
  · omega

/-- Of two definitions for a code the later one counts, also across operators. In a list a number
defines no text for its code. -/
theorem ofStream_lookup_overlapping :
    Content.operators overlappingText = .ok overlappingOperators ∧
      ∃ cmap, ofStream overlappingText = .ok cmap ∧
        cmap.lookup? 0x31 = some "A" ∧ cmap.lookup? 0x32 = some "Z" ∧
          cmap.lookup? 0x33 = some "b" ∧ cmap.lookup? 0x34 = none ∧ cmap.size = 3 := by
  obtain ⟨cmap, read, looked, counted⟩ := ofStream_lookup overlappingText operators_overlapping
  refine ⟨operators_overlapping, cmap, read, ?_, ?_, ?_, ?_, ?_⟩
  · rw [looked]
    rfl
  · rw [looked]
    rfl
  · rw [looked]
    rfl
  · rw [looked]
    rfl
  · rw [counted, covered_overlapping, Set.ncard_coe_finset]
    rfl

end PlacedText.CMap
