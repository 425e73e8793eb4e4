import PlacedText.Proofs.Drawing.Aborts
import PlacedText.Proofs.Drawing.Selection
import Mathlib

/-! # Fonts that do not end the program

A font that was loaded, and has a text or none for every code, never ends the program
(`Font.IsSafe`). The stand-in for a missing font is one (`Font.fallback_isSafe`), and where the
resources of a page have no other fonts, content that draws no objects comes to its end or to a
fault (`Interpreter.unended_of_safe`).
-/

namespace PlacedText

open Effect

variable {α : Type} [Scalar α]

/-- Whether a font never ends the program, neither when it is loaded nor when a code is shown. -/
structure Font.IsSafe (font : Font α) : Prop where
  loaded : font.abort? = none
  shown : ∀ code, font.abortAt? code = none

omit [Scalar α] in
/-- Without glyph names the text of a code is found in the character map, or not at all. -/
theorem Font.isSafe_of_no_encoding {font : Font α} (loaded : font.abort? = none)
    (unnamed : font.encoding? = none) : font.IsSafe where
  loaded := loaded
  shown := by
    intro code
    unfold abortAt? readText
    rw [unnamed]
    split <;> rfl

/-- The standard encoding has no glyph names, only characters. -/
theorem Font.readText_fallback (name : String) (code : UInt32) :
    (fallback name : Font α).readText code = .ok (Encoding.standard.character? code) := by
  have noName : Encoding.standard.differences[code]? = none := Std.HashMap.getElem?_empty
  change Encoding.standard.readText code = _
  unfold Encoding.readText
  rw [noName]

theorem Font.fallback_isSafe (name : String) : (fallback name : Font α).IsSafe where
  loaded := rfl
  shown := by
    intro code
    unfold abortAt?
    rw [readText_fallback]
    rfl

namespace Recording

variable {recording : Recording α} {normalForm : NormalForm}

/-- A safe font ends the program at no code, so nothing new is noted. -/
theorem showCodes_abort {font : Font α} (safe : font.IsSafe) (codes : List CharCode) :
    (recording.showCodes normalForm font codes).abort? = recording.abort? := by
  refine showCodes_keeps (fun later => later.abort? = recording.abort?) (fun later code same => ?_)
    rfl codes
  unfold showCode
  dsimp only
  rw [safe.shown, Option.or_none, same]

/-- A step with safe fonts does not end the program. -/
theorem step_abort {fonts : FontBook α} (safe : ∀ name, (fonts name).IsSafe) {step : Step α}
    (own : step.HasFonts fonts) : (recording.step normalForm step).abort? = recording.abort? := by
  cases step with
  | operator => rfl
  | change change => rfl
  | selectFont other name size =>
    cases own
    exact (congrArg _ (safe name).loaded).trans (Option.or_none ..)
  | showText other bytes =>
    cases own
    unfold step showText
    dsimp only
    split
    · rfl
    · next name _ =>
      rw [showCodes_abort (safe name)]
      exact (congrArg _ (safe name).loaded).trans (Option.or_none ..)

/-- Steps whose fonts are all safe note nothing that ends the program. -/
theorem after_abort {fonts : FontBook α} (safe : ∀ name, (fonts name).IsSafe)
    {steps : List (Step α)} (own : ∀ step ∈ steps, step.HasFonts fonts) :
    (recording.after normalForm steps).abort? = recording.abort? := by
  unfold after
  induction steps generalizing recording with
  | nil => rfl
  | cons step steps ih =>
    obtain ⟨here, later⟩ := List.forall_mem_cons.mp own
    rw [List.foldl_cons, ih later, step_abort safe here]

end Recording

namespace Interpreter

variable {interpreter : Interpreter} {resources : Dictionary} {operators : List (Operator α)}

/-- Operators that draw no objects use the fonts of their own stream only. -/
theorem hasFonts_of_plain {streamCourse : Dictionary → Bytes → Course α}
    (plain : ∀ operator ∈ operators, operator.name ≠ "Do") {step : Step α}
    (member : step ∈ (interpreter.operatorsCourse streamCourse resources operators).steps) :
    step.HasFonts (interpreter.fontNamed resources) := by
  obtain ⟨_, known, member⟩ := Course.mem_all member
  obtain ⟨operator, written, rfl⟩ := List.mem_map.mp known
  rcases Course.mem_andThen member with counted | performed
  · cases List.mem_singleton.mp counted
    trivial
  obtain ⟨_, known, member⟩ := Course.mem_all performed
  obtain ⟨action, own, rfl⟩ := List.mem_map.mp known
  cases action with
  | invoke name => exact absurd (Action.name_of_invoke_mem own) (plain operator written)
  | _ =>
    cases List.mem_singleton.mp member
    trivial

/-- **Safe fonts do not end the program.** -/
theorem unended_of_safe (interpreter : Interpreter) (levels : Nat)
    (plain : ∀ operator ∈ operators, operator.name ≠ "Do")
    (safe : ∀ name, (interpreter.fontNamed resources name : Font α).IsSafe) :
    (finalState (interpreter.runOperators (interpreter.runStream levels) resources 0 ∅ operators
      (.start .identity))).abort? = none :=
  abort_eq_none_of_sameEnd (Nat.zero_le _)
    (runOperators_sameEnd interpreter levels resources operators)
    (Recording.after_abort safe fun _ member => hasFonts_of_plain plain member)

end Interpreter

/-- **A page with safe fonts is interpreted along its operators**, if it draws no objects and they
are not too many. -/
theorem Store.interpret_of_plain {store : Store} {options : ExtractOptions} {page : Nat}
    {content : Bytes} {resources : Dictionary} {operators : List (Operator α)}
    (found : store.pageContent page = .ok content)
    (shown : store.pageResources page = .ok resources)
    (read : Interpreter.operators content = .ok operators)
    (plain : ∀ operator ∈ operators, operator.name ≠ "Do")
    (few : operators.length ≤ options.maxOperators)
    (safe : ∀ name, (Interpreter.fontNamed ⟨store, options⟩ resources name : Font α).IsSafe) :
    ∃ recording : Recording α, store.interpret options page = (recording, none) ∧
      recording.abort? = none ∧
      recording.SameShown (.ofSteps options.normalForm
        (Interpreter.operatorsCourse ⟨store, options⟩
          (Interpreter.streamCourse ⟨store, options⟩ options.maxDepth) resources
          operators).steps) := by
  let interpreter : Interpreter := ⟨store, options⟩
  have bounded : 0 + operators.length ≤ options.maxOperators := by omega
  obtain ⟨recording, ran⟩ := Interpreter.runOperators_succeeds interpreter
    (interpreter.runStream options.maxDepth) resources 0 ∅ operators (.start .identity) plain
    bounded
  have unended := interpreter.unended_of_safe options.maxDepth plain safe
  have followed := interpreter.runOperators_sameEnd options.maxDepth resources operators
  rw [ran] at unended followed
  refine ⟨recording, ?_, unended,
    (Interpreter.sameShown_of_sameEnd (Nat.zero_le _) followed).2⟩
  unfold Store.interpret Interpreter.runPage
  simp only [found, shown]
  unfold Interpreter.runStream
  rw [read]
  dsimp only
  rw [ran]

/-! ## A slanted text -/

/-- Two letters on a slanted baseline. -/
def slantedText : Bytes :=
  Text.Utf8.encode "BT /F 12 Tf .999 .04 -.04 .999 72 700 Tm (AB) Tj ET"

def slantedOperators : List (Operator Numeral) :=
  [⟨"BT", []⟩, ⟨"Tf", [.name "F", .number ⟨false, 12, 0⟩]⟩,
    ⟨"Tm", [.number ⟨false, 999, 3⟩, .number ⟨false, 4, 2⟩, .number ⟨true, 4, 2⟩,
      .number ⟨false, 999, 3⟩, .number ⟨false, 72, 0⟩, .number ⟨false, 700, 0⟩]⟩,
    ⟨"Tj", [.string [65, 66]]⟩, ⟨"ET", []⟩]

theorem operators_slantedText : Interpreter.operators slantedText =
    .ok (slantedOperators.map (Operator.map (Numeral.value (α := α)))) := by
  have read : Content.operators slantedText = .ok slantedOperators := by cbv
  unfold Interpreter.operators
  rw [read]
  rfl

/-- Where its font is missing, the text is shown by five operators. -/
theorem Store.interpret_slantedText {store : Store} {options : ExtractOptions} {page : Nat}
    {resources : Dictionary} (found : store.pageContent page = .ok slantedText)
    (shown : store.pageResources page = .ok resources) (few : 5 ≤ options.maxOperators)
    (missing : ∀ name, Interpreter.fontDictionary? ⟨store, options⟩ resources name = none) :
    ∃ recording : Recording α, store.interpret options page = (recording, none) ∧
      recording.abort? = none ∧ recording.executed = 5 ∧ recording.glyphs.size = 2 := by
  have fallback : (Interpreter.fontNamed ⟨store, options⟩ resources : FontBook α) =
      Font.fallback := by
    funext name
    unfold Interpreter.fontNamed
    rw [missing]
    rfl
  obtain ⟨recording, ran, unended, same⟩ := Store.interpret_of_plain (α := α) found shown
    operators_slantedText (by simp [slantedOperators, Operator.map]) few
    (fun name => fallback ▸ Font.fallback_isSafe name)
  obtain ⟨t, steps⟩ : ∃ t : Transform α, (Interpreter.operatorsCourse ⟨store, options⟩
      (Interpreter.streamCourse ⟨store, options⟩ options.maxDepth) resources
      (slantedOperators.map (Operator.map Numeral.value))).steps =
        [.operator, .change .beginText, .operator,
          .selectFont Font.fallback "F" (Numeral.value ⟨false, 12, 0⟩), .operator,
          .change (.setTextMatrix t), .operator, .showText Font.fallback [65, 66], .operator,
          .change .endText] := by
    rw [← fallback]
    exact ⟨_, rfl⟩
  rw [steps] at same
  refine ⟨recording, ran, unended, same.executed, ?_⟩
  rw [same.glyphs]
  rfl

end PlacedText
