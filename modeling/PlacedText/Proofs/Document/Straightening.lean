import PlacedText.Proofs.Document.Untouched
import PlacedText.Proofs.Paged.Rotation

/-! # What straightening does to a page

Once a page is measured and replayed, it gets the rotation that is decided, or the one back that was
suspended (`PageEdit.settle_eq`), and is put behind a transform if it is skewed. It cannot fail in
that, in any arithmetic (`Arithmetic.straighten_eq`).
-/

namespace PlacedText

open Effect PagedStore

namespace PageEdit

variable {paged opened extracted : PagedStore} {index page at' before : Nat} {entries : Dictionary}
  {suspended? : Option (Option Object)}

/-- The entries of a page that had a rotation before and is left with a decided one. -/
def settled (before rotation : Nat) (entries : Dictionary) : Dictionary :=
  if rotation ≠ before then entries.set "Rotate" (.integer (rotation % 360 : Nat)) else entries

theorem turned_settled (found : paged.PageAt index page at' entries) (before rotation : Nat) :
    paged.Turned (paged.putDictionary at' (settled before rotation entries)) index page at' entries
      (settled before rotation entries) := by
  unfold settled
  split
  · exact .setRotate found _
  · exact (Turned.refl found).sameDocument found.putDictionary_self

theorem settled_orderly (orderly : paged.Orderly) (found : paged.PageAt index page at' entries)
    (before rotation : Nat) :
    (paged.putDictionary at' (settled before rotation entries)).Orderly := by
  unfold settled
  split
  · exact orderly.setRotate found _
  · exact found.putDictionary_self.orderly orderly

/-- Suspending its rotation changes one entry of a page at most. -/
theorem turned_of_suspendRotation (found : paged.PageAt index page at' entries)
    (suspended : suspendRotation index before paged = .ok suspended? opened) :
    ∃ own, paged.Turned opened index page at' entries own ∧
      opened.SameDocument (paged.putDictionary at' own) ∧
      ∀ value, own.set "Rotate" value = entries.set "Rotate" value := by
  rcases suspendRotation_eq_ok suspended with ⟨_, rfl⟩ | ⟨page', at'', own, there, _, rfl⟩
  · exact ⟨entries, .refl found, found.putDictionary_self.symm, fun _ => rfl⟩
  · obtain ⟨rfl, rfl, rfl⟩ := found.unique there
    exact ⟨_, .setRotate found _, .refl _, fun value => Dictionary.put_put value⟩

/-- A page is rotated as decided, or gets back the rotation that it had. -/
theorem settle_eq (found : paged.PageAt index page at' entries)
    (suspended : suspendRotation index before paged = .ok suspended? opened)
    (same : extracted.SameDocument opened) (rotation : Nat) :
    ∃ between,
      (if rotation ≠ before then setRotation index rotation
        else resumeRotation index suspended?) extracted = .ok () between ∧
      between.SameDocument (paged.putDictionary at' (settled before rotation entries)) := by
  unfold settled
  split
  · obtain ⟨own, turned, put, replaced⟩ := turned_of_suspendRotation found suspended
    refine ⟨_, changePage_of_pageAt (same.pageAt turned.there) _, ?_⟩
    rw [replaced]
    exact ((same.trans put).putDictionary at' _).trans
      (putDictionary_putDictionary paged at' _ own)
  · obtain ⟨last, resumed, restored⟩ := resumeRotation_of_suspendRotation suspended same
    exact ⟨last, resumed, restored.trans found.putDictionary_self.symm⟩

end PageEdit

namespace Arithmetic

open PageEdit

variable {α : Type} [Scalar α] (arithmetic : Arithmetic α) {paged opened extracted : PagedStore}
  {index page at' before : Nat} {entries : Dictionary} {suspended? : Option (Option Object)}
  {cropBox : Rect α}

/-- The content of a page is turned by an operator in front of it. -/
theorem rotateContents_of_pageAt (found : paged.PageAt index page at' entries)
    (crop : paged.cropBox index = .ok cropBox) (degrees : α) :
    arithmetic.rotateContents index degrees paged =
      .ok () (paged.prepended at' entries
        (arithmetic.written (.rotationAbout degrees cropBox.centre))) := by
  unfold rotateContents
  rw [bind_of_ok (read_of_ok crop), bind_of_ok (prepend_of_pageAt found _)]
  rfl

/-- Once its rotation is settled, a page is straightened if it is skewed. -/
theorem straighten_of_settled {between : PagedStore} {options : ProcessOptions α}
    {decision : DeskewDecision α}
    (ended : (if decision.finalRotation options.deskew before ≠ before then
        setRotation index (decision.finalRotation options.deskew before)
      else resumeRotation index suspended?) extracted = .ok () between) :
    arithmetic.straighten options index decision before suspended? extracted = (do
      if decision.correctedSkew options.deskew != 0.0 then
        arithmetic.rotateContents index (-decision.correctedSkew options.deskew)
      return decision.finalRotation options.deskew before : PageEdit Nat) between := by
  unfold straighten
  dsimp only
  split at ended
  · next other =>
    rw [if_pos other]
    exact bind_of_ok ended
  · next kept =>
    rw [if_neg kept]
    exact bind_of_ok ended

/-- **A page is left as decided**: with its rotation settled, and behind a transform, if it is
skewed. -/
theorem straighten_eq (found : paged.PageAt index page at' entries)
    (crop : paged.cropBox index = .ok cropBox)
    (suspended : suspendRotation index before paged = .ok suspended? opened)
    (same : extracted.SameDocument opened) (options : ProcessOptions α)
    (decision : DeskewDecision α) :
    ∃ between,
      between.SameDocument (paged.putDictionary at'
        (settled before (decision.finalRotation options.deskew before) entries)) ∧
      arithmetic.straighten options index decision before suspended? extracted =
        .ok (decision.finalRotation options.deskew before)
          (if decision.correctedSkew options.deskew != 0.0 then
            between.prepended at'
              (settled before (decision.finalRotation options.deskew before) entries)
              (arithmetic.written
                (.rotationAbout (-decision.correctedSkew options.deskew) cropBox.centre))
          else between) := by
  obtain ⟨between, ended, kept⟩ :=
    settle_eq found suspended same (decision.finalRotation options.deskew before)
  refine ⟨between, kept, ?_⟩
  have turned := (turned_settled found _ _).sameDocument kept
  rw [arithmetic.straighten_of_settled ended]
  split
  · exact bind_of_ok (arithmetic.rotateContents_of_pageAt turned.there (turned.cropBox crop) _)
  · rfl

end Arithmetic

end PlacedText
