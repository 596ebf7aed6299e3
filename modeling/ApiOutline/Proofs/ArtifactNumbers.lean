import ApiOutline.Artifact.Listing
import ApiOutline.Proofs.Decimal
import ApiOutline.Proofs.Forest

/-!
# The numbers of an artifact

A number is written if it has no more than `maxDigits` digits, which is to say that it is below a power
of ten (`Fits`). An artifact shows the totals of a project and the lines of its members. It has a text
if all of these fit (`NumbersFit`), and otherwise rendering it fails.
-/

namespace ApiOutline.Artifact

open Number (maxDigits isWritable Unwritable)
open Outline (Member FileMap Project Totals preorderOf preorderOf_cons)

/-- Whether a number has no more digits than are written. -/
def Fits (i : Int) : Prop :=
  i.natAbs < 10 ^ maxDigits

/-- A number is written if it fits. -/
theorem isWritable_iff (i : Int) : isWritable i = true ↔ Fits i := by
  rw [isWritable, decide_eq_true_eq, Number.length_digits_le_iff (by decide), Fits]

/-- Zero fits. -/
theorem fits_zero : Fits 0 := by
  change 0 < 10 ^ maxDigits
  exact Nat.pow_pos (by omega)

/-- Whether the line of a member fits, if it has one. -/
def LineFits (member : Member) : Prop :=
  ∀ line, member.line = some line → Fits line

/-- Whether every number that an artifact of a project shows fits. -/
structure NumbersFit (project : Project) : Prop where
  files : Fits project.files.length
  namespaces : Fits project.counts.namespaces
  types : Fits project.counts.types
  methods : Fits project.counts.methods
  lines : ∀ file ∈ project.files, ∀ member ∈ preorderOf file.members, LineFits member

/-! ## The text artifact -/

/-- Totals are written if each of them fits. -/
theorem totalsWritable_iff (totals : Totals) :
    totalsWritable totals = true ↔ Fits totals.files ∧ Fits totals.counts.namespaces ∧
      Fits totals.counts.types ∧ Fits totals.counts.methods := by
  simp only [totalsWritable, Bool.and_eq_true, isWritable_iff, and_assoc]

mutual

/-- A member is written if its line and those of all in it fit. -/
theorem memberWritable_iff : ∀ member : Member,
    memberWritable member = true ↔ ∀ inner ∈ member.preorder, LineFits inner
  -- The members in this one are members of the forest below it, which is the induction.
  | ⟨kind, signature, line, isStatic, doc, baseTypes, attributes, children⟩ => by
    rw [memberWritable, Bool.and_eq_true, forestWritable_iff children, Member.preorder_eq,
      List.forall_mem_cons, Option.all_eq_true]
    simp only [isWritable_iff, LineFits]

/-- A forest is written if the lines of all members in it fit. -/
theorem forestWritable_iff : ∀ members : List Member,
    forestWritable members = true ↔ ∀ inner ∈ preorderOf members, LineFits inner
  | [] => by simp [forestWritable]
  | member :: members => by
    rw [forestWritable, Bool.and_eq_true, memberWritable_iff member, forestWritable_iff members,
      preorderOf_cons, List.forall_mem_append]

end

/-- A project is written if all its numbers fit. -/
theorem numbersWritable_iff {project : Project} :
    numbersWritable project = true ↔ NumbersFit project := by
  rw [numbersWritable, Bool.and_eq_true, totalsWritable_iff, List.all_eq_true]
  simp only [forestWritable_iff]
  exact ⟨fun h => ⟨h.1.1, h.1.2.1, h.1.2.2.1, h.1.2.2.2, h.2⟩,
    fun h => ⟨⟨h.files, h.namespaces, h.types, h.methods⟩, h.lines⟩⟩

instance (project : Project) : Decidable (NumbersFit project) :=
  decidable_of_iff _ numbersWritable_iff

/-- A project has a text artifact if its numbers fit, and then it is that of the lines. -/
theorem renderText_eq_ok_iff {project : Project} {text : String} :
    renderText project = .ok text ↔ NumbersFit project ∧ text = listingText project := by
  rw [renderText, ← numbersWritable_iff]
  split_ifs with h
  · simp [h, eq_comm]
  · simp [h]

end ApiOutline.Artifact
