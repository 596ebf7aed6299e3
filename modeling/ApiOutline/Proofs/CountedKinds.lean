import ApiOutline.Proofs.Forest
import Mathlib.Data.List.Basic

/-!
# Counting sees only kinds

The numbers of namespaces, types and methods in files are those in the list of the kinds of all their
members, so they depend on which kinds there are and how often, and on nothing else: not on what is
nested in what, not on the order of members, and not on the file that a member is in. The totals of a
run likewise depend on which projects were added and not on when.
-/

namespace ApiOutline.Outline

/-- The kinds of the members of files at all depths, in the order of their outlines. -/
def kindsIn (files : List FileMap) : List Kind :=
  (files.flatMap fun file => preorderOf file.members).map Member.kind

/-! ## Numbers of kinds -/

/-- A list of kinds in another order has the same numbers in it. -/
theorem tally_perm {kinds others : List Kind} (h : kinds.Perm others) : tally kinds = tally others := by
  unfold tally
  rw [h.count_eq, h.countP_eq, h.countP_eq]

/-- The numbers in a list of kinds, with the kinds of types and of methods by name. -/
theorem tally_eq (kinds : List Kind) :
    tally kinds = {
      namespaces := kinds.count .nameSpace
      types := kinds.countP (· ∈ [Kind.classType, .interfaceType, .record, .enumeration])
      methods := kinds.countP (· ∈ [Kind.method, .constructor]) } := by
  -- Both tests are lists of kinds, and there are eight kinds to try.
  have htypes : Kind.isType =
      fun kind => decide (kind ∈ [Kind.classType, .interfaceType, .record, .enumeration]) := by
    funext kind
    cases kind <;> rfl
  have hmethods : Kind.isCallable = fun kind => decide (kind ∈ [Kind.method, .constructor]) := by
    funext kind
    cases kind <;> rfl
  rw [tally, htypes, hmethods]

/-- The kinds in two lists of files are those in the first and then those in the second. -/
theorem kindsIn_append (files others : List FileMap) :
    kindsIn (files ++ others) = kindsIn files ++ kindsIn others := by
  simp [kindsIn]

/-! ## Totals of a run -/

/-- The totals of a run after projects are added to it one by one. -/
def RunSummary.addAll (summary : RunSummary) (projects : List Project) : RunSummary :=
  projects.foldl (fun summary project => summary.add project.totals) summary

/-- Numbers are added in any order. -/
theorem Counts.add_right_comm (a b c : Counts) : a + b + c = a + c + b := by
  simp [Counts.add_eq, Int.add_right_comm]

/-- Of two projects that are added one after the other, either can be the first. -/
theorem RunSummary.add_right_comm (summary : RunSummary) (a b : Totals) :
    (summary.add a).add b = (summary.add b).add a := by
  simp [RunSummary.add, Int.add_right_comm, Counts.add_right_comm]

/-- The totals of a run do not depend on the order of its projects. -/
theorem RunSummary.addAll_perm (summary : RunSummary) {projects others : List Project}
    (h : projects.Perm others) : summary.addAll projects = summary.addAll others := by
  refine h.foldl_eq' ?_ summary
  intro a _ b _ summary
  exact summary.add_right_comm a.totals b.totals

/-! ## Counting files -/

/-- Counting is exact and blind to shape. The numbers in files are how often each kind is among those of
the members at all depths; so files whose members have the same kinds equally often have the same numbers,
however the members are nested, ordered and spread over files. The numbers in two lists of files add up,
and the totals of a run do not depend on the order in which projects were added. -/
theorem counting_exact_and_blind_to_shape :
    (∀ files : List FileMap, countFiles files = {
      namespaces := (kindsIn files).count .nameSpace
      types := (kindsIn files).countP
        (· ∈ [Kind.classType, .interfaceType, .record, .enumeration])
      methods := (kindsIn files).countP (· ∈ [Kind.method, .constructor]) }) ∧
    (∀ files others : List FileMap, (kindsIn files).Perm (kindsIn others) →
      countFiles files = countFiles others) ∧
    (∀ files others : List FileMap,
      countFiles (files ++ others) = countFiles files + countFiles others) ∧
    ∀ (summary : RunSummary) (projects others : List Project), projects.Perm others →
      summary.addAll projects = summary.addAll others := by
  -- Every clause is one about the list of kinds in the files.
  have hcount : ∀ files : List FileMap, countFiles files = tally (kindsIn files) :=
    countFiles_eq_tally
  refine ⟨?_, ?_, ?_, ?_⟩
  · intro files
    rw [hcount, tally_eq]
  · intro files others hkinds
    rw [hcount, hcount, tally_perm hkinds]
  · intro files others
    rw [hcount, hcount, hcount, kindsIn_append, tally_append]
  · intro summary projects others horder
    exact summary.addAll_perm horder

/-- A namespace with a class in it that has a constructor, a property and an enumeration, and a method
inside the property, where no walk would put one. -/
def nestedFiles : List FileMap :=
  [⟨"A.cs", [
    { kind := .nameSpace, signature := "A", children := [
      { kind := .classType, signature := "B", children := [
        { kind := .constructor, signature := "B()" },
        { kind := .property, signature := "int C", children := [
          { kind := .method, signature := "int D()" }] },
        { kind := .enumeration, signature := "E" }] }] }]⟩]

/-- Members of the same kinds side by side, in another order and in three files. -/
def spreadFiles : List FileMap :=
  [⟨"E.cs", [{ kind := .enumeration, signature := "F" }, { kind := .method, signature := "void G()" }]⟩,
    ⟨"B.cs", []⟩,
    ⟨"A.cs", [{ kind := .property, signature := "int H" }, { kind := .constructor, signature := "I()" },
      { kind := .classType, signature := "I" }, { kind := .nameSpace, signature := "J" }]⟩]

/-- The two lists of files have the same numbers of kinds. -/
theorem nested_counted_like_spread :
    (kindsIn nestedFiles).Perm (kindsIn spreadFiles) ∧
      countFiles nestedFiles = countFiles spreadFiles ∧ countFiles nestedFiles = ⟨1, 2, 2⟩ ∧
      RunSummary.addAll {} [⟨"P", nestedFiles, ⟨1, 2, 2⟩, []⟩, ⟨"Q", spreadFiles, ⟨0, 7, 1⟩, []⟩] =
        RunSummary.addAll {} [⟨"Q", spreadFiles, ⟨0, 7, 1⟩, []⟩, ⟨"P", nestedFiles, ⟨1, 2, 2⟩, []⟩] := by
  have hkinds : (kindsIn nestedFiles).Perm (kindsIn spreadFiles) := by decide
  obtain ⟨-, hshape, -, horder⟩ := counting_exact_and_blind_to_shape
  exact ⟨hkinds, hshape _ _ hkinds, by decide, horder _ _ _ (.swap _ _ [])⟩

end ApiOutline.Outline
