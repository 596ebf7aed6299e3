import ApiOutline.Outline.Member

/-!
# Forests of members

`Member.preorder` lists a member and all that is nested in it, each before what is nested in it, and
`preorderOf` does so for a forest. What is said of every member at any depth is said of these lists,
and counting the members of a file counts the kinds in its list.
-/

namespace ApiOutline.Outline

mutual

/-- A member and all that is nested in it, in the order of their lines in an outline. -/
def Member.preorder : Member → List Member
  | ⟨kind, signature, line, isStatic, doc, baseTypes, attributes, children⟩ =>
    ⟨kind, signature, line, isStatic, doc, baseTypes, attributes, children⟩ :: preorderOf children

/-- The members of a forest and all that is nested in them. -/
def preorderOf : List Member → List Member
  | [] => []
  | member :: members => member.preorder ++ preorderOf members

end

/-- A member comes before all that is nested in it. -/
theorem Member.preorder_eq (member : Member) :
    member.preorder = member :: preorderOf member.children := by
  cases member
  rfl

@[simp]
theorem preorderOf_nil : preorderOf [] = [] := rfl

@[simp]
theorem preorderOf_cons (member : Member) (members : List Member) :
    preorderOf (member :: members) = member.preorder ++ preorderOf members := rfl

/-- The members of two forests, one after the other. -/
@[simp]
theorem preorderOf_append (members others : List Member) :
    preorderOf (members ++ others) = preorderOf members ++ preorderOf others := by
  induction members with
  | nil => rfl
  | cons member members ih => simp [ih]

/-! ## Counting -/

/-- The numbers of namespaces, types and methods in a list of kinds. -/
def tally (kinds : List Kind) : Counts where
  namespaces := kinds.count .nameSpace
  types := kinds.countP Kind.isType
  methods := kinds.countP Kind.isCallable

/-- Numbers are added kind by kind. -/
theorem Counts.add_eq (a b : Counts) :
    a + b = ⟨a.namespaces + b.namespaces, a.types + b.types, a.methods + b.methods⟩ := rfl

/-- Numbers in two lists add up. -/
theorem tally_append (kinds others : List Kind) :
    tally (kinds ++ others) = tally kinds + tally others := by
  simp [tally, Counts.add_eq]

/-- One more kind is counted once. -/
theorem tally_cons (kind : Kind) (kinds : List Kind) :
    tally (kind :: kinds) = Counts.ofKind kind + tally kinds := by
  have hone : tally [kind] = Counts.ofKind kind := by cases kind <;> rfl
  rw [← hone, ← tally_append, List.singleton_append]

-- The recursion of `Member.counts`: the member itself, then what is nested in it.
mutual

/-- A member is counted with all that is nested in it. -/
theorem Member.counts_eq_tally :
    ∀ member : Member, member.counts = tally (member.preorder.map Member.kind)
  | ⟨kind, signature, line, isStatic, doc, baseTypes, attributes, children⟩ => by
    rw [Member.preorder, List.map_cons, tally_cons, ← countMembers_eq_tally children]
    rfl

/-- Counting a forest counts the kinds of all its members. -/
theorem countMembers_eq_tally :
    ∀ members : List Member, countMembers members = tally ((preorderOf members).map Member.kind)
  | [] => rfl
  | member :: members => by
    rw [countMembers, Member.counts_eq_tally member, countMembers_eq_tally members, preorderOf_cons,
      List.map_append, tally_append]

end

/-- Counting files counts the kinds of all their members. -/
theorem countFiles_eq_tally (files : List FileMap) :
    countFiles files =
      tally ((files.flatMap fun file => preorderOf file.members).map Member.kind) := by
  induction files with
  | nil => rfl
  | cons file files ih =>
    rw [countFiles, ih, countMembers_eq_tally, List.flatMap_cons, List.map_append, tally_append]

end ApiOutline.Outline
