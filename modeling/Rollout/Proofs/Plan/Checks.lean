/-
# Rollout.Proofs.Plan.Checks — what the checks of a graph find

`Plan.check` passes exactly when every name is declared once and every artifact is
sound: what it links is declared as a library, and what it refers to is declared
(`check_eq_ok_iff`).  Otherwise it tells of the first fault: a repeated name before
any dependency, an earlier artifact before a later one, and within an artifact its
libraries before its references (`check_eq_duplicate_iff`, `check_eq_dependency_iff`).
-/
import Mathlib.Data.List.Nodup
import Rollout.Plan
import Rollout.Proofs.Checked

namespace Rollout.Plan

set_option autoImplicit false

/-! ## Repeated names -/

/-- The first name of a list that stood in it before. -/
def FirstRepeated (names : List String) (name : String) : Prop :=
  ∃ before after, names = before ++ name :: after ∧ before.Nodup ∧ name ∈ before

theorem firstRepeated?_eq_none {seen names : List String} :
    firstRepeated? seen names = none ↔ names.Nodup ∧ ∀ name ∈ names, name ∉ seen := by
  induction names generalizing seen with
  | nil => simp [firstRepeated?]
  | cons first rest ih =>
      simp only [firstRepeated?, List.contains_iff_mem, List.nodup_cons, List.forall_mem_cons]
      split
      · simp_all
      · simp only [ih, List.mem_cons, not_or]
        constructor
        · rintro ⟨nodup, others⟩
          exact ⟨⟨fun again => (others first again).1 rfl, nodup⟩, by assumption,
            fun name member => (others name member).2⟩
        · rintro ⟨⟨fresh, nodup⟩, -, others⟩
          exact ⟨nodup, fun name member => ⟨fun same => fresh (same ▸ member), others name member⟩⟩

theorem firstRepeated?_eq_some {seen names : List String} {name : String} :
    firstRepeated? seen names = some name ↔
      ∃ before after, names = before ++ name :: after ∧ before.Nodup ∧
        (∀ earlier ∈ before, earlier ∉ seen) ∧ (name ∈ seen ∨ name ∈ before) := by
  induction names generalizing seen with
  | nil => simp [firstRepeated?]
  | cons first rest ih =>
      simp only [firstRepeated?, List.contains_iff_mem]
      split
      next old =>
        constructor
        · intro same
          cases same
          exact ⟨[], rest, rfl, List.nodup_nil, by simp, Or.inl old⟩
        · rintro ⟨before, after, split, -, others, -⟩
          rcases before with _ | ⟨head, before⟩
          · cases split
            rfl
          · cases split
            exact absurd old (others first (List.mem_cons_self ..))
      next new =>
        rw [ih]
        constructor
        · rintro ⟨before, after, rfl, nodup, others, again⟩
          refine ⟨first :: before, after, rfl, ?_, ?_, ?_⟩
          · exact List.nodup_cons.mpr
              ⟨fun member => others first member (List.mem_cons_self ..), nodup⟩
          · exact List.forall_mem_cons.mpr
              ⟨new, fun earlier member old => others earlier member (List.mem_cons_of_mem _ old)⟩
          · simpa [or_assoc, or_comm, or_left_comm] using again
        · rintro ⟨before, after, split, nodup, others, again⟩
          rcases before with _ | ⟨head, before⟩
          · cases split
            simp [new] at again
          · cases split
            obtain ⟨fresh, nodup⟩ := List.nodup_cons.mp nodup
            obtain ⟨-, others⟩ := List.forall_mem_cons.mp others
            refine ⟨before, after, rfl, nodup, fun earlier member old => ?_, ?_⟩
            · rcases List.mem_cons.mp old with rfl | old
              · exact fresh member
              · exact others earlier member old
            · simpa [or_assoc, or_comm, or_left_comm] using again

theorem firstRepeated?_iff {names : List String} {name : String} :
    firstRepeated? [] names = some name ↔ FirstRepeated names name := by
  simp [firstRepeated?_eq_some, FirstRepeated]

theorem firstRepeated?_none_iff {names : List String} :
    firstRepeated? [] names = none ↔ names.Nodup := by
  simp [firstRepeated?_eq_none]

/-! ## Dependencies -/

/-- What is wrong with a library that an artifact links. -/
inductive LinkFault (artifacts : List Artifact) (a : Artifact) (library : String) : Fault → Prop
  | undeclared (absent : ∀ b ∈ artifacts, b.name ≠ library) :
      LinkFault artifacts a library (.unknownDependency a.name library)
  | contract (b : Artifact) (declared : b ∈ artifacts) (named : b.name = library)
      (kind : b.kind = .contract) : LinkFault artifacts a library (.notALibrary a.name library)

/-- What is wrong with an artifact that a constructor argument refers to. -/
inductive ReferenceFault (artifacts : List Artifact) (a : Artifact) (name : String) : Fault → Prop
  | undeclared (absent : ∀ b ∈ artifacts, b.name ≠ name) :
      ReferenceFault artifacts a name (.unknownDependency a.name name)

/-- What is wrong with an artifact: the first fault of its libraries, or, when these are
sound, of its references. -/
def ArtifactFault (artifacts : List Artifact) (a : Artifact) (fault : Fault) : Prop :=
  Checked.First (LinkFault artifacts a) a.libraries fault ∨
    ((∀ library ∈ a.libraries, ∀ other, ¬ LinkFault artifacts a library other) ∧
      Checked.First (ReferenceFault artifacts a) a.references fault)

/-- What is wrong with the dependencies of a graph: the fault of the first artifact that
has one. -/
def DependencyFault (artifacts : List Artifact) : Fault → Prop :=
  Checked.First (ArtifactFault artifacts) artifacts

section Distinct

variable {artifacts : List Artifact} (distinct : (artifacts.map (·.name)).Nodup)

theorem find?_eq_none_iff {name : String} :
    find? artifacts name = none ↔ ∀ b ∈ artifacts, b.name ≠ name := by
  simp [find?]

include distinct

/-- With distinct names, a name finds the artifact that bears it. -/
theorem find?_eq_some_iff {name : String} {b : Artifact} :
    find? artifacts name = some b ↔ b ∈ artifacts ∧ b.name = name := by
  constructor
  · intro found
    exact ⟨List.mem_of_find?_eq_some found, by simpa using List.find?_some found⟩
  · rintro ⟨declared, rfl⟩
    cases found : find? artifacts b.name with
    | none => exact absurd rfl (find?_eq_none_iff.mp found b declared)
    | some c =>
        have named : c.name = b.name := by simpa using List.find?_some found
        rw [List.inj_on_of_nodup_map distinct (List.mem_of_find?_eq_some found) declared named]

theorem checkLibrary_eq_error_iff (a : Artifact) (library : String) (fault : Fault) :
    checkLibrary artifacts a library = .error fault ↔ LinkFault artifacts a library fault := by
  constructor
  · intro failed
    simp only [checkLibrary] at failed
    split at failed
    next absent =>
      cases failed
      exact .undeclared (find?_eq_none_iff.mp absent)
    next b found =>
      obtain ⟨declared, named⟩ := (find?_eq_some_iff distinct).mp found
      split at failed
      next => cases failed
      next other =>
        cases failed
        refine .contract b declared named ?_
        cases kind : b.kind <;> simp_all [Artifact.isLibrary]
  · rintro (absent | ⟨b, declared, named, kind⟩)
    · simp [checkLibrary, find?_eq_none_iff.mpr absent]
    · simp [checkLibrary, (find?_eq_some_iff distinct).mpr ⟨declared, named⟩, Artifact.isLibrary, kind]

omit distinct in
theorem checkReference_eq_error_iff (artifacts : List Artifact) (a : Artifact) (name : String)
    (fault : Fault) :
    checkReference artifacts a name = .error fault ↔ ReferenceFault artifacts a name fault := by
  constructor
  · intro failed
    simp only [checkReference] at failed
    split at failed
    next absent =>
      cases failed
      exact .undeclared (find?_eq_none_iff.mp absent)
    next => cases failed
  · rintro ⟨absent⟩
    simp [checkReference, find?_eq_none_iff.mpr absent]

theorem checkArtifact_eq_error_iff (a : Artifact) (fault : Fault) :
    checkArtifact artifacts a = .error fault ↔ ArtifactFault artifacts a fault := by
  have links := checkLibrary_eq_error_iff distinct a
  have references := checkReference_eq_error_iff artifacts a
  simp only [checkArtifact, Checked.after_eq_error, Checked.forM_eq_error_iff_first links,
    Checked.forM_eq_error_iff_first references, ArtifactFault, Checked.forM_eq_ok_iff links]

end Distinct

/-- **Sound artifacts.**  No dependency has a fault exactly when every linked artifact is
declared as a library and every artifact that is referred to is declared. -/
theorem forall_not_artifactFault {artifacts : List Artifact} {a : Artifact} :
    (∀ fault, ¬ ArtifactFault artifacts a fault) ↔
      (∀ name ∈ a.libraries, (∃ b ∈ artifacts, b.name = name) ∧
        ∀ b ∈ artifacts, b.name = name → b.kind = .library) ∧
      ∀ name ∈ a.references, ∃ b ∈ artifacts, b.name = name := by
  have link : ∀ name, (∀ fault, ¬ LinkFault artifacts a name fault) ↔
      (∃ b ∈ artifacts, b.name = name) ∧ ∀ b ∈ artifacts, b.name = name → b.kind = .library := by
    intro name
    constructor
    · intro none
      refine ⟨?_, fun b member named => ?_⟩
      · by_contra absent
        exact none _ (.undeclared fun b member named => absent ⟨b, member, named⟩)
      · cases kind : b.kind with
        | library => rfl
        | contract => exact absurd (.contract b member named kind) (none _)
    · rintro ⟨⟨b, member, named⟩, libraries⟩ _ (absent | ⟨c, member', named', kind⟩)
      · exact absent b member named
      · simp [libraries c member' named'] at kind
  have reference : ∀ name, (∀ fault, ¬ ReferenceFault artifacts a name fault) ↔
      ∃ b ∈ artifacts, b.name = name := by
    intro name
    constructor
    · intro none
      by_contra absent
      exact none _ (.undeclared fun b member named => absent ⟨b, member, named⟩)
    · rintro ⟨b, member, named⟩ _ ⟨absent⟩
      exact absent b member named
  have links : (∀ fault, ¬ Checked.First (LinkFault artifacts a) a.libraries fault) ↔
      ∀ name ∈ a.libraries, (∃ b ∈ artifacts, b.name = name) ∧
        ∀ b ∈ artifacts, b.name = name → b.kind = .library :=
    Checked.forall_not_first.trans (forall_congr' fun name => forall_congr' fun _ => link name)
  have references : (∀ fault, ¬ Checked.First (ReferenceFault artifacts a) a.references fault) ↔
      ∀ name ∈ a.references, ∃ b ∈ artifacts, b.name = name :=
    Checked.forall_not_first.trans (forall_congr' fun name => forall_congr' fun _ => reference name)
  rw [← links, ← references]
  constructor
  · intro none
    have sound : ∀ fault, ¬ Checked.First (LinkFault artifacts a) a.libraries fault :=
      fun fault found => none fault (Or.inl found)
    exact ⟨sound, fun fault found =>
      none fault (Or.inr ⟨Checked.forall_not_first.mp sound, found⟩)⟩
  · rintro ⟨sound, declared⟩ fault (found | ⟨-, found⟩)
    · exact sound fault found
    · exact declared fault found

/-! ## The whole check -/

variable {artifacts : List Artifact}

/-- **What passes.** -/
theorem check_eq_ok_iff :
    check artifacts = .ok () ↔ (artifacts.map (·.name)).Nodup ∧
      ∀ a ∈ artifacts, ∀ fault, ¬ ArtifactFault artifacts a fault := by
  unfold check
  split
  next name repeated =>
    obtain ⟨before, after, split, -, again⟩ := firstRepeated?_iff.mp repeated
    simp only [throw, throwThe, MonadExceptOf.throw, reduceCtorEq, false_iff, not_and]
    intro distinct
    rw [split, List.nodup_append] at distinct
    exact absurd rfl (distinct.2.2 name again name (List.mem_cons_self ..))
  next none =>
    have distinct := firstRepeated?_none_iff.mp none
    rw [Checked.forM_eq_ok_iff (checkArtifact_eq_error_iff distinct)]
    exact ⟨fun passed => ⟨distinct, passed⟩, And.right⟩

/-- **What is found.** -/
theorem check_eq_error_iff {fault : Fault} :
    check artifacts = .error fault ↔
      (∃ name, fault = .duplicate name ∧ FirstRepeated (artifacts.map (·.name)) name) ∨
        ((artifacts.map (·.name)).Nodup ∧ DependencyFault artifacts fault) := by
  unfold check
  split
  next name repeated =>
    have first := firstRepeated?_iff.mp repeated
    simp only [throw, throwThe, MonadExceptOf.throw, Except.error.injEq]
    constructor
    · rintro rfl
      exact Or.inl ⟨name, rfl, first⟩
    · rintro (⟨other, rfl, again⟩ | ⟨distinct, -⟩)
      · rw [← firstRepeated?_iff, repeated] at again
        cases again
        rfl
      · rw [firstRepeated?_none_iff.mpr distinct] at repeated
        cases repeated
  next none =>
    have distinct := firstRepeated?_none_iff.mp none
    rw [Checked.forM_eq_error_iff_first (checkArtifact_eq_error_iff distinct)]
    constructor
    · intro found
      exact Or.inr ⟨distinct, found⟩
    · rintro (⟨name, -, repeated⟩ | ⟨-, found⟩)
      · rw [← firstRepeated?_iff, none] at repeated
        cases repeated
      · exact found

/-- A fault of dependencies is one of two kinds. -/
theorem ArtifactFault.shape {a : Artifact} {fault : Fault} (found : ArtifactFault artifacts a fault) :
    (∃ name, fault = .unknownDependency a.name name) ∨
      ∃ library, fault = .notALibrary a.name library := by
  rcases found with ⟨_, item, _, -, -, link⟩ | ⟨-, _, item, _, -, -, ⟨-⟩⟩
  · cases link with
    | undeclared => exact Or.inl ⟨item, rfl⟩
    | contract => exact Or.inr ⟨item, rfl⟩
  · exact Or.inl ⟨item, rfl⟩

end Rollout.Plan
