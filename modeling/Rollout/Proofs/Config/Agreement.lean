/-
# Rollout.Proofs.Config.Agreement — a configuration and a plan refuse the same graphs

The artifacts of a configuration are checked when it is read, and once more when they are
planned, each time in a way of its own.  Both find the same first fault
(`Agrees.findSome?_forM`): a repeated name, and then, artifact by artifact, a library that
is not declared or is none, and a reference that is not declared.  A cycle is left to the
plan.

What only the configuration refuses are no artifacts at all and blank names
(`checkArtifacts_agrees_build`).
-/
import Rollout.Config.Basic
import Rollout.Proofs.Plan.Building

namespace Rollout

set_option autoImplicit false

/-! ## Dependencies, each once -/

namespace Checked

variable {α ε : Type} {check : α → Except ε Unit}

/-- What is met again has passed before, or is not come to. -/
theorem forM_addNew [DecidableEq α] (kept : List α) (a : α) :
    (addNew kept a).forM check = (kept ++ [a]).forM check := by
  unfold addNew
  split
  next old =>
    refine Eq.trans ?_ List.forM_append.symm
    change kept.forM check = (kept.forM check >>= fun _ => [a].forM check)
    cases passed : kept.forM check with
    | error fault => rfl
    | ok =>
        have again : [a].forM check = .ok () :=
          forM_eq_ok.mpr fun _ member => List.mem_singleton.mp member ▸ forM_eq_ok.mp passed a old
        exact again.symm
  next => rfl

/-- A check finds the same in a list whether or not its repetitions are left out. -/
theorem forM_distinct [DecidableEq α] (items : List α) :
    (distinct items).forM check = items.forM check := by
  have kept : ∀ kept : List α, (items.foldl addNew kept).forM check = (kept ++ items).forM check := by
    induction items with
    | nil =>
        intro kept
        rw [List.foldl_nil, List.append_nil]
    | cons a rest ih =>
        intro kept
        calc (rest.foldl addNew (addNew kept a)).forM check
            = (addNew kept a ++ rest).forM check := ih _
          _ = ((addNew kept a).forM check >>= fun _ => rest.forM check) := List.forM_append
          _ = ((kept ++ [a]).forM check >>= fun _ => rest.forM check) := by rw [forM_addNew]
          _ = (kept ++ [a] ++ rest).forM check := List.forM_append.symm
          _ = (kept ++ a :: rest).forM check := by rw [List.append_assoc, List.singleton_append]
  exact kept []

end Checked

namespace Plan

/-- **Dependencies.**  Behind its libraries, an artifact may as well be checked for all that
it depends on, each once, as for what it refers to. -/
theorem checkArtifact_eq_dependencies (artifacts : List Artifact) (a : Artifact) :
    checkArtifact artifacts a = (a.libraries.forM (checkLibrary artifacts a) >>= fun _ =>
      a.dependencies.forM (checkReference artifacts a)) := by
  unfold checkArtifact Artifact.dependencies
  cases linked : a.libraries.forM (checkLibrary artifacts a) with
  | error fault => rfl
  | ok =>
      have declared : a.libraries.forM (checkReference artifacts a) = .ok () := by
        refine Checked.forM_eq_ok.mpr fun library member => ?_
        have passed := Checked.forM_eq_ok.mp linked library member
        unfold checkLibrary at passed
        unfold checkReference
        cases found : find? artifacts library with
        | none =>
            rw [found] at passed
            cases passed
        | some target => rfl
      have joined : (a.libraries ++ a.references).forM (checkReference artifacts a) =
          (a.libraries.forM (checkReference artifacts a) >>= fun _ =>
            a.references.forM (checkReference artifacts a)) := List.forM_append
      rw [Checked.forM_distinct, joined, declared]
      rfl

end Plan

namespace Config

/-! ## The same fault -/

/-- A complaint about the artifacts of a configuration, and the fault of their graph that it
tells of. -/
inductive Names (artifacts : List Artifact) : Complaint → Plan.Fault → Prop
  | duplicate (name : String) : Names artifacts (.duplicate name) (.duplicate name)
  | unknownLibrary (a : Artifact) (declared : a ∈ artifacts) (library : String)
      (linked : library ∈ a.libraries) :
      Names artifacts (.unknownLibrary a.name library) (.unknownDependency a.name library)
  | unknownReference (a : Artifact) (declared : a ∈ artifacts) (reference : String)
      (referred : reference ∈ a.references) :
      Names artifacts (.unknownReference a.name reference) (.unknownDependency a.name reference)
  | notALibrary (a : Artifact) (declared : a ∈ artifacts) (library : String)
      (linked : library ∈ a.libraries) :
      Names artifacts (.notALibrary a.name library) (.notALibrary a.name library)

/-- Both have one wording, unless a dependency is not declared: then the complaint says how
it was asked for. -/
theorem Names.message_eq {artifacts : List Artifact} {complaint : Complaint} {fault : Plan.Fault}
    (names : Names artifacts complaint fault) :
    complaint.message = fault.message ∨
      ∃ artifact dependency, fault = .unknownDependency artifact dependency ∧
        (complaint.message = s!"Artifact '{artifact}' links unknown library '{dependency}'" ∨
          complaint.message =
            s!"Artifact '{artifact}' references unknown artifact '{dependency}'") := by
  cases names with
  | duplicate name => exact Or.inl rfl
  | unknownLibrary a _ library _ => exact Or.inr ⟨_, _, rfl, Or.inl rfl⟩
  | unknownReference a _ reference _ => exact Or.inr ⟨_, _, rfl, Or.inr rfl⟩
  | notALibrary a _ library _ => exact Or.inl rfl

/-- A search for a complaint and a check that come to the same end. -/
inductive Agrees (artifacts : List Artifact) : Option Complaint → Except Plan.Fault Unit → Prop
  | passed : Agrees artifacts none (.ok ())
  | failed {complaint : Complaint} {fault : Plan.Fault} (names : Names artifacts complaint fault) :
      Agrees artifacts (some complaint) (.error fault)

variable {artifacts : List Artifact}

/-- What agrees on every element finds the same first fault of a list. -/
theorem Agrees.findSome?_forM {α : Type} {search : α → Option Complaint}
    {check : α → Except Plan.Fault Unit} {items : List α}
    (agrees : ∀ item ∈ items, Agrees artifacts (search item) (check item)) :
    Agrees artifacts (items.findSome? search) (items.forM check) := by
  induction items with
  | nil => exact .passed
  | cons first rest ih =>
      obtain ⟨here, behind⟩ := List.forall_mem_cons.mp agrees
      rw [List.findSome?_cons, Checked.forM_cons]
      generalize search first = found at here
      generalize check first = result at here
      cases here with
      | passed => exact ih behind
      | failed names => exact .failed names

/-- One search behind another. -/
theorem Agrees.or {found found' : Option Complaint} {check check' : Except Plan.Fault Unit}
    (first : Agrees artifacts found check) (second : Agrees artifacts found' check') :
    Agrees artifacts (found.or found') (check >>= fun _ => check') := by
  cases first with
  | passed => exact second
  | failed names => exact .failed names

/-! ## Dependencies -/

section Dependencies

variable {a : Artifact} (declared : a ∈ artifacts)

include declared

theorem agrees_library {library : String} (linked : library ∈ a.libraries) :
    Agrees artifacts
      (match artifacts.find? fun other => other.name == library with
        | none => some (.unknownLibrary a.name library)
        | some target =>
            if target.kind = .library then none else some (.notALibrary a.name library))
      (Plan.checkLibrary artifacts a library) := by
  have same : (artifacts.find? fun other => other.name == library) = Plan.find? artifacts library :=
    rfl
  rw [same, Plan.checkLibrary]
  cases Plan.find? artifacts library with
  | none => exact .failed (.unknownLibrary a declared library linked)
  | some target =>
      by_cases kind : target.kind = .library
      · simp only [Artifact.isLibrary, kind, decide_true, if_true]
        exact .passed
      · simp only [Artifact.isLibrary, kind, decide_false, if_false, Bool.false_eq_true]
        exact .failed (.notALibrary a declared library linked)

theorem agrees_reference {reference : String} (referred : reference ∈ a.references) :
    Agrees artifacts
      (if reference ∉ artifacts.map (·.name) then some (.unknownReference a.name reference)
        else none)
      (Plan.checkReference artifacts a reference) := by
  rw [Plan.checkReference]
  cases found : Plan.find? artifacts reference with
  | none =>
      have absent : reference ∉ artifacts.map (·.name) := fun member => by
        obtain ⟨b, declared, named⟩ := List.mem_map.mp member
        exact Plan.find?_eq_none_iff.mp found b declared named
      rw [if_pos absent]
      exact .failed (.unknownReference a declared reference referred)
  | some b =>
      have named : b.name = reference := by simpa using List.find?_some found
      have present : reference ∈ artifacts.map (·.name) :=
        List.mem_map.mpr ⟨b, List.mem_of_find?_eq_some found, named⟩
      rw [if_neg (not_not_intro present)]
      exact .passed

/-- Both find the same first fault of an artifact. -/
theorem agrees_artifact :
    Agrees artifacts ((wrongLibrary? artifacts a).or (wrongReference? artifacts a))
      (Plan.checkArtifact artifacts a) := by
  refine .or (.findSome?_forM fun library linked => agrees_library declared linked) ?_
  have searched : wrongReference? artifacts a = a.references.findSome? fun reference =>
      if reference ∉ artifacts.map (·.name) then some (.unknownReference a.name reference)
      else none := by
    unfold wrongReference?
    induction a.references with
    | nil => rfl
    | cons first rest ih =>
        rw [List.findSome?_cons, List.find?_cons, ← ih]
        by_cases absent : first ∉ artifacts.map (·.name)
        · simp only [absent, not_false_eq_true, decide_true, if_true, Option.map_some]
        · simp only [absent, decide_false, if_false]
  rw [searched]
  exact .findSome?_forM fun reference referred => agrees_reference declared referred

end Dependencies

/-! ## Names -/

/-- Where no name is blank, only a repeated one is refused. -/
theorem checkNames_of_named {seen names : List String}
    (named : ∀ name ∈ names, isBlankName name = false) :
    checkNames seen names =
      (Plan.firstRepeated? seen names).elim (.ok ()) fun name => .error (.duplicate name) := by
  induction names generalizing seen with
  | nil => rfl
  | cons first rest ih =>
      obtain ⟨here, behind⟩ := List.forall_mem_cons.mp named
      simp only [checkNames, here, Bool.false_eq_true, if_false, Plan.firstRepeated?,
        List.contains_iff_mem]
      by_cases old : first ∈ seen
      · rw [if_pos old, if_pos old]
        rfl
      · rw [if_neg old, if_neg old]
        exact ih behind

/-- Names that pass are not blank. -/
theorem named_of_checkNames {seen names : List String} (passed : checkNames seen names = .ok ()) :
    ∀ name ∈ names, isBlankName name = false := by
  induction names generalizing seen with
  | nil => exact List.forall_mem_nil _
  | cons first rest ih =>
      rw [checkNames] at passed
      split at passed
      next => cases passed
      next here =>
        split at passed
        next => cases passed
        next => exact List.forall_mem_cons.mpr ⟨Bool.not_eq_true _ ▸ here, ih passed⟩

theorem declared_of_checkArtifacts (passed : checkArtifacts artifacts = .ok ()) :
    artifacts ≠ [] := by
  rintro rfl
  cases passed

theorem named_of_checkArtifacts (passed : checkArtifacts artifacts = .ok ()) :
    ∀ a ∈ artifacts, isBlankName a.name = false := by
  have some : artifacts.isEmpty = false :=
    List.isEmpty_eq_false_iff.mpr (declared_of_checkArtifacts passed)
  simp only [checkArtifacts, some] at passed
  exact List.forall_mem_map.mp (named_of_checkNames (Checked.after_eq_ok.mp passed).1)

/-! ## Configurations and plans -/

/-- What reading the artifacts of a configuration and planning them come to. -/
inductive Concordant (artifacts : List Artifact) :
    Except Complaint Unit → Except Plan.Fault Plan → Prop
  | planned (plan : Plan) : Concordant artifacts (.ok ()) (.ok plan)
  /-- A cycle is only noticed when the artifacts are planned. -/
  | cyclic (names : List String) : Concordant artifacts (.ok ()) (.error (.cyclic names))
  /-- Both tell of the same fault. -/
  | refused {complaint : Complaint} {fault : Plan.Fault}
      (names : Names artifacts complaint fault) :
      Concordant artifacts (.error complaint) (.error fault)

/-- What is not refused is planned, or cyclic. -/
theorem Concordant.accepted_iff {checked : Except Complaint Unit} {built : Except Plan.Fault Plan}
    (concordant : Concordant artifacts checked built) :
    checked = .ok () ↔
      (∃ plan, built = .ok plan) ∨ ∃ names, built = .error (.cyclic names) := by
  cases concordant with
  | planned plan => exact ⟨fun _ => Or.inl ⟨plan, rfl⟩, fun _ => rfl⟩
  | cyclic names => exact ⟨fun _ => Or.inr ⟨names, rfl⟩, fun _ => rfl⟩
  | refused names =>
      constructor
      · rintro ⟨⟩
      · rintro (⟨_, ⟨⟩⟩ | ⟨_, ⟨⟩⟩)
        cases names

/-- Artifacts that all have names are found fault with in the same way both times. -/
theorem exists_agrees_of_named (declared : artifacts ≠ [])
    (named : ∀ a ∈ artifacts, isBlankName a.name = false) :
    ∃ found, Agrees artifacts found (Plan.check artifacts) ∧
      checkArtifacts artifacts = found.elim (.ok ()) .error := by
  have some : artifacts.isEmpty = false := List.isEmpty_eq_false_iff.mpr declared
  have names : ∀ name ∈ artifacts.map (·.name), isBlankName name = false :=
    List.forall_mem_map.mpr named
  simp only [checkArtifacts, some, checkNames_of_named names, Plan.check]
  cases Plan.firstRepeated? [] (artifacts.map (·.name)) with
  | some name => exact ⟨_, .failed (.duplicate name), rfl⟩
  | none =>
      refine ⟨artifacts.findSome? fun a => (wrongLibrary? artifacts a).or (wrongReference? artifacts a),
        .findSome?_forM fun a member => agrees_artifact member, ?_⟩
      cases artifacts.findSome? fun a =>
        (wrongLibrary? artifacts a).or (wrongReference? artifacts a) <;> rfl

/-- Artifacts that all have names are planned, or refused both times for one fault. -/
theorem concordant_of_named (declared : artifacts ≠ [])
    (named : ∀ a ∈ artifacts, isBlankName a.name = false) :
    Concordant artifacts (checkArtifacts artifacts) (Plan.build artifacts) := by
  obtain ⟨found, agrees, checked⟩ := exists_agrees_of_named declared named
  rw [checked]
  cases result : Plan.check artifacts with
  | error fault =>
      rw [result] at agrees
      rw [Plan.build_eq_error_iff.mpr (Or.inl result)]
      cases agrees with
      | failed names => exact .refused names
  | ok =>
      rw [result] at agrees
      cases agrees with
      | passed =>
          cases built : Plan.build artifacts with
          | ok plan => exact .planned plan
          | error fault =>
              rcases Plan.build_eq_error_iff.mp built with failed | ⟨-, blocked, -, rfl⟩
              · rw [result] at failed
                cases failed
              · exact .cyclic _

/-- **A configuration is accepted exactly when its artifacts have names and can be planned,
cycles apart**; and where they have names and are refused, both tell of the same fault, with
the same artifact and the same dependency. -/
theorem checkArtifacts_agrees_build (artifacts : List Artifact) :
    (checkArtifacts artifacts = .ok () ↔
        artifacts ≠ [] ∧ (∀ a ∈ artifacts, isBlankName a.name = false) ∧
          ((∃ plan, Plan.build artifacts = .ok plan) ∨
            ∃ names, Plan.build artifacts = .error (.cyclic names))) ∧
      (artifacts ≠ [] → (∀ a ∈ artifacts, isBlankName a.name = false) →
        Concordant artifacts (checkArtifacts artifacts) (Plan.build artifacts)) := by
  refine ⟨⟨fun accepted => ?_, fun ⟨declared, named, built⟩ => ?_⟩, concordant_of_named⟩
  · have declared := declared_of_checkArtifacts accepted
    have named := named_of_checkArtifacts accepted
    exact ⟨declared, named, (concordant_of_named declared named).accepted_iff.mp accepted⟩
  · exact (concordant_of_named declared named).accepted_iff.mpr built

/-- An artifact that links a contract and refers to what is not declared: the contract is
told of, as libraries come first. -/
example :
    let artifacts : List Artifact :=
      [((Artifact.contract "App").withArgument (.artifact "Ghost")).linking "Token",
        .contract "Token"]
    checkArtifacts artifacts = .error (.notALibrary "App" "Token") ∧
      Plan.build artifacts = .error (.notALibrary "App" "Token") :=
  ⟨rfl, rfl⟩

end Config

end Rollout
