/-
# Rollout.Proofs.Run.Payload — what a payload is made of, and why there is none

A payload needs the address of everything its artifact depends on
(`resolved_of_payload`).  Where every address is known, it is the bytecode linked with
these addresses, followed by the values of the arguments with these addresses
(`payload_eq_ok_iff_madeFrom`).  `Unpayable` lists the reasons for which there is no
payload, in the order in which they are found.
-/
import Rollout.Proofs.Argument
import Rollout.Proofs.Linker
import Rollout.Proofs.Plan.Building
import Rollout.Run.Payload

namespace Rollout

set_option autoImplicit false

namespace Run

variable {source : Build.Source} {linkName : String → String} {a : Artifact}
  {resolve : String → Option Address} {address : String → Address}

theorem arguments_eq_map
    (resolved : ∀ name ∈ a.references, resolve name = some (address name)) :
    arguments resolve a = .ok (a.arguments.map (·.valueAt address)) := by
  refine Checked.mapM_eq_map fun argument member => ?_
  rw [Checked.mapError_eq_ok]
  exact argument.value_eq_ok fun name refers =>
    resolved name (Artifact.mem_references.mpr ⟨argument, member, refers⟩)

/-- The values of the arguments fail at the first reference without an address. -/
theorem arguments_eq_error {fault : Fault} (failed : arguments resolve a = .error fault) :
    ∃ name ∈ a.references, resolve name = none ∧ fault = .unresolvedReference a.name name := by
  obtain ⟨before, argument, after, split, -, failed⟩ := Checked.mapM_eq_error.mp failed
  obtain ⟨name, unresolved, rfl⟩ := Checked.mapError_eq_error.mp failed
  obtain ⟨refers, absent⟩ := Argument.value_eq_error_iff.mp unresolved
  exact ⟨name, Artifact.mem_references.mpr ⟨argument, by simp [split], refers⟩, absent, rfl⟩

theorem resolved_of_arguments {values : List Abi.Value} (ok : arguments resolve a = .ok values) :
    ∀ name ∈ a.references, ∃ address, resolve name = some address := by
  intro name referred
  obtain ⟨argument, member, refers⟩ := Artifact.mem_references.mp referred
  obtain ⟨value, computed⟩ := Checked.exists_mapM_eq_ok.mp ⟨values, ok⟩ argument member
  cases found : resolve name with
  | some address => exact ⟨address, rfl⟩
  | none =>
      rw [Checked.mapError_eq_ok, Argument.value_eq_error_iff.mpr ⟨refers, found⟩] at computed
      cases computed

/-- Where all that is asked for has an address, one function gives them. -/
theorem exists_addresses {asked : String → Prop}
    (resolved : ∀ name, asked name → ∃ address, resolve name = some address) :
    ∃ address : String → Address, ∀ name, asked name → resolve name = some (address name) := by
  refine ⟨fun name => (resolve name).getD default, ?_⟩
  intro name here
  obtain ⟨address, known⟩ := resolved name here
  simp [known]

/-! ## Linking -/

theorem foldlM_linkLibrary_eq_ok {libraries : List String} {l : Linker}
    (resolved : ∀ library ∈ libraries, resolve library = some (address library)) :
    libraries.foldlM (linkLibrary linkName resolve a) l =
      .ok (Linker.linkAll linkName address l libraries) := by
  induction libraries generalizing l with
  | nil => rfl
  | cons first rest ih =>
      obtain ⟨here, others⟩ := List.forall_mem_cons.mp resolved
      simp only [List.foldlM_cons, linkLibrary, here]
      exact ih others

/-- Linking fails at the first library without an address. -/
theorem foldlM_linkLibrary_eq_error {libraries : List String} {l : Linker} {fault : Fault}
    (failed : libraries.foldlM (linkLibrary linkName resolve a) l = .error fault) :
    ∃ library ∈ libraries, resolve library = none ∧ fault = .missingLink a.name library := by
  induction libraries generalizing l with
  | nil => cases failed
  | cons first rest ih =>
      simp only [List.foldlM_cons, linkLibrary] at failed
      cases found : resolve first with
      | none =>
          rw [found] at failed
          cases failed
          exact ⟨first, List.mem_cons_self .., found, rfl⟩
      | some address =>
          rw [found] at failed
          obtain ⟨library, member, absent, same⟩ := ih failed
          exact ⟨library, List.mem_cons_of_mem _ member, absent, same⟩

theorem resolved_of_linked {bytecode : String} {l : Linker}
    (ok : linked linkName resolve a bytecode = .ok l) :
    ∀ library ∈ a.libraries, ∃ address, resolve library = some address := by
  have general : ∀ (libraries : List String) (l l' : Linker),
      libraries.foldlM (linkLibrary linkName resolve a) l = .ok l' →
      ∀ library ∈ libraries, ∃ address, resolve library = some address := by
    intro libraries
    induction libraries with
    | nil => simp
    | cons first rest ih =>
        intro l l' ok
        simp only [List.foldlM_cons, linkLibrary] at ok
        cases found : resolve first with
        | none => simp [found, bind, Except.bind] at ok
        | some address =>
            rw [found] at ok
            exact List.forall_mem_cons.mpr ⟨⟨address, found⟩, ih _ _ ok⟩
  exact general _ _ _ ok

/-! ## Payloads -/

theorem creationCode_eq_ok_iff {bytecode : String} {code : List UInt8} :
    creationCode linkName resolve a bytecode = .ok code ↔
      ∃ l, linked linkName resolve a bytecode = .ok l ∧ l.unlinked = [] ∧ l.bytes = .ok code := by
  rw [creationCode, Checked.bind_eq_ok]
  refine exists_congr fun l => and_congr_right fun _ => ?_
  cases left : l.unlinked with
  | nil => simp [Checked.mapError_eq_ok]
  | cons label others => simp [throw, throwThe, MonadExceptOf.throw]

theorem creationCode_eq_error {bytecode : String} {fault : Fault}
    (failed : creationCode linkName resolve a bytecode = .error fault) :
    linked linkName resolve a bytecode = .error fault ∨
      ∃ l, linked linkName resolve a bytecode = .ok l ∧
        ((∃ label others, l.unlinked = label :: others ∧ fault = .missingLink a.name label) ∨
          (l.unlinked = [] ∧ ∃ cause, l.bytes = .error cause ∧ fault = .link cause)) := by
  rw [creationCode, Checked.bind_eq_error] at failed
  rcases failed with failed | ⟨l, ok, failed⟩
  · exact Or.inl failed
  · refine Or.inr ⟨l, ok, ?_⟩
    cases left : l.unlinked with
    | nil =>
        rw [left] at failed
        obtain ⟨cause, undecoded, rfl⟩ := Checked.mapError_eq_error.mp failed
        exact Or.inr ⟨rfl, cause, undecoded, rfl⟩
    | cons label others =>
        rw [left] at failed
        cases failed
        exact Or.inl ⟨label, others, rfl, rfl⟩

/-- What a payload is made of. -/
theorem payload_eq_ok_iff {payload : List UInt8} :
    Run.payload source linkName resolve a = .ok payload ↔
      ∃ values compiled l code encoded, arguments resolve a = .ok values ∧
        source a.buildName = .ok compiled ∧
        linked linkName resolve a compiled.bytecode = .ok l ∧ l.unlinked = [] ∧
        l.bytes = .ok code ∧ compiled.abi.encode values = .ok encoded ∧
        payload = code ++ encoded := by
  simp only [Run.payload, Checked.bind_eq_ok, Checked.mapError_eq_ok, creationCode_eq_ok_iff,
    pure, Except.pure, Except.ok.injEq]
  constructor
  · rintro ⟨values, resolved, compiled, loaded, code, ⟨l, ok, complete, decoded⟩, encoded, fits, rfl⟩
    exact ⟨values, compiled, l, code, encoded, resolved, loaded, ok, complete, decoded, fits, rfl⟩
  · rintro ⟨values, compiled, l, code, encoded, resolved, loaded, ok, complete, decoded, fits, rfl⟩
    exact ⟨values, resolved, compiled, loaded, code, ⟨l, ok, complete, decoded⟩, encoded, fits, rfl⟩

/-- A payload that is made from the addresses of what its artifact depends on. -/
structure MadeFrom (source : Build.Source) (linkName : String → String)
    (address : String → Address) (a : Artifact) (payload : List UInt8) : Prop where
  parts : ∃ compiled code encoded, source a.buildName = .ok compiled ∧
    (Linker.linkAll linkName address (.ofBytecode compiled.bytecode) a.libraries).unlinked = [] ∧
    (Linker.linkAll linkName address (.ofBytecode compiled.bytecode) a.libraries).bytes = .ok code ∧
    compiled.abi.encode (a.arguments.map (·.valueAt address)) = .ok encoded ∧
    payload = code ++ encoded

/-- Where every address is known, payloads are made from these addresses. -/
theorem payload_eq_ok_iff_madeFrom {payload : List UInt8}
    (resolved : ∀ name, a.DependsOn name → resolve name = some (address name)) :
    Run.payload source linkName resolve a = .ok payload ↔
      MadeFrom source linkName address a payload := by
  have values : arguments resolve a = .ok (a.arguments.map (·.valueAt address)) :=
    arguments_eq_map fun name referred => resolved name (Or.inr referred)
  have links : ∀ bytecode, linked linkName resolve a bytecode =
      .ok (Linker.linkAll linkName address (.ofBytecode bytecode) a.libraries) := fun bytecode =>
    foldlM_linkLibrary_eq_ok fun library member => resolved library (Or.inl member)
  rw [payload_eq_ok_iff]
  simp only [values, links, Except.ok.injEq]
  constructor
  · rintro ⟨_, compiled, _, code, encoded, rfl, loaded, rfl, complete, decoded, fits, rfl⟩
    exact ⟨compiled, code, encoded, loaded, complete, decoded, fits, rfl⟩
  · rintro ⟨compiled, code, encoded, loaded, complete, decoded, fits, rfl⟩
    exact ⟨_, compiled, _, code, encoded, rfl, loaded, rfl, complete, decoded, fits, rfl⟩

/-- A payload needs the address of everything that the artifact depends on. -/
theorem resolved_of_payload {payload : List UInt8}
    (paid : Run.payload source linkName resolve a = .ok payload) :
    ∀ name, a.DependsOn name → ∃ address, resolve name = some address := by
  obtain ⟨values, compiled, l, code, encoded, resolved, -, linked, -⟩ := payload_eq_ok_iff.mp paid
  rintro name (linked' | referred)
  · exact resolved_of_linked linked name linked'
  · exact resolved_of_arguments resolved name referred

/-- Why an artifact has no payload, in the order in which the reasons are found. -/
inductive Unpayable (source : Build.Source) (linkName : String → String)
    (resolve : String → Option Address) (a : Artifact) : Fault → Prop
  /-- The constructor refers to an artifact without an address. -/
  | reference (name : String) (referred : name ∈ a.references) (absent : resolve name = none) :
      Unpayable source linkName resolve a (.unresolvedReference a.name name)
  /-- The build output cannot be used. -/
  | build (values : List Abi.Value) (resolved : arguments resolve a = .ok values)
      (fault : Build.Fault) (failed : source a.buildName = .error fault) :
      Unpayable source linkName resolve a (.build fault)
  /-- A library has no address. -/
  | library (values : List Abi.Value) (resolved : arguments resolve a = .ok values)
      (compiled : Build.Compiled) (loaded : source a.buildName = .ok compiled)
      (name : String) (member : name ∈ a.libraries) (absent : resolve name = none) :
      Unpayable source linkName resolve a (.missingLink a.name name)
  /-- A placeholder is left. -/
  | placeholder (values : List Abi.Value) (resolved : arguments resolve a = .ok values)
      (compiled : Build.Compiled) (loaded : source a.buildName = .ok compiled)
      (l : Linker) (linked : Run.linked linkName resolve a compiled.bytecode = .ok l)
      (label : String) (others : List String) (left : l.unlinked = label :: others) :
      Unpayable source linkName resolve a (.missingLink a.name label)
  /-- The linked bytecode is no hex. -/
  | hex (values : List Abi.Value) (resolved : arguments resolve a = .ok values)
      (compiled : Build.Compiled) (loaded : source a.buildName = .ok compiled)
      (l : Linker) (linked : Run.linked linkName resolve a compiled.bytecode = .ok l)
      (complete : l.unlinked = []) (fault : Linker.Fault) (failed : l.bytes = .error fault) :
      Unpayable source linkName resolve a (.link fault)
  /-- The values do not fit the constructor. -/
  | encoding (values : List Abi.Value) (resolved : arguments resolve a = .ok values)
      (compiled : Build.Compiled) (loaded : source a.buildName = .ok compiled)
      (code : List UInt8)
      (decoded : creationCode linkName resolve a compiled.bytecode = .ok code)
      (fault : Abi.Fault) (failed : compiled.abi.encode values = .error fault) :
      Unpayable source linkName resolve a (.encoding a.name fault)

theorem unpayable_of_payload {fault : Fault}
    (failed : Run.payload source linkName resolve a = .error fault) :
    Unpayable source linkName resolve a fault := by
  simp only [Run.payload, Checked.bind_eq_error, Checked.mapError_eq_error, Checked.mapError_eq_ok,
    pure, Except.pure, reduceCtorEq, and_false, exists_false, or_false] at failed
  rcases failed with failed | ⟨values, resolved, failed⟩
  · obtain ⟨name, referred, absent, rfl⟩ := arguments_eq_error failed
    exact .reference name referred absent
  rcases failed with ⟨cause, failed, rfl⟩ | ⟨compiled, loaded, failed⟩
  · exact .build values resolved cause failed
  rcases failed with failed | ⟨code, decoded, cause, failed, rfl⟩
  · rcases creationCode_eq_error failed with failed | ⟨l, ok, failed⟩
    · obtain ⟨library, member, absent, rfl⟩ := foldlM_linkLibrary_eq_error failed
      exact .library values resolved compiled loaded library member absent
    · rcases failed with ⟨label, others, left, rfl⟩ | ⟨complete, cause, undecoded, rfl⟩
      · exact .placeholder values resolved compiled loaded l ok label others left
      · exact .hex values resolved compiled loaded l ok complete cause undecoded
  · exact .encoding values resolved compiled loaded code decoded cause failed

end Run

end Rollout
