/-
# Rollout.Proofs.Build.Candidates — the first file that stands decides a load

The build output of a name may stand in three files (`Candidate`).  The first of them that is
there is loaded, and whatever is wrong with it is told as its own fault (`Broken`); no other
candidate is looked at then.  So a load depends on what stands there alone, and for plain
bytecode on the interface beside it (`SameFirst`), and nothing is found only where none of the
three stands (`ofDirectory_decided`).
-/
import Rollout.Build
import Rollout.Files
import Rollout.Proofs.Checked

namespace Rollout.Build.Source

set_option autoImplicit false

/-! ## Candidates -/

/-- The files in which the build output of a name may stand. -/
inductive Candidate where
  /-- JSON output in the directory. -/
  | flat
  /-- JSON output in a directory of its own. -/
  | nested
  /-- Plain bytecode. -/
  | plain
  deriving DecidableEq

namespace Candidate

def all : List Candidate := [.flat, .nested, .plain]

def path (directory name : String) : Candidate → String
  | .flat => Files.join directory (name ++ ".json")
  | .nested => Files.join (Files.join directory (name ++ ".sol")) (name ++ ".json")
  | .plain => Files.join directory (name ++ ".bin")

def load (files : Files) (directory name : String) : Candidate → Except Fault Compiled
  | .plain => loadBin files directory name
  | c => loadJson files name (c.path directory name)

end Candidate

def first? (files : Files) (directory name : String) : Option Candidate :=
  Candidate.all.find? fun c => files.holds (c.path directory name)

variable {files others : Files} {directory name path : String} {c : Candidate} {fault : Fault}

theorem binPath_eq : binPath directory name = Candidate.plain.path directory name := rfl

/-- **A load is that of the first candidate**, and fails to find anything only without one. -/
theorem ofDirectory_eq :
    ofDirectory files directory name =
      match first? files directory name with
      | some c => c.load files directory name
      | none => .error (.notFound name directory) := by
  have json : jsonPaths directory name =
      [Candidate.flat.path directory name, Candidate.nested.path directory name] := rfl
  rw [ofDirectory, first?, Candidate.all, json, binPath_eq]
  cases flat : files.holds (Candidate.flat.path directory name) with
  | true =>
      simp only [List.find?_cons, flat]
      rfl
  | false =>
      cases nested : files.holds (Candidate.nested.path directory name) with
      | true =>
          simp only [List.find?_cons, flat, nested]
          rfl
      | false =>
          cases plain : files.holds (Candidate.plain.path directory name) with
          | true =>
              simp only [List.find?_cons, List.find?_nil, flat, nested, plain, if_true]
              rfl
          | false =>
              simp only [List.find?_cons, List.find?_nil, flat, nested, plain, Bool.false_eq_true,
                if_false]

theorem first?_eq_none_iff :
    first? files directory name = none ↔
      ∀ c : Candidate, files.holds (c.path directory name) = false := by
  rw [first?, List.find?_eq_none]
  constructor
  · intro none_stands c
    simpa using none_stands c (by cases c <;> decide)
  · intro absent c _
    simp [absent c]

/-! ## What is wrong with a candidate -/

/-- Bytecode that is nothing but blanks and a marker. -/
def IsBare (code : String) : Prop := Hex.withoutMarker (Text.trim code.toList) = []

/-- What is wrong with the text of JSON output, told of its path or its name. -/
inductive FaultyOutput (name path text : String) : Fault → Prop
  | notJson (malformed : Json.read? text = none) : FaultyOutput name path text (.notJson path)
  | noBytecode {v : Document.Value} (value : Json.read? text = some v)
      (missing : bytecode? v = none) : FaultyOutput name path text (.noBytecode path)
  | badInterface {v d : Document.Value} {code : String} (value : Json.read? text = some v)
      (bytecode : bytecode? v = some code) (field : v.field? "abi" = some d)
      (refused : Abi.Interface.read? d = none) : FaultyOutput name path text (.badInterface path)
  | empty {v : Document.Value} {code : String} (value : Json.read? text = some v)
      (bytecode : bytecode? v = some code)
      (sound : ∀ d, v.field? "abi" = some d → Abi.Interface.read? d ≠ none)
      (bare : IsBare code) : FaultyOutput name path text (.empty name)

/-- What is wrong with the file of an interface. -/
inductive FaultyInterface (files : Files) (path : String) : Fault → Prop
  | unreadable {why : Files.Refusal} (refused : files.readText path = .error why) :
      FaultyInterface files path (.unreadable path why.message)
  | notJson {text : String} (content : files.readText path = .ok text)
      (malformed : Json.readAsWritten? text = none) : FaultyInterface files path (.notJson path)
  | badInterface {text : String} {d : Document.Value} (content : files.readText path = .ok text)
      (value : Json.readAsWritten? text = some d) (refused : Abi.Interface.read? d = none) :
      FaultyInterface files path (.badInterface path)

/-- What is wrong with a candidate. -/
inductive Broken (files : Files) (directory name : String) : Candidate → Fault → Prop
  /-- It cannot be read: it is a directory, it is kept from being read, or it is no text. -/
  | unreadable {c : Candidate} {why : Files.Refusal}
      (refused : files.readText (c.path directory name) = .error why) :
      Broken files directory name c (.unreadable (c.path directory name) why.message)
  | output {c : Candidate} {text : String} {fault : Fault} (json : c ≠ .plain)
      (content : files.readText (c.path directory name) = .ok text)
      (faulty : FaultyOutput name (c.path directory name) text fault) :
      Broken files directory name c fault
  | interface {code : String} {fault : Fault}
      (content : files.readText (Candidate.plain.path directory name) = .ok code)
      (present : files.holds (abiPath directory name) = true)
      (faulty : FaultyInterface files (abiPath directory name) fault) :
      Broken files directory name .plain fault
  | empty {code : String}
      (content : files.readText (Candidate.plain.path directory name) = .ok code)
      (sound : files.holds (abiPath directory name) = true →
        ∀ fault, ¬ FaultyInterface files (abiPath directory name) fault)
      (bare : IsBare code) : Broken files directory name .plain (.empty name)

/-! ## Reading -/

theorem make_eq_error_iff {code : String} {abi : Abi.Interface} :
    Compiled.make name code abi = .error fault ↔ IsBare code ∧ fault = .empty name := by
  unfold Compiled.make IsBare
  cases Hex.withoutMarker (Text.trim code.toList) with
  | nil => simp [eq_comm]
  | cons c cs => simp

theorem read_eq_ok_iff {text : String} :
    read files path = .ok text ↔ files.readText path = .ok text := Checked.mapError_eq_ok

theorem read_eq_error_iff :
    read files path = .error fault ↔
      ∃ why, files.readText path = .error why ∧ fault = .unreadable path why.message := by
  rw [read, Checked.mapError_eq_error]
  simp only [eq_comm]

theorem parsed_eq_ok_iff {value : Option Document.Value} {v : Document.Value} :
    parsed path value = .ok v ↔ value = some v := by
  cases value <;> simp [parsed]

theorem parsed_eq_error_iff {value : Option Document.Value} :
    parsed path value = .error fault ↔ value = none ∧ fault = .notJson path := by
  cases value <;> simp [parsed, eq_comm]

theorem interface_eq_error_iff {d : Document.Value} :
    interface path d = .error fault ↔
      Abi.Interface.read? d = none ∧ fault = .badInterface path := by
  unfold interface
  cases Abi.Interface.read? d <;> simp [eq_comm]

theorem loadAbi_eq_error_iff :
    loadAbi files path = .error fault ↔ FaultyInterface files path fault := by
  simp only [loadAbi, Checked.bind_eq_error, read_eq_error_iff, read_eq_ok_iff,
    parsed_eq_error_iff, parsed_eq_ok_iff, interface_eq_error_iff]
  constructor
  · rintro (⟨why, refused, rfl⟩ | ⟨text, content, ⟨malformed, rfl⟩ | ⟨d, value, refused, rfl⟩⟩)
    · exact .unreadable refused
    · exact .notJson content malformed
    · exact .badInterface content value refused
  · intro faulty
    cases faulty with
    | unreadable refused => exact Or.inl ⟨_, refused, rfl⟩
    | notJson content malformed => exact Or.inr ⟨_, content, Or.inl ⟨malformed, rfl⟩⟩
    | badInterface content value refused =>
        exact Or.inr ⟨_, content, Or.inr ⟨_, value, refused, rfl⟩⟩

theorem interface_eq_ok_iff {d : Document.Value} {abi : Abi.Interface} :
    interface path d = .ok abi ↔ Abi.Interface.read? d = some abi := by
  unfold interface
  cases Abi.Interface.read? d <;> simp

/-- JSON output is not loaded when it cannot be read or its text is at fault. -/
theorem loadJson_eq_error_iff :
    loadJson files name path = .error fault ↔
      (∃ why, files.readText path = .error why ∧ fault = .unreadable path why.message) ∨
        ∃ text, files.readText path = .ok text ∧ FaultyOutput name path text fault := by
  simp only [loadJson, Checked.bind_eq_error, read_eq_error_iff, read_eq_ok_iff,
    parsed_eq_error_iff, parsed_eq_ok_iff]
  refine or_congr_right (exists_congr fun text => and_congr_right fun _ => ?_)
  constructor
  · rintro (⟨malformed, rfl⟩ | ⟨v, value, failed⟩)
    · exact .notJson malformed
    · cases bytecode : bytecode? v with
      | none =>
          rw [bytecode] at failed
          cases failed
          exact .noBytecode value bytecode
      | some code =>
          cases field : v.field? "abi" with
          | none =>
              simp only [bytecode, field] at failed
              obtain ⟨bare, rfl⟩ := make_eq_error_iff.mp failed
              exact .empty value bytecode (by simp [field]) bare
          | some d =>
              simp only [bytecode, field, Checked.bind_eq_error, interface_eq_error_iff,
                interface_eq_ok_iff, make_eq_error_iff] at failed
              rcases failed with ⟨refused, rfl⟩ | ⟨abi, valid, bare, rfl⟩
              · exact .badInterface value bytecode field refused
              · exact .empty value bytecode (by simp [field, valid]) bare
  · intro faulty
    cases faulty with
    | notJson malformed => exact Or.inl ⟨malformed, rfl⟩
    | noBytecode value missing =>
        refine Or.inr ⟨_, value, ?_⟩
        rw [missing]
        rfl
    | badInterface value bytecode field refused =>
        refine Or.inr ⟨_, value, ?_⟩
        simp only [bytecode, field]
        exact Checked.bind_eq_error.mpr (Or.inl (interface_eq_error_iff.mpr ⟨refused, rfl⟩))
    | @empty v code value bytecode sound bare =>
        refine Or.inr ⟨_, value, ?_⟩
        have refused : ∀ abi, Compiled.make name code abi = .error (.empty name) := fun abi =>
          make_eq_error_iff.mpr ⟨bare, rfl⟩
        cases field : v.field? "abi" with
        | none =>
            simp only [bytecode]
            exact refused _
        | some d =>
            obtain ⟨abi, valid⟩ := Option.ne_none_iff_exists'.mp (sound d field)
            simp only [bytecode]
            have read : interface path d = .ok abi := interface_eq_ok_iff.mpr valid
            exact Checked.bind_eq_error.mpr (Or.inr ⟨abi, read, refused abi⟩)

/-- Plain bytecode is not loaded when it cannot be read, when the interface beside it is at
fault, or when it is bare. -/
theorem loadBin_eq_error_iff :
    loadBin files directory name = .error fault ↔ Broken files directory name .plain fault := by
  simp only [loadBin, binPath_eq, Checked.bind_eq_error, read_eq_error_iff, read_eq_ok_iff]
  by_cases present : files.holds (abiPath directory name) = true
  · simp only [present, if_true, Checked.bind_eq_error, loadAbi_eq_error_iff, make_eq_error_iff]
    constructor
    · rintro (⟨why, refused, rfl⟩ | ⟨code, content, faulty | ⟨abi, loaded, bare, rfl⟩⟩)
      · exact .unreadable refused
      · exact .interface content present faulty
      · refine .empty content (fun _ fault faulty => ?_) bare
        rw [loadAbi_eq_error_iff.mpr faulty] at loaded
        cases loaded
    · intro broken
      cases broken with
      | unreadable refused => exact Or.inl ⟨_, refused, rfl⟩
      | output other => exact absurd rfl other
      | interface content _ faulty => exact Or.inr ⟨_, content, Or.inl faulty⟩
      | empty content sound bare =>
          cases loaded : loadAbi files (abiPath directory name) with
          | error fault => exact absurd (loadAbi_eq_error_iff.mp loaded) (sound present fault)
          | ok abi => exact Or.inr ⟨_, content, Or.inr ⟨abi, rfl, bare, rfl⟩⟩
  · simp only [present]
    constructor
    · rintro (⟨why, refused, rfl⟩ | ⟨code, content, failed⟩)
      · exact .unreadable refused
      · obtain ⟨bare, rfl⟩ := make_eq_error_iff.mp failed
        exact .empty content (fun here => absurd here present) bare
    · intro broken
      cases broken with
      | unreadable refused => exact Or.inl ⟨_, refused, rfl⟩
      | output other => exact absurd rfl other
      | interface _ here => exact absurd here present
      | empty content _ bare =>
          exact Or.inr ⟨_, content, make_eq_error_iff.mpr ⟨bare, rfl⟩⟩

/-- **What is told of a candidate is what is wrong with it.** -/
theorem Candidate.load_eq_error_iff :
    c.load files directory name = .error fault ↔ Broken files directory name c fault := by
  by_cases plain : c = .plain
  · subst plain
    exact loadBin_eq_error_iff
  · have json : c.load files directory name = loadJson files name (c.path directory name) := by
      cases c with
      | flat => rfl
      | nested => rfl
      | plain => exact absurd rfl plain
    rw [json, loadJson_eq_error_iff]
    constructor
    · rintro (⟨why, refused, rfl⟩ | ⟨text, content, faulty⟩)
      · exact .unreadable refused
      · exact .output plain content faulty
    · intro broken
      cases broken with
      | unreadable refused => exact Or.inl ⟨_, refused, rfl⟩
      | output _ content faulty => exact Or.inr ⟨_, content, faulty⟩
      | interface => exact absurd rfl plain
      | empty => exact absurd rfl plain

/-- No fault of a candidate says that nothing was found. -/
theorem Broken.ne_notFound {other directory' : String}
    (broken : Broken files directory name c fault) : fault ≠ .notFound other directory' := by
  rintro rfl
  cases broken with
  | output _ _ faulty => cases faulty
  | interface _ _ faulty => cases faulty

/-! ## Two trees -/

/-- Two trees in which the same candidate stands first, with the same content; beside plain
bytecode stands the same interface, or none in either. -/
structure SameFirst (files others : Files) (directory name : String) : Prop where
  first : first? others directory name = first? files directory name
  content : ∀ c, first? files directory name = some c →
    others.look (c.path directory name) = files.look (c.path directory name)
  beside : first? files directory name = some .plain →
    others.look (abiPath directory name) = files.look (abiPath directory name) ∨
      files.holds (abiPath directory name) = false ∧ others.holds (abiPath directory name) = false

theorem loadJson_congr (same : others.look path = files.look path) :
    loadJson others name path = loadJson files name path := by
  rw [loadJson, loadJson, read, read, Files.readText_congr same]

theorem loadBin_congr
    (same : others.look (Candidate.plain.path directory name) =
      files.look (Candidate.plain.path directory name))
    (beside : others.look (abiPath directory name) = files.look (abiPath directory name) ∨
      files.holds (abiPath directory name) = false ∧
        others.holds (abiPath directory name) = false) :
    loadBin others directory name = loadBin files directory name := by
  have code : read others (binPath directory name) = read files (binPath directory name) := by
    rw [read, read, binPath_eq, Files.readText_congr same]
  rw [loadBin, loadBin, code]
  rcases beside with same | ⟨absent, absent'⟩
  · simp only [Files.holds_congr same, loadAbi, read, Files.readText_congr same]
  · simp only [absent, absent', Bool.false_eq_true, if_false]

/-- **Other files do not matter** where the same candidate stands first. -/
theorem ofDirectory_congr (same : SameFirst files others directory name) :
    ofDirectory others directory name = ofDirectory files directory name := by
  rw [ofDirectory_eq, ofDirectory_eq, same.first]
  cases first : first? files directory name with
  | none => rfl
  | some c =>
      cases c with
      | flat => exact loadJson_congr (same.content _ first)
      | nested => exact loadJson_congr (same.content _ first)
      | plain => exact loadBin_congr (same.content _ first) (same.beside first)

/-- **The first file that stands decides a load.**  In every other tree in which it stands first
with the same content the load is the same, whatever else there is.  Whatever is wrong with it is
told as its own fault, and of a directory that it is one; and nothing is found exactly where no
candidate stands. -/
theorem ofDirectory_decided (files : Files) (directory name : String) :
    (∀ others, SameFirst files others directory name →
      ofDirectory others directory name = ofDirectory files directory name) ∧
    (∀ c, first? files directory name = some c → ∀ fault,
      ofDirectory files directory name = .error fault ↔ Broken files directory name c fault) ∧
    (∀ c, first? files directory name = some c →
      files.look (c.path directory name) = .directory →
      ofDirectory files directory name =
        .error (.unreadable (c.path directory name) "Is a directory (os error 21)")) ∧
    ∀ name' directory', ofDirectory files directory name = .error (.notFound name' directory') ↔
      (∀ c : Candidate, files.holds (c.path directory name) = false) ∧
        name' = name ∧ directory' = directory := by
  have told : ∀ c, first? files directory name = some c → ∀ fault,
      ofDirectory files directory name = .error fault ↔ Broken files directory name c fault := by
    intro c first fault
    rw [ofDirectory_eq, first]
    exact Candidate.load_eq_error_iff
  refine ⟨fun others same => ofDirectory_congr same, told, fun c first place => ?_, ?_⟩
  · have refused : files.readText (c.path directory name) = .error .isADirectory := by
      rw [Files.readText, place]
    exact (told c first _).mpr (.unreadable refused)
  · intro name' directory'
    rw [← first?_eq_none_iff]
    cases first : first? files directory name with
    | none =>
        rw [ofDirectory_eq, first]
        simp [eq_comm]
    | some c =>
        rw [told c first]
        constructor
        · intro broken
          exact absurd rfl broken.ne_notFound
        · rintro ⟨absent, -⟩
          cases absent

/-! ## A directory in front of a good output -/

namespace Sample

/-- A directory stands where the first candidate would, and nothing else. -/
def alone : Files where
  look path := if path = "out/Token.json" then .directory else .absent .notFound
  refusal? _ := none

/-- The same, and a bytecode file that could be loaded. -/
def shadowing : Files where
  look path :=
    if path = "out/Token.json" then .directory
    else if path = "out/Token.bin" then .file (Text.bytes "6080".toList)
    else .absent .notFound
  refusal? _ := none

end Sample

/-- The directory is told of in either tree. -/
theorem ofDirectory_decided_shadowing :
    SameFirst Sample.alone Sample.shadowing "out" "Token" ∧
      Sample.shadowing.holds "out/Token.bin" = true ∧
      ofDirectory Sample.alone "out" "Token" =
        .error (.unreadable "out/Token.json" "Is a directory (os error 21)") ∧
      ofDirectory Sample.shadowing "out" "Token" =
        .error (.unreadable "out/Token.json" "Is a directory (os error 21)") := by
  have first : first? Sample.alone "out" "Token" = some .flat := rfl
  have same : SameFirst Sample.alone Sample.shadowing "out" "Token" := by
    refine ⟨rfl, fun c here => ?_, fun here => ?_⟩
    · rw [first] at here
      cases here
      rfl
    · rw [first] at here
      cases here
  obtain ⟨frame, -, directory, -⟩ := ofDirectory_decided Sample.alone "out" "Token"
  have told := directory .flat first rfl
  exact ⟨same, rfl, told, (frame Sample.shadowing same).trans told⟩

end Rollout.Build.Source
