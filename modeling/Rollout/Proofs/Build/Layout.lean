/-
# Rollout.Proofs.Build.Layout — every layout of a build output means the same

Compilers keep the bytecode of a contract in one of three places of a JSON text or in a file of
its own, and its interface in the same text or beside that file (`Layout`).  Whichever it is, the
same build output is made of them, and a source in memory that was given this output finds it
(`Source.ofDirectory_of_layout`).
-/
import Rollout.Build
import Rollout.Proofs.Abi.Document
import Rollout.Proofs.Build.Candidates

namespace Rollout.Build

open Rollout.Json (byName field?_byName last?)

set_option autoImplicit false

section

variable {files : Files} {directory name text code path : String} {abi : Abi.Interface}
  {fields : List (String × Document.Value)}

/-! ## Layouts -/

/-- Where JSON output keeps its bytecode; of two fields with one name the later counts. -/
inductive Keeps (code : String) (fields : List (String × Document.Value)) : Prop where
  /-- In the field `bytecode` itself. -/
  | text (bytecode : last? "bytecode" fields = some (.text code))
  /-- Within the field `bytecode`. -/
  | object {inner : List (String × Document.Value)}
      (bytecode : last? "bytecode" fields = some (.table inner))
      (object : last? "object" inner = some (.text code))
  /-- Within the compiler's own output, where there is no field `bytecode`. -/
  | nested {evm inner : List (String × Document.Value)}
      (absent : last? "bytecode" fields = none) (output : last? "evm" fields = some (.table evm))
      (bytecode : last? "bytecode" evm = some (.table inner))
      (object : last? "object" inner = some (.text code))

/-- The field of an interface holds it, as it is written or by name; without the field the
interface is empty. -/
def Declares (abi : Abi.Interface) : Option Document.Value → Prop
  | none => abi = .empty
  | some d => Abi.Interface.read? d = some abi ∨ Abi.Interface.read? (byName d) = some abi

/-- A text is JSON output with this bytecode and this interface. -/
def IsOutput (code : String) (abi : Abi.Interface) (text : String) : Prop :=
  ∃ fields, Json.readAsWritten? text = some (.table fields) ∧ Keeps code fields ∧
    Declares abi (last? "abi" fields)

/-- The file of an interface holds it; without the file the interface is empty. -/
inductive Beside (files : Files) (path : String) (abi : Abi.Interface) : Prop where
  | absent (free : files.holds path = false) (empty : abi = .empty)
  | document {text : String} {d : Document.Value} (content : files.readText path = .ok text)
      (json : Json.readAsWritten? text = some d) (valid : Abi.Interface.read? d = some abi)

/-- The layouts in which a directory keeps bytecode and interface under a name. -/
inductive Layout (files : Files) (directory name code : String) (abi : Abi.Interface) : Prop where
  /-- JSON output in the directory. -/
  | flat {text : String}
      (content : files.readText (Files.join directory (name ++ ".json")) = .ok text)
      (output : IsOutput code abi text)
  /-- JSON output in a directory of its own. -/
  | nested {text : String} (free : files.holds (Files.join directory (name ++ ".json")) = false)
      (content : files.readText (Files.join (Files.join directory (name ++ ".sol"))
        (name ++ ".json")) = .ok text)
      (output : IsOutput code abi text)
  /-- Plain bytecode and an interface beside it. -/
  | plain (free : ∀ path ∈ Source.jsonPaths directory name, files.holds path = false)
      (content : files.readText (Files.join directory (name ++ ".bin")) = .ok code)
      (interface : Beside files (Files.join directory (name ++ ".abi")) abi)

/-! ## Reading -/

/-- The bytecode is found by name where it is kept. -/
theorem bytecode?_of_keeps (keeps : Keeps code fields) :
    Source.bytecode? (byName (.table fields)) = some code := by
  unfold Source.bytecode?
  cases keeps with
  | text bytecode =>
      rw [field?_byName, bytecode]
      rfl
  | @object inner bytecode object =>
      have table : byName (.table inner) = .table (Json.fieldsByName .empty inner).entries := rfl
      rw [field?_byName, bytecode, Option.map_some, table]
      dsimp only
      rw [← table, field?_byName, object]
      rfl
  | nested absent output bytecode object =>
      rw [field?_byName, absent, Option.map_none]
      simp only [Option.bind_eq_bind, field?_byName, output, bytecode, object, Option.map_some,
        Option.bind_some]
      rfl

/-- The interface is the one that its field declares. -/
theorem interface_of_declares {d : Document.Value} (declares : Declares abi (some d)) :
    Source.interface path (byName d) = .ok abi := by
  have valid : Abi.Interface.read? (byName d) = some abi :=
    declares.elim Abi.Interface.read?_byName id
  rw [Source.interface, valid]

theorem loadJson_of_output (content : files.readText path = .ok text)
    (output : IsOutput code abi text) :
    Source.loadJson files name path = Compiled.make name code abi := by
  obtain ⟨fields, json, keeps, declares⟩ := output
  have value : Json.read? text = some (byName (.table fields)) := by
    rw [Json.read?, json, Option.map_some]
  unfold Source.loadJson
  simp only [Source.read_eq_ok_iff.mpr content, value, Source.parsed, bytecode?_of_keeps keeps,
    field?_byName, bind, Except.bind]
  cases written : last? "abi" fields with
  | none =>
      rw [written] at declares
      obtain rfl : abi = .empty := declares
      rfl
  | some d =>
      rw [written] at declares
      simp only [Option.map_some, interface_of_declares declares]

theorem loadBin_of_beside (content : files.readText (Source.binPath directory name) = .ok code)
    (interface : Beside files (Source.abiPath directory name) abi) :
    Source.loadBin files directory name = Compiled.make name code abi := by
  unfold Source.loadBin
  rw [Source.read_eq_ok_iff.mpr content]
  cases interface with
  | absent free empty =>
      subst empty
      simp only [free, bind, Except.bind]
      rfl
  | document content json valid =>
      have found := Files.holds_of_readText content
      simp only [found, if_pos, Source.loadAbi, Source.read_eq_ok_iff.mpr content, json,
        Source.parsed, Source.interface, valid, bind, Except.bind]

theorem ofList_eq_ok {output : Compiled} (before : List Compiled) {after : List Compiled}
    (last : ∀ later ∈ after, later.name ≠ output.name) :
    Source.ofList (before ++ output :: after) output.name = .ok output := by
  have found : (before ++ output :: after).reverse.find? (·.name = output.name) = some output := by
    rw [List.reverse_append, List.reverse_cons, List.append_assoc, List.find?_append]
    have none_later : after.reverse.find? (·.name = output.name) = none := by
      rw [List.find?_eq_none]
      intro later member
      simpa using last later (List.mem_reverse.mp member)
    rw [none_later]
    simp
  rw [Source.ofList, found]

theorem make_cases (name code : String) (abi : Abi.Interface) :
    Compiled.make name code abi = .error (.empty name) ∨
      ∃ output, Compiled.make name code abi = .ok output ∧ output.name = name := by
  unfold Compiled.make
  split
  · exact Or.inl rfl
  · exact Or.inr ⟨_, rfl, rfl⟩

/-- **Every layout of a build output means the same.**  What a directory gives for a name is
made of the bytecode and the interface alone, wherever they are kept: it is refused for lack of
creation code, or it is the output that a source in memory finds once it was put there last. -/
theorem Source.ofDirectory_of_layout (laid : Layout files directory name code abi) :
    Source.ofDirectory files directory name = Compiled.make name code abi ∧
      (Compiled.make name code abi = .error (.empty name) ∨
        ∃ output, Compiled.make name code abi = .ok output ∧
          ∀ before after, (∀ later ∈ after, later.name ≠ name) →
            Source.ofList (before ++ output :: after) name = .ok output) := by
  constructor
  · unfold Source.ofDirectory
    cases laid with
    | flat content output =>
        have found := Files.holds_of_readText content
        simp only [Source.jsonPaths, List.find?_cons, found]
        exact loadJson_of_output content output
    | nested free content output =>
        have found := Files.holds_of_readText content
        simp only [Source.jsonPaths, List.find?_cons, free, found]
        exact loadJson_of_output content output
    | plain free content interface =>
        have none_held : (Source.jsonPaths directory name).find? files.holds = none := by
          rw [List.find?_eq_none]
          intro path member
          simp [free path member]
        have found := Files.holds_of_readText content
        rw [none_held]
        simp only [Source.binPath, found, if_pos]
        exact loadBin_of_beside content interface
  · rcases make_cases name code abi with empty | ⟨output, made, rfl⟩
    · exact Or.inl empty
    · exact Or.inr ⟨output, made, fun before after last => ofList_eq_ok before last⟩

end

/-! ## One output in two layouts -/

namespace Sample

/-- A constructor without parameters is declared. -/
def declared : Abi.Interface := ⟨some []⟩

def document : Document.Value :=
  .list [.table [("type", .text "constructor"), ("inputs", .list [])]]

def output : Document.Value :=
  .table [("abi", document), ("bytecode", .table [("object", .text "0x6080 ")])]

def files : Files where
  look path :=
    if path = "out/Token.sol/Token.json" then .file (Text.bytes (Json.compact output).toList)
    else if path = "build/Token.bin" then .file (Text.bytes "0x6080 ".toList)
    else if path = "build/Token.abi" then .file (Text.bytes (Json.pretty document).toList)
    else .absent .notFound
  refusal? _ := none

theorem nests_document (depth : Nat) : Json.Nests (depth + 3) document := by
  refine .list (List.forall_mem_singleton.mpr (.table ?_))
  exact List.forall_mem_cons.mpr ⟨.text _ _, List.forall_mem_singleton.mpr (.list (by simp))⟩

theorem nests_output : Json.Nests Json.Machine.depthLimit output := by
  refine .table (List.forall_mem_cons.mpr ⟨nests_document _, List.forall_mem_singleton.mpr ?_⟩)
  exact .table (List.forall_mem_singleton.mpr (.text _ _))

theorem read?_document : Abi.Interface.read? document = some declared := rfl

/-- The bytecode within a field, in a directory of its own. -/
theorem nested : Layout files "out" "Token" "0x6080 " declared := by
  have held : files.look "out/Token.sol/Token.json" =
      .file (Text.bytes (Json.compact output).toList) := by
    unfold files
    dsimp only
    rw [if_pos rfl]
  have json := Json.readAsWritten?_compact nests_output
  exact .nested rfl (Files.readText_of_look held) ⟨_, json, .object rfl rfl, Or.inl read?_document⟩

/-- The bytecode in a file of its own. -/
theorem plain : Layout files "build" "Token" "0x6080 " declared := by
  have bytecode : files.look "build/Token.bin" = .file (Text.bytes "0x6080 ".toList) := by
    unfold files
    dsimp only
    rw [if_neg (by decide), if_pos rfl]
  have beside : files.look "build/Token.abi" =
      .file (Text.bytes (Json.pretty document).toList) := by
    unfold files
    dsimp only
    rw [if_neg (by decide), if_neg (by decide), if_pos rfl]
  have json := Json.readAsWritten?_pretty (nests_document 124)
  have interface : Beside files (Files.join "build" ("Token" ++ ".abi")) declared :=
    .document (Files.readText_of_look beside) json read?_document
  refine .plain ?_ (Files.readText_of_look bytecode) interface
  intro path member
  rcases List.mem_pair.mp member with rfl | rfl <;> rfl

end Sample

open Sample in
/-- JSON output and a pair of files hold the same output, which a list of outputs may hold too. -/
theorem Source.ofDirectory_of_layout_token :
    Layout files "out" "Token" "0x6080 " declared ∧
      Layout files "build" "Token" "0x6080 " declared ∧
      Source.ofDirectory files "out" "Token" = .ok ⟨"Token", "6080", declared⟩ ∧
      Source.ofDirectory files "build" "Token" = .ok ⟨"Token", "6080", declared⟩ ∧
      Source.ofList [⟨"Token", "6080", declared⟩] "Token" = .ok ⟨"Token", "6080", declared⟩ := by
  have made : Compiled.make "Token" "0x6080 " declared = .ok ⟨"Token", "6080", declared⟩ := rfl
  obtain ⟨out, refused | ⟨output, same, found⟩⟩ := Source.ofDirectory_of_layout nested
  · rw [made] at refused
    cases refused
  · rw [made] at same
    cases same
    have build := (Source.ofDirectory_of_layout plain).1
    exact ⟨nested, plain, out.trans made, build.trans made, found [] [] (by simp)⟩

end Rollout.Build
