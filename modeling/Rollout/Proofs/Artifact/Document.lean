/-
# Rollout.Proofs.Artifact.Document — artifacts are read back from documents

Numbers of 256 bits are read back from their hex digits (`readWord_wordText`), bytes from
theirs, and so arguments of every kind (`Argument.read_document`).  An artifact is read back
with all its fields, whether they stand as they are written or by name
(`Artifact.read_document`).
-/
import Mathlib.Algebra.Order.Group.Multiset
import Rollout.Artifact
import Rollout.Proofs.Document.Layout

namespace Rollout

open Document
open Layout (takes_field takes_optionalField)

set_option autoImplicit false

/-! ## Numbers of 256 bits -/

/-- A digit that was written is read as its number, and is no underscore. -/
theorem digitOf?_digitChar {n : Nat} (small : n < 16) :
    digitOf? (Nat.digitChar n) = some n ∧ Nat.digitChar n ≠ '_' := by
  have table : ∀ n < 16, digitOf? (Nat.digitChar n) = some n ∧ Nat.digitChar n ≠ '_' := by decide
  exact table n small

/-- A digit continues a number that stays below the limit. -/
theorem continueWord_digitChar {value digit : Nat} (small : digit < 16)
    (fits : 16 * value + digit < Nat.pow 2 256) (rest : List Char) :
    continueWord 16 value (Nat.digitChar digit :: rest) =
      continueWord 16 (16 * value + digit) rest := by
  obtain ⟨read, other⟩ := digitOf?_digitChar small
  simp only [continueWord, if_neg other, read, if_pos (And.intro small fits)]

/-- The digits of a number are read as the number, and the rest behind it. -/
theorem continueWord_toDigits {n : Nat} (fits : n < Nat.pow 2 256) (rest : List Char) :
    continueWord 16 0 (Nat.toDigits 16 n ++ rest) = continueWord 16 n rest := by
  induction n using Nat.strongRecOn generalizing rest with
  | ind n ih =>
      rcases Nat.lt_or_ge n 16 with small | large
      · have step := continueWord_digitChar small (by omega : 16 * 0 + n < Nat.pow 2 256) rest
        rw [Nat.toDigits_of_lt_base small, List.singleton_append, step]
        simp
      · have whole : 16 * (n / 16) + n % 16 = n := Nat.div_add_mod n 16
        rw [Nat.toDigits_of_base_le (by decide) large, List.append_assoc,
          ih (n / 16) (by omega) (by omega), List.singleton_append,
          continueWord_digitChar (Nat.mod_lt _ (by decide)) (by omega), whole]

/-- **A number of 256 bits is read back from its digits.** -/
theorem readWord_wordText (format : Format) (n : BitVec 256) :
    readWord format (.text (Argument.wordText n)) = .ok n := by
  have digits : (Argument.wordText n).toList = '0' :: 'x' :: Nat.toDigits 16 n.toNat := by
    simp [Argument.wordText]
  have read := continueWord_toDigits (n := n.toNat) n.isLt []
  rw [List.append_nil, continueWord] at read
  have word : word? (Argument.wordText n).toList = some n.toNat := by
    rw [digits, word?, if_pos (Or.inl rfl), read]
  simp only [readWord, word, BitVec.ofNat_toNat, BitVec.setWidth_eq]

theorem readBytes_prefixed (bytes : List UInt8) :
    readBytes (.text (Hex.prefixed bytes)) = .ok bytes := by
  have digits : Hex.withoutMarker (Hex.prefixed bytes).toList = Hex.encode bytes := by
    simp [Hex.prefixed, Hex.text, Hex.withoutMarker]
  simp only [readBytes, Value.items?, digits, Hex.decode_encode]
  rfl

variable (a : Json.Arrangement)

/-! ## Arguments -/

namespace Argument

theorem nests_document (argument : Argument) (depth : Nat) :
    Json.Nests (depth + 2) argument.document := by
  have single {name : String} {v : Value} (inside : Json.Nests (depth + 1) v) :
      Json.Nests (depth + 2) (.table [(name, v)]) :=
    .table fun f member => by rwa [List.mem_singleton.mp member]
  have texts {α : Type} (write : α → String) (items : List α) :
      Json.Nests (depth + 1) (.list (items.map fun x => .text (write x))) := by
    refine .list fun v member => ?_
    obtain ⟨x, -, rfl⟩ := List.mem_map.mp member
    exact .text ..
  cases argument with
  | address | uint | string | bytes | artifact => exact single (.text ..)
  | bool => exact single (.bool ..)
  | addresses as => exact single (texts Octets.text as)
  | uints ns => exact single (texts wordText ns)

theorem read_single {kind : String} {payload : Value} {argument : Argument}
    (reads : readAs .json kind payload = .ok argument) :
    Argument.read .json (.table [(kind, payload)]) = .ok argument := by
  simp only [Argument.read, readVariant, bind, Except.bind, reads]

theorem arrange_table_single (name : String) (v : Value) :
    a.arrange (.table [(name, v)]) = .table [(name, a.arrange v)] :=
  a.arrange_table_of_ordered (List.pairwise_singleton ..)

/-- **An argument is read back.** -/
theorem read_document (argument : Argument) :
    Argument.read .json (a.arrange argument.document) = .ok argument := by
  have word (n : BitVec 256) : readWord .json (a.arrange (.text (wordText n))) = .ok n := by
    rw [a.arrange_text, readWord_wordText]
  have octets (bs : List UInt8) : readBytes (a.arrange (.text (Hex.prefixed bs))) = .ok bs := by
    rw [a.arrange_text, readBytes_prefixed]
  have flag (b : Bool) : readBool (a.arrange (.bool b)) = .ok b := by
    rw [a.arrange_bool]
    rfl
  cases argument with
  | address x =>
      rw [document, arrange_table_single]
      exact read_single (congrArg (Except.map Argument.address) (readOctets_arrange a .json x))
  | uint n =>
      rw [document, arrange_table_single]
      exact read_single (congrArg (Except.map Argument.uint) (word n))
  | string s =>
      rw [document, arrange_table_single]
      exact read_single (congrArg (Except.map Argument.string) (readText_arrange a s))
  | bool b =>
      rw [document, arrange_table_single]
      exact read_single (congrArg (Except.map Argument.bool) (flag b))
  | bytes bs =>
      rw [document, arrange_table_single]
      exact read_single (congrArg (Except.map Argument.bytes) (octets bs))
  | addresses as =>
      rw [document, arrange_table_single]
      have each := readList_arrange a (readOctets_arrange a .json) as
      exact read_single (congrArg (Except.map Argument.addresses) each)
  | uints ns =>
      rw [document, arrange_table_single]
      have each := readList_arrange a word ns
      exact read_single (congrArg (Except.map Argument.uints) each)
  | artifact name =>
      rw [document, arrange_table_single]
      exact read_single (congrArg (Except.map Argument.artifact) (readText_arrange a name))

end Argument

/-! ## Artifacts -/

theorem Kind.read_text (kind : Kind) :
    Kind.read .json (a.arrange (.text kind.text)) = .ok kind := by
  rw [a.arrange_text]
  cases kind with
  | library => rfl
  | contract => rfl

namespace Artifact

theorem nests_document (x : Artifact) (depth : Nat) : Json.Nests (depth + 4) x.document := by
  refine .table fun f member => ?_
  simp only [List.mem_append, mem_optionalField, List.mem_cons, List.not_mem_nil,
    or_false] at member
  rcases member with (((rfl | rfl) | ⟨_, -, rfl⟩) | ⟨_, -, rfl⟩) | (rfl | rfl)
  · exact .text ..
  · exact .text ..
  · exact .text ..
  · exact .text ..
  · refine .list fun v inside => ?_
    obtain ⟨argument, -, rfl⟩ := List.mem_map.mp inside
    exact argument.nests_document depth
  · refine .list fun v inside => ?_
    obtain ⟨library, -, rfl⟩ := List.mem_map.mp inside
    exact .text ..

def fieldsByName (x : Artifact) : List (String × Value) :=
  [("args", .list (x.arguments.map Argument.document))] ++
    optionalField "artifact" .text x.build ++
    [("kind", .text x.kind.text)] ++
    [("libraries", .list (x.libraries.map .text))] ++
    optionalField "link_name" .text x.link ++
    [("name", .text x.name)]

theorem ordered_fieldsByName (x : Artifact) : Catalog.Ordered x.fieldsByName := by
  have sorted : (["args"] ++ ["artifact"] ++ ["kind"] ++ ["libraries"] ++ ["link_name"] ++
      ["name"]).Pairwise (· < ·) := by decide
  refine Catalog.ordered_of_sublist sorted ?_
  simp only [fieldsByName, List.map_append]
  have whole (names : List String) : names.Sublist names := List.Sublist.refl names
  have optional (name : String) (o : Option String) := sublist_names_optionalField name .text o
  exact (((((whole _).append (optional ..)).append (whole _)).append (whole _)).append
    (optional ..)).append (whole _)

/-- By name an artifact has its fields in another order. -/
theorem arrange_byName_document (x : Artifact) :
    Json.Arrangement.byName.arrange x.document =
      .table (Json.Arrangement.byName.inside x.fieldsByName) := by
  refine Json.Arrangement.arrange_byName_table x.ordered_fieldsByName ?_
  have order (A B C D E F : List (String × Value)) :
      (A ++ B ++ C ++ D ++ (E ++ F)).Perm (E ++ C ++ B ++ F ++ D ++ A) := by
    refine Multiset.coe_eq_coe.mp ?_
    simp only [← Multiset.coe_add]
    ac_rfl
  exact order [_] [_] _ _ [_] [_]

/-- **An artifact is read back with all its fields.** -/
theorem read_document (x : Artifact) : Artifact.read .json (a.arrange x.document) = .ok x := by
  let r := layout .json
  have name := takes_field (r := r) "name" readText (fun d s => { d with name := some s })
    (by decide) (fun _ _ => rfl) (readText_arrange a x.name)
  have kind := takes_field (r := r) "kind" (Kind.read .json) (fun d k => { d with kind := k })
    (by decide) (fun _ _ => rfl) (x.kind.read_text a)
  have build := takes_optionalField (r := r) "artifact" readText Draft.build
    (fun d s => { d with build := s }) (by decide) (fun _ _ => rfl) (fun _ => rfl) nofun
    (readText_arrange a) x.build
  have link := takes_optionalField (r := r) "link_name" readText Draft.link
    (fun d s => { d with link := s }) (by decide) (fun _ _ => rfl) (fun _ => rfl) nofun
    (readText_arrange a) x.link
  have arguments := takes_field (r := r) "args" (readList (Argument.read .json))
    (fun d y => { d with arguments := y }) (by decide) (fun _ _ => rfl)
    (readList_arrange a (Argument.read_document a) x.arguments)
  have libraries := takes_field (r := r) "libraries" (readList readText)
    (fun d y => { d with libraries := y }) (by decide) (fun _ _ => rfl)
    (readList_arrange a (readText_arrange a) x.libraries)
  have needed : ∀ f ∈ r.fields, f.named = true → f.name = "name" := by decide
  have draft : r.read .json {} (a.arrange x.document) =
      .ok ⟨some x.name, x.kind, x.build, x.link, x.arguments, x.libraries⟩ := by
    cases a with
    | asWritten =>
        have takes := (((name.append kind).append build).append link).append
          (arguments.append libraries)
        rw [document, Json.Arrangement.arrange_asWritten_table]
        refine (takes.read .json {} fun f member named => ?_).trans (congrArg Except.ok ?_)
        · simp [needed f member named]
        · simp only [Option.map_id', Option.or_none]
    | byName =>
        have takes := ((((arguments.append build).append kind).append libraries).append
          link).append name
        rw [arrange_byName_document]
        refine (takes.read .json {} fun f member named => ?_).trans (congrArg Except.ok ?_)
        · simp [needed f member named]
        · simp only [Option.map_id', Option.or_none]
  rw [Artifact.read, draft]
  rfl

end Artifact

end Rollout
