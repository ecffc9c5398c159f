/-
# Rollout.Proofs.Abi.Arguments — constructor arguments survive their encoding

Arguments whose references all have an address are encoded exactly when they fit the parameters
of the constructor one by one, and decoding what is encoded, for the types that are declared,
gives back their values (`Interface.encode_read_back`).
-/
import Rollout.Proofs.Abi.Encoding
import Rollout.Proofs.Argument
import Rollout.Proofs.Checked

namespace Rollout.Abi

set_option autoImplicit false

/-- The parameters of the constructor are declared with these types; without a constructor
there are none. -/
def Interface.Declares (abi : Interface) (types : List DataType) : Prop :=
  (abi.constructor.getD []).map (·.type) = types.map .ok

section

variable {abi : Interface} {arguments : List Argument} {address : String → Address}

/-- Parameters that arguments fit have types, which accept the values of the arguments. -/
theorem exists_types {parameters : List Parameter}
    (fits : List.Forall₂ (fun (argument : Argument) (p : Parameter) =>
      ∃ type, p.type = .ok type ∧ argument.Fits type) arguments parameters) :
    ∃ types, parameters.map (·.type) = types.map .ok ∧
      List.Forall₂ (fun type v => type.accepts v = true) types
        (arguments.map (·.valueAt address)) := by
  induction fits with
  | nil => exact ⟨[], rfl, .nil⟩
  | cons here others ih =>
      obtain ⟨type, typed, fits⟩ := here
      obtain ⟨types, declared, accepted⟩ := ih
      refine ⟨type :: types, ?_, ?_⟩
      · rw [List.map_cons, List.map_cons, typed, declared]
      · rw [List.map_cons]
        exact .cons fits.accepts accepted

theorem Interface.Fits.decode?_encode (fits : abi.Fits arguments)
    (small : (Abi.encode (arguments.map (·.valueAt address))).length < wordLimit) :
    ∃ types, abi.Declares types ∧
      Abi.decode? types (Abi.encode (arguments.map (·.valueAt address))) =
        some (arguments.map (·.valueAt address)) := by
  unfold Interface.Fits at fits
  unfold Interface.Declares
  cases declared : abi.constructor with
  | none =>
      rw [declared] at fits
      obtain rfl : arguments = [] := fits
      exact ⟨[], rfl, rfl⟩
  | some parameters =>
      rw [declared] at fits
      obtain ⟨types, typed, accepted⟩ := exists_types fits
      exact ⟨types, typed, Abi.decode?_encode accepted small⟩

end

/-- **Arguments are encoded exactly when they fit the constructor, and survive.**  Where every
reference has an address, the values of the arguments are encoded exactly when each has the
type of its parameter; what is encoded is decoded for the declared types to the same values in
order, with each reference as its address.  Offsets and lengths are written as words, so what is
encoded must not have more bytes than a word can count; no memory holds that many. -/
theorem Interface.encode_read_back (abi : Interface) (arguments : List Argument)
    (resolve : String → Option Address) (address : String → Address)
    (resolved : ∀ argument ∈ arguments, ∀ name, argument.reference? = some name →
      resolve name = some (address name)) :
    ∃ values, arguments.mapM (Argument.value resolve) = .ok values ∧
      values = arguments.map (·.valueAt address) ∧
      ((∃ encoded, abi.encode values = .ok encoded) ↔ abi.Fits arguments) ∧
      ∀ encoded, abi.encode values = .ok encoded → encoded.length < wordLimit →
        ∃ types, abi.Declares types ∧ decode? types encoded = some values := by
  refine ⟨arguments.map (·.valueAt address), ?_, rfl, ?_, ?_⟩
  · apply Checked.mapM_eq_map
    intro argument member
    exact argument.value_eq_ok (resolved argument member)
  · constructor
    · rintro ⟨encoded, done⟩
      exact (Interface.encode_eq_ok_iff.mp done).1
    · intro fits
      exact ⟨_, Interface.encode_eq_ok_iff.mpr ⟨fits, rfl⟩⟩
  · intro encoded done small
    obtain ⟨fits, rfl⟩ := Interface.encode_eq_ok_iff.mp done
    exact fits.decode?_encode small

/-! ## A constructor with parameters in the head and in the tail -/

namespace Sample

def interface : Interface where
  constructor := some [⟨"address", .ok .address⟩, ⟨"string", .ok .string⟩,
    ⟨"uint256[]", .ok (.list (.uint 256))⟩, ⟨"bool", .ok .bool⟩, ⟨"bytes[]", .ok (.list .bytes)⟩]

def arguments : List Argument :=
  [.artifact "Token", .string "é", .uints [1, 2], .bool true, .addresses []]

def address (_ : String) : Address := Octets.repeated 20 7

def resolve (name : String) : Option Address :=
  if name = "Token" then some (address name) else none

theorem resolved : ∀ argument ∈ arguments, ∀ name, argument.reference? = some name →
    resolve name = some (address name) := by
  intro argument member name refers
  simp only [arguments, List.mem_cons, List.not_mem_nil, or_false] at member
  rcases member with rfl | rfl | rfl | rfl | rfl <;> cases refers
  rfl

end Sample

open Sample in
/-- A reference, a text, a list of numbers, a truth value and an empty list of byte strings. -/
theorem Interface.encode_read_back_mixed :
    (∀ argument ∈ arguments, ∀ name, argument.reference? = some name →
      resolve name = some (address name)) ∧
    ∃ values encoded types, arguments.mapM (Argument.value resolve) = .ok values ∧
      interface.encode values = .ok encoded ∧ encoded.length = 352 ∧
      interface.Declares types ∧ decode? types encoded = some values := by
  refine ⟨resolved, ?_⟩
  obtain ⟨values, valued, rfl, -, survives⟩ :=
    Interface.encode_read_back interface arguments resolve address resolved
  have done : interface.encode (arguments.map (·.valueAt address)) =
      .ok (Abi.encode (arguments.map (·.valueAt address))) := rfl
  have length : (Abi.encode (arguments.map (·.valueAt address))).length = 352 := by
    decide +kernel
  have small : (Abi.encode (arguments.map (·.valueAt address))).length < wordLimit := by
    rw [length]
    decide
  obtain ⟨types, declares, decoded⟩ := survives _ done small
  exact ⟨_, _, types, valued, done, length, declares, decoded⟩

end Rollout.Abi
