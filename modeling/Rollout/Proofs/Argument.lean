/-
# Rollout.Proofs.Argument — the values of constructor arguments, and their types

An argument has a value where the artifact it refers to has an address
(`value_eq_ok`).  `Fits` says which types take which arguments: an empty list is a list
of anything.  The arguments of a constructor are encoded exactly when each fits its
parameter (`encode_eq_ok_iff`).
-/
import Mathlib.Data.List.Forall2
import Rollout.Abi.Interface
import Rollout.Artifact

namespace Rollout

set_option autoImplicit false

/-! ## Arguments -/

namespace Argument

/-- The value of an argument where every name has an address. -/
def valueAt (address : String → Address) : Argument → Abi.Value
  | .address a => .word (.address a)
  | .uint n => .word (.uint n)
  | .string s => .string s
  | .bool b => .word (.bool b)
  | .bytes bs => .bytes bs
  | .addresses as => .list (as.map .address)
  | .uints ns => .list (ns.map .uint)
  | .artifact name => .word (.address (address name))

theorem value_eq_ok {resolve : String → Option Address} {address : String → Address}
    (argument : Argument)
    (resolved : ∀ name, argument.reference? = some name → resolve name = some (address name)) :
    argument.value resolve = .ok (argument.valueAt address) := by
  cases argument with
  | artifact name => simp [value, valueAt, resolved name rfl]
  | _ => rfl

/-- Only a reference without an address has no value. -/
theorem value_eq_error_iff {resolve : String → Option Address} {argument : Argument}
    {name : String} :
    argument.value resolve = .error name ↔
      argument.reference? = some name ∧ resolve name = none := by
  cases argument with
  | artifact other =>
      simp only [value, reference?, Option.some.injEq]
      cases found : resolve other with
      | none =>
          constructor
          · rintro ⟨⟩
            exact ⟨rfl, found⟩
          · rintro ⟨rfl, -⟩
            rfl
      | some a =>
          constructor
          · rintro ⟨⟩
          · rintro ⟨rfl, absent⟩
            simp [found] at absent
  | _ => simp [value, reference?]

end Argument

theorem Artifact.mem_references {a : Artifact} {name : String} :
    name ∈ a.references ↔ ∃ argument ∈ a.arguments, argument.reference? = some name := by
  simp [references]

/-! ## Types -/

namespace Argument

/-- The types of parameters that take an argument. -/
inductive Fits : Argument → Abi.DataType → Prop
  | address (a : Address) : Fits (.address a) .address
  | uint (n : BitVec 256) : Fits (.uint n) (.uint 256)
  | string (s : String) : Fits (.string s) .string
  | bool (b : Bool) : Fits (.bool b) .bool
  | bytes (bs : List UInt8) : Fits (.bytes bs) .bytes
  | addresses (as : List Address) : Fits (.addresses as) (.list .address)
  | uints (ns : List (BitVec 256)) : Fits (.uints ns) (.list (.uint 256))
  | artifact (name : String) : Fits (.artifact name) .address
  | noAddresses (element : Abi.DataType) : Fits (.addresses []) (.list element)
  | noUints (element : Abi.DataType) : Fits (.uints []) (.list element)

variable {address : String → Address} {argument : Argument} {type : Abi.DataType}

theorem Fits.accepts (fits : argument.Fits type) :
    type.accepts (argument.valueAt address) = true := by
  cases fits with
  | addresses as => simp [valueAt, Abi.DataType.accepts, Abi.DataType.acceptsWord]
  | uints ns => simp [valueAt, Abi.DataType.accepts, Abi.DataType.acceptsWord]
  | _ => rfl

/-- A type takes exactly the arguments that fit it. -/
theorem accepts_iff : type.accepts (argument.valueAt address) = true ↔ argument.Fits type := by
  refine ⟨fun accepted => ?_, Fits.accepts⟩
  cases argument with
  | address a => cases type <;> first | exact .address a | cases accepted
  | uint n =>
      cases type with
      | uint bits =>
          obtain rfl : bits = 256 := by
            simpa [valueAt, Abi.DataType.accepts, Abi.DataType.acceptsWord] using accepted
          exact .uint n
      | _ => cases accepted
  | string s => cases type <;> first | exact .string s | cases accepted
  | bool b => cases type <;> first | exact .bool b | cases accepted
  | bytes bs => cases type <;> first | exact .bytes bs | cases accepted
  | artifact name => cases type <;> first | exact .artifact name | cases accepted
  | addresses as =>
      cases type with
      | list element =>
          cases as with
          | nil => exact .noAddresses element
          | cons first rest =>
              -- The first element tells the type.
              cases element <;> first | exact .addresses _ | cases accepted
      | _ => cases accepted
  | uints ns =>
      cases type with
      | list element =>
          cases ns with
          | nil => exact .noUints element
          | cons first rest =>
              cases element with
              | uint bits =>
                  obtain rfl : bits = 256 := by
                    simp only [valueAt, Abi.DataType.accepts, Abi.DataType.acceptsWord,
                      List.map_cons, List.all_cons, Bool.and_eq_true, decide_eq_true_eq] at accepted
                    exact accepted.1
                  exact .uints _
              | _ => cases accepted
      | _ => cases accepted

end Argument

namespace Abi

/-- Arguments fit a constructor one by one, and no constructor takes none. -/
def Interface.Fits (abi : Interface) (arguments : List Argument) : Prop :=
  match abi.constructor with
  | some parameters => List.Forall₂ (fun argument (p : Parameter) =>
      ∃ type, p.type = .ok type ∧ argument.Fits type) arguments parameters
  | none => arguments = []

variable {address : String → Address} {arguments : List Argument}

theorem checkTypes_eq_ok_iff {parameters : List Parameter}
    (count : arguments.length = parameters.length) :
    checkTypes parameters (arguments.map (·.valueAt address)) = .ok () ↔
      List.Forall₂ (fun argument (p : Parameter) =>
        ∃ type, p.type = .ok type ∧ argument.Fits type) arguments parameters := by
  induction arguments generalizing parameters with
  | nil =>
      obtain rfl : parameters = [] := List.length_eq_zero_iff.mp count.symm
      simp [checkTypes]
  | cons argument rest ih =>
      cases parameters with
      | nil => simp at count
      | cons p parameters =>
          rw [List.forall₂_cons, ← ih (Nat.succ.inj count), List.map_cons, checkTypes]
          cases typed : p.type with
          | error fault => simp
          | ok type =>
              by_cases fits : argument.Fits type
              · simp [fits, fits.accepts]
              · have refused : type.accepts (argument.valueAt address) = false := by
                  rw [← Bool.not_eq_true, Argument.accepts_iff]
                  exact fits
                simp [fits, refused]

/-- **Arguments are encoded exactly when they fit.** -/
theorem Interface.encode_eq_ok_iff {abi : Interface} {encoded : List UInt8} :
    abi.encode (arguments.map (·.valueAt address)) = .ok encoded ↔
      abi.Fits arguments ∧ encoded = Abi.encode (arguments.map (·.valueAt address)) := by
  unfold Interface.encode Interface.Fits
  cases abi.constructor with
  | none =>
      cases arguments with
      | nil => simp [Abi.encode, encodeFrom, eq_comm]
      | cons argument rest => simp
  | some parameters =>
      simp only [List.length_map]
      by_cases count : arguments.length = parameters.length
      · rw [if_pos count, ← checkTypes_eq_ok_iff count]
        cases checkTypes parameters (arguments.map (·.valueAt address)) with
        | error fault => simp [Except.map]
        | ok done => simp [Except.map, eq_comm]
      · rw [if_neg count]
        simp only [reduceCtorEq, false_iff, not_and]
        exact fun fits => absurd fits.length_eq count

end Abi

end Rollout
