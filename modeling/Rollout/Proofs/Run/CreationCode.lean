/-
# Rollout.Proofs.Run.CreationCode — when the creation code that is sent is empty

Bytecode is cleaned twice: blanks at its ends and a marker in front are taken away when a
build output is made, which must leave something (`Made.filled`), and once more when it is
linked.  The second time nothing changes exactly when what was left first is bare, starting
with neither a blank nor another marker (`Made.wraps_iff`), and nothing is left exactly when
it was a marker alone (`Made.empty_iff`).

Linking keeps the length (`length_linked`), and so the creation code of a payload is empty
exactly in that last case (`execute_creation_code`).
-/
import Mathlib.Data.List.TakeWhile
import Rollout.Proofs.Linker.Settled
import Rollout.Proofs.Run.Calls

namespace Rollout

set_option autoImplicit false

/-! ## Blanks and markers -/

namespace Text

variable {cs : List Char} {c : Char}

/-- What is left behind blanks does not start with one. -/
theorem head_dropWhile (first : (cs.dropWhile isBlank).head? = some c) : isBlank c = false := by
  have stopped := List.head?_dropWhile_not isBlank cs
  rw [first] at stopped
  exact stopped

/-- A trimmed text does not end with a blank. -/
theorem last_trim (last : (trim cs).getLast? = some c) : isBlank c = false := by
  rw [trim, trimBy, dropEnd, List.getLast?_reverse] at last
  exact head_dropWhile last

theorem length_trim_le (cs : List Char) : (trim cs).length ≤ (cs.dropWhile isBlank).length := by
  have kept := (List.dropWhile_suffix isBlank (l := (cs.dropWhile isBlank).reverse)).length_le
  rw [List.length_reverse] at kept
  rw [trim, trimBy, dropEnd, List.length_reverse]
  exact kept

/-- A text that trimming leaves as it is does not start with a blank. -/
theorem head_of_trim_eq (same : trim cs = cs) (first : cs.head? = some c) : isBlank c = false := by
  have suffix : cs.dropWhile isBlank <:+ cs := List.dropWhile_suffix isBlank
  have shorter := length_trim_le cs
  rw [same] at shorter
  rw [← suffix.eq_of_length_le shorter] at first
  exact head_dropWhile first

/-- A text with a character that is no blank is not trimmed away. -/
theorem trim_ne_nil (member : c ∈ cs) (visible : isBlank c = false) : trim cs ≠ [] := by
  intro gone
  rw [trim, trimBy, dropEnd, List.reverse_eq_nil_iff, List.dropWhile_eq_nil_iff] at gone
  cases front : cs.dropWhile isBlank with
  | nil =>
      have blank := List.dropWhile_eq_nil_iff.mp front c member
      rw [visible] at blank
      cases blank
  | cons first rest =>
      have visible' : isBlank first = false := head_dropWhile (by rw [front]; rfl)
      have blank := gone first (by rw [front]; simp)
      rw [visible'] at blank
      cases blank

end Text

namespace Hex

variable {cs : List Char}

theorem withoutMarker_suffix (cs : List Char) : withoutMarker cs <:+ cs := by
  unfold withoutMarker
  split
  · exact ⟨['0', 'x'], rfl⟩
  · exact ⟨['0', 'X'], rfl⟩
  · exact List.suffix_rfl

/-- Nothing is left of a marker alone. -/
theorem withoutMarker_eq_nil_iff :
    withoutMarker cs = [] ↔ cs = [] ∨ cs = ['0', 'x'] ∨ cs = ['0', 'X'] := by
  constructor
  · intro gone
    unfold withoutMarker at gone
    split at gone
    · exact Or.inr (Or.inl (by rw [gone]))
    · exact Or.inr (Or.inr (by rw [gone]))
    · exact Or.inl gone
  · rintro (rfl | rfl | rfl) <;> rfl

theorem length_of_decodeFrom {position : Nat} {bytes code : List UInt8}
    (decoded : decodeFrom position bytes = .ok code) : bytes.length = 2 * code.length := by
  match bytes with
  | [] =>
      cases decoded
      rfl
  | [_] => cases decoded
  | high :: low :: rest =>
      obtain ⟨h, atHigh⟩ := read_of_decodeFrom decoded high (List.mem_cons_self ..)
      obtain ⟨l, atLow⟩ :=
        read_of_decodeFrom decoded low (List.mem_cons_of_mem _ (List.mem_cons_self ..))
      cases later : decodeFrom (position + 2) rest with
      | error fault => simp [decodeFrom, atHigh, atLow, later, Except.map] at decoded
      | ok more =>
          have count := length_of_decodeFrom later
          simp only [decodeFrom, atHigh, atLow, later, Except.map, Except.ok.injEq] at decoded
          rw [← decoded, List.length_cons, List.length_cons, List.length_cons, count]
          omega

/-- **Two digits make a byte.** -/
theorem length_of_decode {cs : List Char} {code : List UInt8}
    (decoded : decode (Text.bytes cs) = .ok code) : cs.length = 2 * code.length := by
  have digits := mem_alphabet_of_decode decoded
  by_cases odd : (Text.bytes cs).length % 2 = 1
  · rw [decode, if_pos odd] at decoded
    cases decoded
  · rw [decode, if_neg odd] at decoded
    rw [← length_bytes digits, length_of_decodeFrom decoded]

end Hex

/-! ## Build outputs -/

namespace Build

/-- A text that starts with neither a blank nor a marker. -/
structure Bare (cs : List Char) : Prop where
  visible : ∀ c, cs.head? = some c → Text.isBlank c = false
  unmarked : Hex.withoutMarker cs = cs

/-- A build output that is made from some text. -/
def Compiled.Made (compiled : Compiled) : Prop :=
  ∃ name text abi, Compiled.make name text abi = .ok compiled

theorem Compiled.make_eq_ok_iff {name text : String} {abi : Abi.Interface} {compiled : Compiled} :
    make name text abi = .ok compiled ↔
      Hex.withoutMarker (Text.trim text.toList) ≠ [] ∧
        compiled = ⟨name, String.ofList (Hex.withoutMarker (Text.trim text.toList)), abi⟩ := by
  unfold Compiled.make
  cases Hex.withoutMarker (Text.trim text.toList) with
  | nil => simp
  | cons c code => simp [eq_comm]

namespace Compiled.Made

variable {compiled : Compiled} (made : compiled.Made)

include made

/-- There is bytecode, and it does not end with a blank. -/
theorem exists_last :
    ∃ c, compiled.bytecode.toList.getLast? = some c ∧ Text.isBlank c = false := by
  obtain ⟨name, text, abi, ok⟩ := made
  obtain ⟨filled, rfl⟩ := Compiled.make_eq_ok_iff.mp ok
  rw [String.toList_ofList]
  obtain ⟨before, whole⟩ := Hex.withoutMarker_suffix (Text.trim text.toList)
  cases last : (Hex.withoutMarker (Text.trim text.toList)).getLast? with
  | none => exact absurd (List.getLast?_eq_none_iff.mp last) filled
  | some c =>
      have ends : (Text.trim text.toList).getLast? = some c := by
        rw [← whole, List.getLast?_append, last]
        rfl
      exact ⟨c, rfl, Text.last_trim ends⟩

theorem filled : compiled.bytecode.toList ≠ [] := by
  obtain ⟨c, last, -⟩ := made.exists_last
  intro empty
  rw [empty] at last
  cases last

/-- **The linker wraps the bytecode as it is exactly when that is bare.** -/
theorem wraps_iff :
    (Linker.ofBytecode compiled.bytecode).code = compiled.bytecode.toList ↔
      Bare compiled.bytecode.toList := by
  obtain ⟨c, last, visible⟩ := made.exists_last
  constructor
  · intro wrapped
    have wrapped : Hex.withoutMarker (Text.trim compiled.bytecode.toList) =
        compiled.bytecode.toList := wrapped
    -- What is wrapped is no longer than what is trimmed, and that no longer than the whole.
    have trimmed : Text.trim compiled.bytecode.toList = compiled.bytecode.toList := by
      have suffix := Hex.withoutMarker_suffix (Text.trim compiled.bytecode.toList)
      rw [wrapped] at suffix
      have shorter := (Text.length_trim_le compiled.bytecode.toList).trans
        (List.dropWhile_suffix Text.isBlank).length_le
      exact (suffix.eq_of_length_le shorter).symm
    refine ⟨fun c first => Text.head_of_trim_eq trimmed first, ?_⟩
    rw [trimmed] at wrapped
    exact wrapped
  · intro bare
    have trimmed : Text.trim compiled.bytecode.toList = compiled.bytecode.toList := by
      refine Text.trimBy_eq_self bare.visible fun d last' => ?_
      rw [last] at last'
      cases last'
      exact visible
    show Hex.withoutMarker (Text.trim compiled.bytecode.toList) = compiled.bytecode.toList
    rw [trimmed, bare.unmarked]

/-- **Nothing is left for the linker exactly when the bytecode is a marker alone.** -/
theorem empty_iff :
    (Linker.ofBytecode compiled.bytecode).code = [] ↔
      Text.trim compiled.bytecode.toList = ['0', 'x'] ∨
        Text.trim compiled.bytecode.toList = ['0', 'X'] := by
  obtain ⟨c, last, visible⟩ := made.exists_last
  have some : Text.trim compiled.bytecode.toList ≠ [] :=
    Text.trim_ne_nil (List.mem_of_getLast? last) visible
  show Hex.withoutMarker (Text.trim compiled.bytecode.toList) = [] ↔ _
  rw [Hex.withoutMarker_eq_nil_iff]
  exact or_iff_right some

end Compiled.Made

end Build

/-! ## Linking -/

namespace Linker

theorem length_linkAll (linkName : String → String) (address : String → Address) (l : Linker)
    (libraries : List String) :
    (linkAll linkName address l libraries).code.length = l.code.length := by
  induction libraries generalizing l with
  | nil => rfl
  | cons first rest ih =>
      show (linkAll linkName address (l.link (linkName first) (address first)).1 rest).code.length = _
      rw [ih, length_link]

theorem length_of_bytes {l : Linker} {code : List UInt8} (complete : l.unlinked = [])
    (decoded : l.bytes = .ok code) : l.code.length = 2 * code.length := by
  rw [bytes_of_unlinked complete, Checked.mapError_eq_ok] at decoded
  exact Hex.length_of_decode decoded

end Linker

namespace Run

section Payloads

variable {linkName : String → String} {resolve : String → Option Address} {a : Artifact}
  {bytecode : String}

theorem length_linked {l : Linker} (ok : linked linkName resolve a bytecode = .ok l) :
    l.code.length = (Linker.ofBytecode bytecode).code.length := by
  obtain ⟨address, known⟩ := exists_addresses (resolved_of_linked ok)
  have all : linked linkName resolve a bytecode =
      .ok (Linker.linkAll linkName address (.ofBytecode bytecode) a.libraries) :=
    foldlM_linkLibrary_eq_ok known
  rw [ok] at all
  rw [Except.ok.inj all, Linker.length_linkAll]

theorem length_of_creationCode {code : List UInt8}
    (ok : creationCode linkName resolve a bytecode = .ok code) :
    (Linker.ofBytecode bytecode).code.length = 2 * code.length := by
  obtain ⟨l, linked, complete, decoded⟩ := creationCode_eq_ok_iff.mp ok
  rw [← length_linked linked, Linker.length_of_bytes complete decoded]

theorem creationCode_eq_nil_iff {code : List UInt8}
    (ok : creationCode linkName resolve a bytecode = .ok code) :
    code = [] ↔ (Linker.ofBytecode bytecode).code = [] := by
  have count := length_of_creationCode ok
  rw [← List.length_eq_zero_iff, ← List.length_eq_zero_iff]
  omega

end Payloads

/-! ## Runs -/

section Runs

variable {σ : Type}

/-- What is sent for a step of a plan: creation code that is made of a build output, and
encoded arguments behind it. -/
structure SentFor (setting : Setting σ) (plan : Plan) (outcome : Outcome σ) (place : Nat)
    (step : Plan.Step) (compiled : Build.Compiled) (code encoded : List UInt8) : Prop where
  found : plan.steps[place]? = some step
  loaded : setting.source step.artifact.buildName = .ok compiled
  /-- The bytecode is linked with the addresses recorded before. -/
  created : creationCode (linkNameOf plan.artifacts) (addressOf (outcome.records.take place))
    step.artifact compiled.bytecode = .ok code
  fits : ∃ values, arguments (addressOf (outcome.records.take place)) step.artifact = .ok values ∧
    compiled.abi.encode values = .ok encoded
  sent : (Exchange.payloads outcome.exchanges)[place]? = some (code ++ encoded)

variable {setting : Setting σ} {plan : Plan} {network : Network} {start : σ}

theorem Ends.sentFor {outcome : Outcome σ} (ends : Ends setting plan network start outcome)
    {place : Nat} {payload : List UInt8}
    (there : (Exchange.payloads outcome.exchanges)[place]? = some payload) :
    ∃ step compiled code encoded, payload = code ++ encoded ∧
      SentFor setting plan outcome place step compiled code encoded := by
  obtain ⟨step, found, paid⟩ := ends.inOrder there
  obtain ⟨values, compiled, l, code, encoded, resolved, loaded, linked, complete, decoded, fits,
    whole⟩ := payload_eq_ok_iff.mp paid
  have created : creationCode (linkNameOf plan.artifacts)
      (addressOf (outcome.records.take place)) step.artifact compiled.bytecode = .ok code :=
    creationCode_eq_ok_iff.mpr ⟨l, linked, complete, decoded⟩
  rw [whole] at there
  exact ⟨step, compiled, code, encoded, whole, found, loaded, created, ⟨values, resolved, fits⟩,
    there⟩

/-- What the linker makes of a build output. -/
structure Taken (compiled : Build.Compiled) : Prop where
  /-- There is bytecode. -/
  filled : compiled.bytecode.toList ≠ []
  /-- It is wrapped as it is exactly when it is bare. -/
  wraps_iff : (Linker.ofBytecode compiled.bytecode).code = compiled.bytecode.toList ↔
    Build.Bare compiled.bytecode.toList
  /-- Nothing of it is wrapped exactly when it is a marker alone. -/
  empty_iff : (Linker.ofBytecode compiled.bytecode).code = [] ↔
    Text.trim compiled.bytecode.toList = ['0', 'x'] ∨
      Text.trim compiled.bytecode.toList = ['0', 'X']

theorem taken_of_made {compiled : Build.Compiled} (made : compiled.Made) : Taken compiled :=
  ⟨made.filled, made.wraps_iff, made.empty_iff⟩

/-- A marker alone is not bare. -/
theorem Taken.ne_nil_of_bare {compiled : Build.Compiled} (taken : Taken compiled)
    (bare : Build.Bare compiled.bytecode.toList) :
    (Linker.ofBytecode compiled.bytecode).code ≠ [] := by
  rw [taken.wraps_iff.mpr bare]
  exact taken.filled

/-- **When empty creation code is sent.**  A build output that is made from some text has
bytecode, which the linker wraps as it is exactly when it is bare.  In a run over such build
outputs, the creation code of what is sent is empty exactly when the bytecode is a marker
alone, and so it never is when the bytecode is bare. -/
theorem execute_creation_code (setting : Setting σ)
    (made : ∀ name compiled, setting.source name = .ok compiled → compiled.Made)
    (plan : Plan) (network : Network) (start : σ) :
    (∀ compiled : Build.Compiled, compiled.Made → Taken compiled) ∧
      ∀ place payload,
        (Exchange.payloads (execute setting plan network start).exchanges)[place]? = some payload →
        ∃ step compiled code encoded, payload = code ++ encoded ∧
          SentFor setting plan (execute setting plan network start) place step compiled code
            encoded ∧
          compiled.Made ∧
          (code = [] ↔ Text.trim compiled.bytecode.toList = ['0', 'x'] ∨
            Text.trim compiled.bytecode.toList = ['0', 'X']) ∧
          (Build.Bare compiled.bytecode.toList → code ≠ []) := by
  refine ⟨fun compiled => taken_of_made, fun place payload there => ?_⟩
  obtain ⟨step, compiled, code, encoded, whole, sentFor⟩ :=
    (execute_ends setting plan network start).sentFor there
  have maker := made step.artifact.buildName compiled sentFor.loaded
  have taken := taken_of_made maker
  have empty := creationCode_eq_nil_iff sentFor.created
  refine ⟨step, compiled, code, encoded, whole, sentFor, maker, empty.trans taken.empty_iff,
    fun bare none => ?_⟩
  exact taken.ne_nil_of_bare bare (empty.mp none)

/-! ## Code behind one marker, and behind two -/

/-- Build outputs that are made from the same text. -/
def Sample.making (text : String) : Build.Source := fun name =>
  Build.Compiled.make name text .empty

theorem Sample.made_of_making {text name : String} {compiled : Build.Compiled}
    (loaded : Sample.making text name = .ok compiled) : compiled.Made :=
  ⟨name, text, .empty, loaded⟩

/-- The code behind one marker is sent as it is. -/
theorem execute_creation_code_marked :
    let setting : Setting Unit := ⟨Sample.making "0x6000", Sample.delivery, .never, fun _ => default⟩
    let outcome := execute setting (.ofArtifacts [Sample.token]) {} ()
    Exchange.payloads outcome.exchanges = [[0x60, 0]] ∧
      ∃ step compiled code encoded, [0x60, 0] = code ++ encoded ∧
        SentFor setting (.ofArtifacts [Sample.token]) outcome 0 step compiled code encoded ∧
        (Build.Bare compiled.bytecode.toList → code ≠ []) := by
  intro setting outcome
  have sent : Exchange.payloads outcome.exchanges = [[0x60, 0]] := rfl
  have made : ∀ name compiled, setting.source name = .ok compiled → compiled.Made := by
    intro name compiled loaded
    have loaded : Sample.making "0x6000" name = .ok compiled := loaded
    exact Sample.made_of_making loaded
  have there : (Exchange.payloads outcome.exchanges)[0]? = some [0x60, 0] := by
    rw [sent]
    rfl
  obtain ⟨step, compiled, code, encoded, whole, sentFor, -, -, bare⟩ :=
    (execute_creation_code setting made (.ofArtifacts [Sample.token]) {} ()).2 0 [0x60, 0] there
  exact ⟨sent, step, compiled, code, encoded, whole, sentFor, bare⟩

/-- Behind two markers there is nothing; yet a build output is made, and what is sent for it
is empty. -/
theorem execute_sends_no_code :
    let setting : Setting Unit := ⟨Sample.making "0x0x", Sample.delivery, .never, fun _ => default⟩
    Sample.making "0x0x" "Token" = .ok ⟨"Token", "0x", .empty⟩ ∧
      (Linker.ofBytecode "0x").code = [] ∧
      Exchange.payloads (execute setting (.ofArtifacts [Sample.token]) {} ()).exchanges = [[]] :=
  ⟨rfl, rfl, rfl⟩

end Runs

end Run

end Rollout
