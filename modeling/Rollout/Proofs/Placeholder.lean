/-
# Rollout.Proofs.Placeholder — placeholders keep apart from what surrounds them

A placeholder is a core between underscores (`write_eq_framed`).  Where the core is tight,
its frame begins with exactly two underscores and no such beginning stands elsewhere in
it, but for its last two characters (`Tight.back_of_opens`).  What follows the frame is a run
of digits up to the next frame or the end, and no core continues there
(`Tight.not_framed_in_frame`): in compiled bytecode a placeholder is found at its slots only.
-/
import Rollout.Linker
import Rollout.Proofs.Hex

namespace Rollout

set_option autoImplicit false

/-! ## The length of a hash -/

theorem Keccak.length_hash (message : List UInt8) : (Keccak.hash message).length = 32 := by
  simp only [Keccak.hash, List.length_flatMap, Keccak.bytesOfLane, List.length_map,
    List.length_range]
  rfl

namespace Placeholder

/-! ## Frames -/

/-- The two ways in which compilers write a placeholder. -/
inductive Form where
  | legacy
  | hashed
  deriving DecidableEq

def write : Form → List Char → List Char
  | .legacy, name => legacy name
  | .hashed, name => hashed name

/-- What the underscores of a placeholder surround. -/
def core : Form → List Char → List Char
  | .legacy, name => name.take (width - 4)
  | .hashed, name => '$' :: Hex.encode ((Keccak.hash (Text.bytes name)).take 17) ++ ['$']

/-- Two underscores, a core, and underscores up to the width. -/
def framed (core : List Char) : List Char :=
  '_' :: '_' :: core ++ List.replicate (width - 2 - core.length) '_'

theorem length_core (form : Form) (name : List Char) : (core form name).length ≤ width - 4 := by
  cases form with
  | legacy => exact List.length_take_le ..
  | hashed =>
      simp [core, Hex.length_encode, Keccak.length_hash, width]

theorem write_eq_framed (form : Form) (name : List Char) :
    write form name = framed (core form name) := by
  cases form with
  | legacy => rfl
  | hashed =>
      have full : (core .hashed name).length = width - 4 := by
        simp [core, Hex.length_encode, Keccak.length_hash, width]
      rw [framed, full]
      simp [write, hashed, core, width, List.replicate]

theorem length_framed {core : List Char} (short : core.length ≤ width - 4) :
    (framed core).length = width := by
  simp only [framed, width, List.cons_append, List.length_cons, List.length_append,
    List.length_replicate] at short ⊢
  omega

theorem length_write (form : Form) (name : List Char) : (write form name).length = width := by
  rw [write_eq_framed, length_framed (length_core form name)]

/-- Every placeholder begins with an underscore, -/
theorem head?_write (form : Form) (name : List Char) : (write form name).head? = some '_' := by
  rw [write_eq_framed]
  rfl

/-- and ends with one. -/
theorem getLast?_write (form : Form) (name : List Char) :
    (write form name).getLast? = some '_' := by
  have short := length_core form name
  obtain ⟨count, padding⟩ : ∃ count, width - 2 - (core form name).length = count + 1 := by
    simp only [width] at short ⊢
    exact ⟨37 - (core form name).length, by omega⟩
  rw [write_eq_framed, framed, padding, List.replicate_succ', ← List.append_assoc,
    List.getLast?_concat]

/-! ## Tight cores -/

/-- A core that its frame keeps apart: it is not empty, it neither begins nor ends with
an underscore, no two stand beside each other in it, and it is not all digits up to
the width. -/
structure Tight (core : List Char) : Prop where
  short : core.length ≤ width - 4
  nonempty : core ≠ []
  head : core.head? ≠ some '_'
  last : core.getLast? ≠ some '_'
  pair : ¬ ['_', '_'] <:+: core
  mixed : ¬ (core.length = width - 4 ∧ ∀ c ∈ core, c ∈ Hex.alphabet)

/-- A name whose first thirty-six characters a placeholder can hold apart.  Letters
outside ASCII do no harm. -/
structure Plain (name : List Char) : Prop where
  nonempty : name.take (width - 4) ≠ []
  dollar : '$' ∉ name.take (width - 4)
  pair : ¬ ['_', '_'] <:+: name.take (width - 4)
  head : (name.take (width - 4)).head? ≠ some '_'
  last : (name.take (width - 4)).getLast? ≠ some '_'
  mixed : ¬ ((name.take (width - 4)).length = width - 4 ∧
    ∀ c ∈ name.take (width - 4), c ∈ Hex.alphabet)

/-- The hash of any name keeps apart, and the name itself where it is plain. -/
theorem Plain.tight {name : List Char} (plain : Plain name) (form : Form) :
    Tight (core form name) := by
  cases form with
  | legacy =>
      exact ⟨length_core .legacy name, plain.nonempty, plain.head, plain.last, plain.pair,
        plain.mixed⟩
  | hashed =>
      have noUnderscore : '_' ∉ core .hashed name := by
        intro member
        simp only [core, List.cons_append, List.mem_cons, List.mem_append, List.not_mem_nil,
          or_false] at member
        rcases member with absurd | member | absurd
        · exact (by decide : '_' ≠ '$') absurd
        · exact absurd (Hex.mem_alphabet_of_encode member) (by decide)
        · exact (by decide : '_' ≠ '$') absurd
      refine ⟨length_core .hashed name, by simp [core], by simp [core], ?_, ?_, ?_⟩
      · rw [core, List.getLast?_append]
        simp
      · exact fun inside => noUnderscore (inside.subset (List.mem_cons_self ..))
      · rintro ⟨-, digits⟩
        exact absurd (digits '$' (List.mem_cons_self ..)) (by decide)

/-! ## Where a placeholder can begin -/

/-- Text in which two underscores and no third come first. -/
structure Opens (text : List Char) : Prop where
  cut : ∃ c more, text = '_' :: '_' :: c :: more ∧ c ≠ '_'

theorem Opens.append {text : List Char} (opens : Opens text) (beyond : List Char) :
    Opens (text ++ beyond) := by
  obtain ⟨c, more, rfl, other⟩ := opens.cut
  exact ⟨c, more ++ beyond, rfl, other⟩

/-- A frame begins with two underscores and no third. -/
theorem Tight.opens {core : List Char} (tight : Tight core) : Opens (framed core) := by
  obtain ⟨c, more, rfl⟩ := List.exists_cons_of_ne_nil tight.nonempty
  exact ⟨c, _, rfl, fun same => tight.head (by simp [same])⟩

/-- A core is padded with at least two underscores. -/
theorem Tight.padding {core : List Char} (tight : Tight core) :
    ∃ count, width - 2 - core.length = count + 2 := by
  have short := tight.short
  simp only [width] at short ⊢
  exact ⟨36 - core.length, by omega⟩

/-- No end of a tight core opens a frame with the padding behind it. -/
theorem Tight.not_opens {front back : List Char} (tight : Tight (front ++ back))
    (left : back ≠ []) (count : Nat) (rest : List Char) :
    ¬ Opens (back ++ (List.replicate (count + 1) '_' ++ rest)) := by
  rintro ⟨c, more, same, -⟩
  match back with
  | [] => exact left rfl
  | [only] =>
      simp only [List.cons_append, List.cons.injEq] at same
      exact tight.last (by simp [same.1])
  | d :: e :: back =>
      simp only [List.cons_append, List.cons.injEq] at same
      obtain ⟨rfl, rfl, -⟩ := same
      exact tight.pair ⟨front, back, by simp⟩

/-- Three underscores or more do not open a frame. -/
theorem Opens.count_le {count : Nat} {rest : List Char}
    (opens : Opens (List.replicate count '_' ++ rest)) : count ≤ 2 := by
  obtain ⟨c, more, same, other⟩ := opens.cut
  match count with
  | 0 | 1 | 2 => omega
  | count + 3 =>
      simp only [List.replicate_succ, List.cons_append, List.cons.injEq, true_and] at same
      exact absurd same.1.symm other

/-! ## What follows a placeholder -/

/-- A run of digits up to a frame or to the end. -/
structure Continues (rest : List Char) : Prop where
  cut : ∃ run tail, rest = run ++ tail ∧ (∀ c ∈ run, c ∈ Hex.alphabet) ∧ (tail = [] ∨ Opens tail)

theorem Continues.nil : Continues [] :=
  ⟨[], [], rfl, by simp, Or.inl rfl⟩

theorem Continues.digits {cs rest : List Char} (digits : ∀ c ∈ cs, c ∈ Hex.alphabet)
    (continues : Continues rest) : Continues (cs ++ rest) := by
  obtain ⟨run, tail, rfl, onward, stop⟩ := continues.cut
  refine ⟨cs ++ run, tail, by rw [List.append_assoc], ?_, stop⟩
  intro c member
  rcases List.mem_append.mp member with here | later
  · exact digits c here
  · exact onward c later

theorem Tight.continues {core : List Char} (tight : Tight core) (rest : List Char) :
    Continues (framed core ++ rest) :=
  ⟨[], framed core ++ rest, rfl, by simp, Or.inr (tight.opens.append rest)⟩

theorem Continues.head {first : Char} {rest : List Char} (continues : Continues (first :: rest)) :
    first ∈ Hex.alphabet ∨ Opens (first :: rest) := by
  obtain ⟨run, tail, same, digits, stop⟩ := continues.cut
  cases run with
  | nil =>
      rcases stop with rfl | opens
      · cases same
      · rw [List.nil_append] at same
        exact Or.inr (same ▸ opens)
  | cons digit run =>
      obtain ⟨rfl, -⟩ := List.cons.inj same
      exact Or.inl (digits first (List.mem_cons_self ..))

theorem underscore_not_mem_alphabet : '_' ∉ Hex.alphabet := by decide

/-- No tight core with its padding stands where a placeholder has ended. -/
theorem Tight.not_prefix {core rest : List Char} (tight : Tight core)
    (continues : Continues rest) :
    ¬ core ++ List.replicate (width - 2 - core.length) '_' <+: rest := by
  rintro ⟨beyond, same⟩
  obtain ⟨run, tail, rfl, digits, stop⟩ := continues.cut
  obtain ⟨count, padding⟩ := tight.padding
  rw [padding, List.append_assoc] at same
  -- Were the core the whole run, it would be all digits up to the width.
  have together : core = run → List.replicate (count + 2) '_' ++ beyond = tail → False := by
    rintro rfl padded
    rcases stop with rfl | opens
    · simp [List.replicate_succ] at padded
    · have few := (padded ▸ opens).count_le
      refine tight.mixed ⟨?_, digits⟩
      simp only [width] at padding ⊢
      omega
  -- The core ends before the run of digits does, or goes on behind it.
  rcases List.append_eq_append_iff.mp same with ⟨more, ahead, padded⟩ | ⟨more, rfl, stopped⟩
  · cases more with
    | nil => exact together (by simpa using ahead.symm) padded
    | cons digit more =>
        simp only [List.replicate_succ, List.cons_append, List.cons.injEq] at padded
        have isDigit : digit ∈ Hex.alphabet := digits digit (by simp [ahead])
        rw [← padded.1] at isDigit
        exact underscore_not_mem_alphabet isDigit
  · rcases stop with rfl | opens
    · simp [List.replicate_succ] at stopped
    · by_cases empty : more = []
      · subst empty
        exact together (List.append_nil run) stopped.symm
      · exact tight.not_opens empty (count + 1) beyond (stopped ▸ opens)

/-! ## Inside a placeholder -/

/-- In the padding of a frame, only the last two underscores can open another. -/
theorem Opens.count_eq {count : Nat} {rest : List Char}
    (opens : Opens (List.replicate count '_' ++ rest)) (continues : Continues rest)
    (some : count ≠ 0) : count = 2 := by
  have few := opens.count_le
  have notOne : count ≠ 1 := by
    rintro rfl
    -- The text behind would begin with an underscore that is alone.
    obtain ⟨c, more, same, other⟩ := opens.cut
    have after : rest = '_' :: c :: more := by simpa using same
    rcases (after ▸ continues).head with digit | alone
    · exact underscore_not_mem_alphabet digit
    · obtain ⟨d, further, pair, -⟩ := alone.cut
      simp only [List.cons.injEq] at pair
      exact other pair.2.1
  omega

/-- The only place inside a frame that can open another is in front of its last two
underscores. -/
theorem Tight.back_of_opens {core rest front back : List Char} (tight : Tight core)
    (continues : Continues rest) (split : framed core = front ++ back) (inside : front ≠ [])
    (left : back ≠ []) (opens : Opens (back ++ rest)) : back = ['_', '_'] := by
  have padded : ∀ count, back = List.replicate count '_' → back = ['_', '_'] := by
    rintro count rfl
    have some : count ≠ 0 := fun none => left (by rw [none]; rfl)
    rw [opens.count_eq continues some]
    rfl
  obtain ⟨count, padding⟩ := tight.padding
  rw [framed, padding, List.cons_append, List.cons_append] at split
  match front, split with
  | [first], split =>
      -- Behind the first underscore stands the second, and then the core.
      obtain ⟨c, more, same, -⟩ := opens.cut
      obtain ⟨d, core', rfl⟩ := List.exists_cons_of_ne_nil tight.nonempty
      simp only [List.cons_append, List.nil_append, List.cons.injEq] at split
      rw [← split.2] at same
      simp only [List.cons_append, List.cons.injEq] at same
      exact absurd (by simp [same.2.1]) tight.head
  | first :: second :: front, split =>
      simp only [List.cons_append, List.cons.injEq] at split
      rcases List.append_eq_append_iff.mp split.2.2 with ⟨mid, -, inPadding⟩ | ⟨mid, rfl, rfl⟩
      · exact padded _ (List.append_eq_replicate_iff.mp inPadding.symm).2.2
      · by_cases empty : mid = []
        · exact padded (count + 2) (by rw [empty, List.nil_append])
        · rw [List.append_assoc] at opens
          exact absurd opens (tight.not_opens empty (count + 1) rest)

/-- **Inside a placeholder and what follows it, no other placeholder begins.** -/
theorem Tight.not_framed_in_frame {core other rest : List Char} (tight : Tight core)
    (tight' : Tight other) (continues : Continues rest) {front back : List Char}
    (split : framed core = front ++ back) (inside : front ≠ []) (left : back ≠ []) :
    ¬ framed other <+: back ++ rest := by
  rintro ⟨beyond, same⟩
  have opens : Opens (back ++ rest) := same ▸ tight'.opens.append beyond
  have last := tight.back_of_opens continues split inside left opens
  rw [last, framed] at same
  simp only [List.cons_append, List.nil_append, List.cons.injEq, true_and] at same
  exact tight'.not_prefix continues ⟨beyond, same⟩

/-- In a run of digits no placeholder begins. -/
theorem Tight.not_framed_in_digits {core rest back : List Char} (tight : Tight core)
    (digits : ∀ c ∈ back, c ∈ Hex.alphabet) (left : back ≠ []) :
    ¬ framed core <+: back ++ rest := by
  intro found
  obtain ⟨c, more, opens, -⟩ := tight.opens.cut
  obtain ⟨d, back', rfl⟩ := List.exists_cons_of_ne_nil left
  rw [opens] at found
  have same : '_' = d := (List.cons_prefix_cons.mp found).1
  exact underscore_not_mem_alphabet (same ▸ digits d (List.mem_cons_self ..))

end Placeholder

end Rollout
