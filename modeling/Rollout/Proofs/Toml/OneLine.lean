/-
# Rollout.Proofs.Toml.OneLine — readers that look no further than the line

Numbers, dates, strings on one line and keys are read the same of two texts that stand beside
each other: none of these readers accepts or skips the end of a line.
-/
import Mathlib
import Rollout.Proofs.Toml.Beside

namespace Rollout.Toml

set_option autoImplicit false

/-! ## Numbers -/

theorem sign_of_ne {c : Char} (minus : c ≠ '-') (plus : c ≠ '+') (cs : List Char) :
    sign (c :: cs) = (false, c :: cs) := by
  simp [sign, minus, plus]

theorem Beside.sign {last last' cs cs' : List Char} {n : Nat} (ends : Ends last last')
    (beside : Beside last last' n cs cs') : ∃ negative unsigned unsigned',
      sign cs = (negative, unsigned) ∧ sign cs' = (negative, unsigned') ∧
        Beside last last' n unsigned unsigned' := by
  cases beside with
  | ends n => cases ends with
    | text => exact ⟨false, _, _, rfl, rfl, .ends n⟩
    | line u u' => exact ⟨false, _, _, rfl, rfl, .ends n⟩
  | cons c rest =>
      by_cases minus : c = '-'
      · subst minus
        exact ⟨true, _, _, rfl, rfl, rest.mono (Nat.le_succ _)⟩
      · by_cases plus : c = '+'
        · subst plus
          exact ⟨false, _, _, rfl, rfl, rest.mono (Nat.le_succ _)⟩
        · exact ⟨false, _, _, sign_of_ne minus plus _, sign_of_ne minus plus _, .cons c rest⟩

theorem stops_digitGroup {isDigit : Char → Bool} (stops : isDigit '\x0a' = false) :
    Stops (digitGroup isDigit) := by
  intro last last' ends n cs cs' beside
  have run := beside.takeWhile ends (p := fun c => isDigit c || c = '_') (by simp [stops])
  have rest := beside.dropWhile ends (p := fun c => isDigit c || c = '_') (by simp [stops])
  simp only [digitGroup, Text.drop_length_takeWhile]
  simp only [run]
  exact .guard _ _ rest

theorem stops_fixed (count least most : Nat) : Stops (fixed count least most) := by
  intro last last' ends n cs cs' beside
  have fails {cs : List Char} (short : (cs.take count).length < count ∨ '\x0a' ∈ cs.take count) :
      fixed count least most cs = none := by
    refine if_neg fun ⟨length, digits, _⟩ => ?_
    rcases short with short | line
    · omega
    · have digit := List.all_eq_true.mp digits _ line
      cases digit
  rcases beside.take ends count with ⟨same, rest⟩ | ⟨short, short'⟩
  · unfold fixed
    simp only [← same]
    exact .guard _ _ rest
  · rw [fails short, fails short']
    exact .nothing

theorem stops_decimal : Stops decimal := by
  intro last last' ends n cs cs' beside
  have group : Stops (digitGroup Char.isDigit) := stops_digitGroup rfl
  have other {c : Char} (zero : c ≠ '0') (cs : List Char) :
      decimal (c :: cs) = digitGroup Char.isDigit (c :: cs) := by simp [decimal, zero]
  cases beside with
  | ends n => cases ends with
    | text => exact group .text (.ends n)
    | line u u' => exact group (.line u u') (.ends n)
  | cons c rest =>
      by_cases zero : c = '0'
      · subst zero
        exact .read _ (rest.mono (Nat.le_succ _))
      · rw [other zero, other zero]
        exact group ends (.cons c rest)

theorem stops_based (base : Nat) : Stops (based base) := by
  intro last last' ends n cs cs' beside
  have group : Stops (digitGroup fun c => (hexValue? c).any (· < base)) := stops_digitGroup rfl
  exact (group ends beside).bind fun _ _ _ beside => .guard _ _ beside

theorem stops_decimalInteger : Stops decimalInteger := by
  intro last last' ends n cs cs' beside
  obtain ⟨negative, unsigned, unsigned', signed, signed', beside⟩ := beside.sign ends
  unfold decimalInteger
  rw [signed, signed']
  exact (stops_decimal ends beside).bind fun _ _ _ beside => .guard _ _ beside

theorem stops_fraction : Stops fraction := by
  intro last last' ends n cs cs' beside
  have group : Stops (digitGroup Char.isDigit) := stops_digitGroup rfl
  have other {c : Char} (point : c ≠ '.') (cs : List Char) :
      fraction (c :: cs) = some ([], c :: cs) := by simp [fraction, point]
  cases beside with
  | ends n => cases ends with
    | text => exact .read _ (.ends n)
    | line u u' => exact .read _ (.ends n)
  | cons c rest =>
      by_cases point : c = '.'
      · subst point
        exact (group ends rest).mono (Nat.le_succ _)
      · rw [other point, other point]
        exact .read _ (.cons c rest)

theorem stops_exponent : Stops exponent := by
  intro last last' ends n cs cs' beside
  have group : Stops (digitGroup Char.isDigit) := stops_digitGroup rfl
  cases beside with
  | ends n => cases ends with
    | text => exact .read _ (.ends n)
    | line u u' => exact .read _ (.ends n)
  | cons c rest =>
      by_cases letter : c = 'e' ∨ c = 'E'
      · simp only [exponent, if_pos letter]
        obtain ⟨negative, unsigned, unsigned', signed, signed', beside⟩ := rest.sign ends
        rw [signed, signed']
        refine Alike.mono ?_ (Nat.le_succ _)
        exact (group ends beside).bind fun _ _ _ beside => .read _ beside
      · simp only [exponent, if_neg letter]
        exact .read _ (.cons c rest)

theorem stops_finite : Stops finite := by
  intro last last' ends n cs cs' beside
  obtain ⟨negative, unsigned, unsigned', signed, signed', beside⟩ := beside.sign ends
  unfold finite
  rw [signed, signed']
  refine (stops_decimal ends beside).bind fun whole afterWhole afterWhole' behindWhole => ?_
  refine (stops_fraction ends behindWhole).bind fun part _ _ beside => ?_
  refine (stops_exponent ends beside).bind fun e rest rest' beside => ?_
  -- Whether the number had a fraction or an exponent shows in the lengths.
  have lengths := beside.length_eq
  have lengths' := behindWhole.length_eq
  have same : rest.length = afterWhole.length ↔ rest'.length = afterWhole'.length := by omega
  simp only [same]
  split
  · exact .nothing
  · cases Number.double? negative (Number.digitsValue (whole ++ part)) (e - part.length) with
    | some x => exact .read _ beside
    | none => exact .guard _ _ beside

theorem special_eq_none {cs unsigned : List Char} {negative : Bool}
    (signed : sign cs = (negative, unsigned)) (inf : ∀ rest, unsigned ≠ ['i', 'n', 'f'] ++ rest)
    (nan : ∀ rest, unsigned ≠ ['n', 'a', 'n'] ++ rest) : special cs = none := by
  unfold special
  rw [signed]
  simp only
  split
  next rest => exact absurd rfl (inf rest)
  next rest => exact absurd rfl (nan rest)
  next => rfl

theorem stops_special : Stops special := by
  intro last last' ends n cs cs' beside
  obtain ⟨negative, unsigned, unsigned', signed, signed', beside⟩ := beside.sign ends
  rcases beside.literal ends ['i', 'n', 'f'] (by decide) with
    ⟨rest, rest', rfl, rfl, behind⟩ | ⟨inf, inf'⟩
  · simp only [special, signed, signed']
    exact .read _ behind
  · rcases beside.literal ends ['n', 'a', 'n'] (by decide) with
      ⟨rest, rest', rfl, rfl, behind⟩ | ⟨nan, nan'⟩
    · simp only [special, signed, signed']
      exact .read _ behind
    · rw [special_eq_none signed inf nan, special_eq_none signed' inf' nan']
      exact .nothing

theorem integer_eq_decimal {cs : List Char} (x : ∀ rest, cs ≠ ['0', 'x'] ++ rest)
    (o : ∀ rest, cs ≠ ['0', 'o'] ++ rest) (b : ∀ rest, cs ≠ ['0', 'b'] ++ rest) :
    integer cs = decimalInteger cs := by
  unfold integer
  split
  next rest => exact absurd rfl (x rest)
  next rest => exact absurd rfl (o rest)
  next rest => exact absurd rfl (b rest)
  next => rfl

theorem stops_integer : Stops integer := by
  intro last last' ends n cs cs' beside
  rcases beside.literal ends ['0', 'x'] (by decide) with
    ⟨rest, rest', rfl, rfl, behind⟩ | ⟨x, x'⟩
  · exact stops_based 16 ends behind
  · rcases beside.literal ends ['0', 'o'] (by decide) with
      ⟨rest, rest', rfl, rfl, behind⟩ | ⟨o, o'⟩
    · exact stops_based 8 ends behind
    · rcases beside.literal ends ['0', 'b'] (by decide) with
        ⟨rest, rest', rfl, rfl, behind⟩ | ⟨b, b'⟩
      · exact stops_based 2 ends behind
      · rw [integer_eq_decimal x o b, integer_eq_decimal x' o' b']
        exact stops_decimalInteger ends beside

/-! ## Dates -/

/-- A mark of the line that has to stand at the front, and what is read behind it. -/
theorem Beside.marked {last last' cs cs' : List Char} {n : Nat} {α : Type} {c : Char}
    (ends : Ends last last') (beside : Beside last last' n cs cs') (inside : c ≠ '\x0a')
    {next next' : List Char → Option (α × List Char)}
    (behind : ∀ rest rest', Beside last last' n rest rest' →
      Alike last last' n (next rest) (next' rest')) :
    Alike last last' n (mark c cs >>= next) (mark c cs' >>= next') := by
  cases beside with
  | ends n => cases ends with
    | text => exact .nothing
    | line u u' =>
        simp only [mark, if_neg inside.symm]
        exact .nothing
  | cons first rest =>
      by_cases same : first = c
      · simp only [mark, if_pos same]
        exact behind _ _ (rest.mono (Nat.le_succ _))
      · simp only [mark, if_neg same]
        exact .nothing

theorem stops_date : Stops date := by
  intro last last' ends n cs cs' beside
  refine (stops_fixed 4 0 9999 ends beside).bind fun year _ _ beside => ?_
  refine beside.marked ends (by decide) fun _ _ beside => ?_
  refine (stops_fixed 2 1 12 ends beside).bind fun month _ _ beside => ?_
  refine beside.marked ends (by decide) fun _ _ beside => ?_
  exact (stops_fixed 2 1 (monthLength year month) ends beside).bind fun _ _ _ beside =>
    .read _ beside

theorem stops_secondFraction : Stops secondFraction := by
  intro last last' ends n cs cs' beside
  have other {c : Char} (point : c ≠ '.') (cs : List Char) :
      secondFraction (c :: cs) = some ([], c :: cs) := by simp [secondFraction, point]
  cases beside with
  | ends n => cases ends with
    | text => exact .read _ (.ends n)
    | line u u' => exact .read _ (.ends n)
  | cons c rest =>
      by_cases point : c = '.'
      · subst point
        have digits := rest.takeWhile ends (p := Char.isDigit) rfl
        have behind := (rest.dropWhile ends (p := Char.isDigit) rfl).mono (Nat.le_succ _)
        rw [← Text.drop_length_takeWhile, ← Text.drop_length_takeWhile, ← digits] at behind
        simp only [secondFraction, ← digits]
        split
        · exact .nothing
        · exact .read _ behind
      · rw [other point, other point]
        exact .read _ (.cons c rest)

theorem stops_time : Stops time := by
  intro last last' ends n cs cs' beside
  refine (stops_fixed 2 0 23 ends beside).bind fun _ _ _ beside => ?_
  refine beside.marked ends (by decide) fun _ _ beside => ?_
  refine (stops_fixed 2 0 59 ends beside).bind fun _ _ _ beside => ?_
  refine beside.marked ends (by decide) fun _ _ beside => ?_
  refine (stops_fixed 2 0 60 ends beside).bind fun _ _ _ beside => ?_
  exact (stops_secondFraction ends beside).bind fun _ _ _ beside => .read _ beside

theorem stops_offset : Stops offset := by
  intro last last' ends n cs cs' beside
  cases beside with
  | ends n => cases ends with
    | text => exact .read _ (.ends n)
    | line u u' => exact .read _ (.ends n)
  | cons c rest =>
      by_cases utc : c = 'Z' ∨ c = 'z'
      · simp only [offset, if_pos utc]
        exact .read _ (rest.mono (Nat.le_succ _))
      · by_cases sign : c = '+' ∨ c = '-'
        · simp only [offset, if_neg utc, if_pos sign]
          refine Alike.mono ?_ (Nat.le_succ _)
          refine (stops_fixed 2 0 23 ends rest).bind fun _ _ _ beside => ?_
          refine beside.marked ends (by decide) fun _ _ beside => ?_
          exact (stops_fixed 2 0 59 ends beside).bind fun _ _ _ beside => .read _ beside
        · simp only [offset, if_neg utc, if_neg sign]
          exact .read _ (.cons c rest)

theorem stops_timeOfDate : Stops timeOfDate := by
  intro last last' ends n cs cs' beside
  cases beside with
  | ends n => cases ends with
    | text => exact .nothing
    | line u u' => exact .nothing
  | cons c rest =>
      by_cases letter : c = 'T' ∨ c = 't' ∨ c = ' '
      · simp only [timeOfDate, if_pos letter]
        refine Alike.mono ?_ (Nat.le_succ _)
        refine (stops_time ends rest).bind fun _ _ _ beside => ?_
        exact (stops_offset ends beside).bind fun _ _ _ beside => .read _ beside
      · simp only [timeOfDate, if_neg letter]
        exact .nothing

theorem stops_dateTime : Stops dateTime := by
  intro last last' ends n cs cs' beside
  have dates := stops_date ends beside
  unfold dateTime
  generalize date cs = d, date cs' = d' at dates
  cases dates with
  | nothing => exact (stops_time ends beside).map fun t => Document.Value.date (String.ofList t)
  | @read day rest rest' beside =>
      have times := stops_timeOfDate ends beside
      simp only
      generalize timeOfDate rest = t, timeOfDate rest' = t' at times
      cases times with
      | nothing => exact .read _ beside
      | read time behind => exact .read _ behind

theorem stops_number : Stops number := by
  intro last last' ends n cs cs' beside
  exact (stops_dateTime ends beside).or ((stops_finite ends beside).or
    ((stops_special ends beside).or (stops_integer ends beside)))

/-! ## Strings on one line, and keys -/

theorem foldlM_hex_eq_none {digits : List Char} (line : '\x0a' ∈ digits) (value : Nat) :
    digits.foldlM (fun n c => (hexValue? c).map (16 * n + ·)) value = none := by
  induction digits generalizing value with
  | nil => cases line
  | cons c rest ih =>
      rw [List.foldlM_cons]
      cases here : hexValue? c with
      | none => rfl
      | some digit =>
          refine ih ?_ _
          rcases List.mem_cons.mp line with same | later
          · rw [← same] at here
            cases here
          · exact later

theorem stops_codePoint (count : Nat) : Stops (codePoint count) := by
  intro last last' ends n cs cs' beside
  have fails {cs : List Char} (short : (cs.take count).length < count ∨ '\x0a' ∈ cs.take count) :
      codePoint count cs = none := by
    unfold codePoint
    rcases short with short | line
    · simp only [if_pos short]
    · simp only [foldlM_hex_eq_none line]
      split <;> rfl
  rcases beside.take ends count with ⟨same, rest⟩ | ⟨short, short'⟩
  · unfold codePoint
    simp only [← same]
    split
    · exact .nothing
    · cases (cs.take count).foldlM (fun n c => (hexValue? c).map (16 * n + ·)) 0 with
      | none => exact .nothing
      | some value =>
          simp only [Option.bind_eq_bind, Option.bind_some]
          split
          · exact .read _ rest
          · exact .nothing
  · rw [fails short, fails short']
    exact .nothing

/-- An escape of one letter does not look at what follows. -/
theorem escaped_of_ne {c : Char} (short : c ≠ 'u') (long : c ≠ 'U') :
    ∃ e : Option Char, ∀ cs, escaped (c :: cs) = e.map (·, cs) := by
  by_cases b : c = 'b'
  · exact ⟨some '\x08', fun _ => by rw [b]; rfl⟩
  by_cases t : c = 't'
  · exact ⟨some '\x09', fun _ => by rw [t]; rfl⟩
  by_cases n : c = 'n'
  · exact ⟨some '\x0a', fun _ => by rw [n]; rfl⟩
  by_cases f : c = 'f'
  · exact ⟨some '\x0c', fun _ => by rw [f]; rfl⟩
  by_cases r : c = 'r'
  · exact ⟨some '\x0d', fun _ => by rw [r]; rfl⟩
  refine ⟨if c = '\x22' ∨ c = '\x5c' then some c else none, fun cs => ?_⟩
  simp only [escaped]
  split <;> rfl

theorem stops_escaped : Stops escaped := by
  intro last last' ends n cs cs' beside
  cases beside with
  | ends n => cases ends with
    | text => exact .nothing
    | line u u' => exact .nothing
  | cons c rest =>
      refine Alike.mono ?_ (Nat.le_succ _)
      by_cases short : c = 'u'
      · subst short
        exact stops_codePoint 4 ends rest
      · by_cases long : c = 'U'
        · subst long
          exact stops_codePoint 8 ends rest
        · obtain ⟨e, same⟩ := escaped_of_ne short long
          rw [same, same]
          cases e with
          | none => exact .nothing
          | some e => exact .read e rest

theorem stops_basicRest (steps : Nat) (read : List Char) : Stops (basicRest steps read) := by
  intro last last' ends n cs cs' beside
  induction steps generalizing n cs cs' read with
  | zero => exact .nothing
  | succ steps ih =>
      cases beside with
      | ends n => cases ends with
        | text => exact .nothing
        | line u u' => exact .nothing
      | @cons n c cs cs' rest =>
          refine Alike.mono ?_ (Nat.le_succ _)
          simp only [basicRest]
          split
          · exact .read _ rest
          · split
            · have escapes := stops_escaped ends rest
              generalize escaped cs = e, escaped cs' = e' at escapes
              cases escapes with
              | nothing => exact .nothing
              | read e beside => exact ih _ beside
            · split
              · exact ih _ rest
              · exact .nothing

theorem stops_literalRest : Stops literalRest := by
  intro last last' ends n cs cs' beside
  have text := beside.takeWhile ends (p := fun c => isPlain c && c ≠ '\x27') rfl
  have rest := beside.dropWhile ends (p := fun c => isPlain c && c ≠ '\x27') rfl
  unfold literalRest
  rw [← text]
  generalize cs.dropWhile (fun c => isPlain c && c ≠ '\x27') = behind,
    cs'.dropWhile (fun c => isPlain c && c ≠ '\x27') = behind' at rest
  cases rest with
  | ends n => cases ends with
    | text => exact .nothing
    | line u u' => exact .nothing
  | cons c rest =>
      by_cases mark : c = '\x27'
      · subst mark
        exact .read _ (rest.mono (Nat.le_succ _))
      · split
        next same => exact absurd (List.cons.inj same).1 mark
        next =>
          split
          next same => exact absurd (List.cons.inj same).1 mark
          next => exact .nothing

theorem lineString_of_ne {c : Char} (double : c ≠ '\x22') (single : c ≠ '\x27') (cs : List Char) :
    lineString (c :: cs) = none := by
  simp [lineString, double, single]

theorem stops_lineString : Stops lineString := by
  intro last last' ends n cs cs' beside
  cases beside with
  | ends n => cases ends with
    | text => exact .nothing
    | line u u' => exact .nothing
  | cons c rest =>
      refine Alike.mono ?_ (Nat.le_succ _)
      by_cases double : c = '\x22'
      · subst double
        have line := rest.takeWhile ends (p := (· ≠ '\x0a')) rfl
        simp only [lineString, line]
        exact stops_basicRest _ [] ends rest
      · by_cases single : c = '\x27'
        · subst single
          exact stops_literalRest ends rest
        · rw [lineString_of_ne double single, lineString_of_ne double single]
          exact .nothing

theorem stops_keyPart : Stops keyPart := by
  intro last last' ends n cs cs' beside
  have spaced := beside.skipSpaces ends
  have bare := spaced.takeWhile ends (p := isBare) rfl
  have behind := spaced.dropWhile ends (p := isBare) rfl
  unfold keyPart
  simp only [← bare]
  split
  · exact (stops_lineString ends spaced).bind fun part _ _ beside =>
      .read part (beside.skipSpaces ends)
  · exact .read _ (behind.skipSpaces ends)

theorem stops_key (most : Nat) : Stops (key most) := by
  intro last last' ends n cs cs' beside
  induction most generalizing n cs cs' with
  | zero => exact .nothing
  | succ most ih =>
      refine (stops_keyPart ends beside).bind fun part rest rest' beside => ?_
      rcases beside.literal ends ['.'] (by decide) with
        ⟨behind, behind', rfl, rfl, others⟩ | ⟨absent, absent'⟩
      · exact (ih others).bind fun parts _ _ beside => .read (part :: parts) beside
      · simp only
        split
        next behind => exact absurd rfl (absent behind)
        next =>
          split
          next behind => exact absurd rfl (absent' behind)
          next => exact .read _ beside

end Rollout.Toml
