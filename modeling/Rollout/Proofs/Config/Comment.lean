/-
# Rollout.Proofs.Config.Comment — comments in a configuration

Variables are replaced before a text is read as TOML, in its comments as well.  A comment on
a line of its own, between two expressions, leaves the configuration as it is when it names no
variable, or when the variables that it names are set and their values stay on its line
(`ofText_commented`).  One that names a variable that is not set is refused with the whole
configuration (`ofText_commented_of_unset`).
-/
import Rollout.Proofs.Command.Exit
import Rollout.Proofs.Config.Variables
import Rollout.Proofs.Toml.Comment

namespace Rollout.Config

open Environment (Apart)
open Toml (IsLineEnd isPlain)

set_option autoImplicit false

variable {env : Environment} {before after comment ending : List Char}

/-- A text with a comment on a line of its own between two parts. -/
def commented (before comment ending after : List Char) : String :=
  String.ofList (before ++ ('#' :: comment ++ ending ++ after))

/-- A place between two expressions of a configuration: no variable reaches over it, and what
stands before it are whole lines that can be read. -/
structure Between (env : Environment) (before after : List Char) : Prop where
  apart : Apart before after
  lines : ∃ front es, env.splice before = .ok front ∧ front.getLast? = some '\x0a' ∧
    Toml.expressions? front = some es

/-- The variables of a comment line are those of the comment. -/
theorem splice_line (ends : IsLineEnd ending) :
    env.splice ('#' :: comment ++ ending) =
      env.splice comment >>= fun said => .ok ('#' :: said ++ ending) := by
  have never : '\x7d' ∉ ending := by rcases ends with rfl | rfl <;> decide
  have plain : '$' ∉ ending := by rcases ends with rfl | rfl <;> decide
  have mark : env.splice ('#' :: comment) =
      env.splice comment >>= fun said => .ok ('#' :: said) := by
    have apart : Apart ['#'] comment := .of_plain (by decide)
    exact Environment.splice_append apart
  rw [Environment.splice_append (.of_not_close never), mark, Environment.splice_of_plain plain]
  cases env.splice comment <;> rfl

/-- Texts that read the same when their variables are replaced are the same configuration. -/
theorem ofText_congr {text text' resolved resolved' : String}
    (replaced : resolve env text = .ok resolved) (replaced' : resolve env text' = .ok resolved')
    (same : Toml.read? resolved = Toml.read? resolved') : ofText env text = ofText env text' := by
  unfold ofText
  rw [replaced, replaced']
  simp only [Except.mapError, bind, Except.bind, same]

theorem resolve_of_ofText {text : String} {c : Config} (accepted : ofText env text = .ok c) :
    ∃ cs, env.splice text.toList = .ok cs ∧ resolve env text = .ok (String.ofList cs) := by
  obtain ⟨resolved, replaced, -⟩ := Checked.bind_eq_ok.mp accepted
  have replaced := Checked.mapError_eq_ok.mp replaced
  have small : text.utf8ByteSize ≤ sizeLimit := by
    by_contra large
    rw [resolve, if_pos (Nat.not_le.mp large)] at replaced
    cases replaced
  rw [resolve_of_small small] at replaced ⊢
  cases spliced : env.splice text.toList with
  | ok cs => exact ⟨cs, rfl, rfl⟩
  | error name =>
      rw [spliced] at replaced
      cases replaced

section

variable (between : Between env before after) (ends : IsLineEnd ending)
  (small : (commented before comment ending after).utf8ByteSize ≤ sizeLimit)
  (opens : Apart before ('#' :: comment ++ ending ++ after))
  (closes : Apart ('#' :: comment ++ ending) after)

include between ends small opens closes

/-- A comment is skipped when what its variables make of it stays on its line. -/
theorem ofText_commented_of_said {c : Config}
    (accepted : ofText env (String.ofList (before ++ after)) = .ok c) {said : List Char}
    (spliced : env.splice comment = .ok said) (plain : ∀ d ∈ said, isPlain d = true) :
    ofText env (commented before comment ending after) = .ok c := by
  obtain ⟨front, es, spliced_before, whole, reads⟩ := between.lines
  obtain ⟨cs, spliced_all, resolved⟩ := resolve_of_ofText accepted
  rw [String.toList_ofList, Environment.splice_append between.apart, spliced_before] at spliced_all
  have behind : (env.splice after >>= fun back => .ok (front ++ back)) = .ok cs := spliced_all
  obtain ⟨back, spliced_after, ⟨⟩⟩ := Checked.bind_eq_ok.mp behind
  have replaced : resolve env (commented before comment ending after) =
      .ok (String.ofList (front ++ ('#' :: said ++ ending ++ back))) := by
    rw [resolve_of_small small, commented, String.toList_ofList, Environment.splice_append opens,
      spliced_before, Environment.splice_append closes, splice_line ends, spliced, spliced_after]
    rfl
  rw [← accepted]
  refine ofText_congr replaced resolved ?_
  unfold Toml.read?
  rw [String.toList_ofList, String.toList_ofList, Toml.expressions?_comment whole reads plain ends]

theorem ofText_commented_of_unset {name : String} (unset : env.splice comment = .error name) :
    ofText env (commented before comment ending after) =
      .error (.invalid (.unsetVariable name)) := by
  obtain ⟨front, -, spliced_before, -⟩ := between.lines
  have refused : resolve env (commented before comment ending after) =
      .error (.unsetVariable name) := by
    rw [resolve_of_small small, commented, String.toList_ofList, Environment.splice_append opens,
      spliced_before, Environment.splice_append closes, splice_line ends, unset]
    rfl
  rw [ofText, refused]
  rfl

end

/-- **A comment on a line of its own between two expressions changes nothing** when it has no
dollar sign and no closing brace.  Otherwise its variables are replaced like those of a value.
Where they are its own, reaching over neither end of the line, it changes nothing when they
are set and their values stay on its line; and the first that is not set and has no fallback
is what the whole configuration is refused for. -/
theorem ofText_commented {c : Config}
    (accepted : ofText env (String.ofList (before ++ after)) = .ok c)
    (between : Between env before after) (ends : IsLineEnd ending)
    (small : (commented before comment ending after).utf8ByteSize ≤ sizeLimit) :
    ((∀ d ∈ comment, isPlain d = true) → '$' ∉ comment → '\x7d' ∉ comment →
      ofText env (commented before comment ending after) = .ok c) ∧
    (Apart before ('#' :: comment ++ ending ++ after) → Apart ('#' :: comment ++ ending) after →
      (∀ said, env.splice comment = .ok said → (∀ d ∈ said, isPlain d = true) →
        ofText env (commented before comment ending after) = .ok c) ∧
      (∀ name, env.splice comment = .error name →
        ofText env (commented before comment ending after) =
          .error (.invalid (.unsetVariable name)))) := by
  constructor
  · intro plain unreferenced unclosed
    have never : '\x7d' ∉ '#' :: (comment ++ ending) := by
      rcases ends with rfl | rfl <;> simp [unclosed]
    have absent : '$' ∉ '#' :: comment ++ ending := by
      rcases ends with rfl | rfl <;> simp [unreferenced]
    exact ofText_commented_of_said between ends small (between.apart.insert never)
      (.of_plain absent) accepted (Environment.splice_of_plain unreferenced) plain
  · intro opens closes
    exact ⟨fun said spliced plain =>
        ofText_commented_of_said between ends small opens closes accepted spliced plain,
      fun name unset => ofText_commented_of_unset between ends small opens closes unset⟩

/-! ## A configuration with a comment in it -/

namespace Sample

open Command.Sample (configuration config ofText_configuration)

def front : List Char := "[networks.dev]\nhost=\"127.0.0.1\"\n".toList

def back : List Char :=
  "port=1\n[artifacts]\ndirectory=\"/b\"\n[[artifacts.deploy]]\nname=\"A\"\n".toList

theorem accepted : ofText ⟨[]⟩ (String.ofList (front ++ back)) = .ok config := by
  have same : String.ofList (front ++ back) = configuration := by rfl
  rw [same]
  exact ofText_configuration

theorem between : Between ⟨[]⟩ front back where
  apart := .of_plain (by decide)
  lines := ⟨front, [.table ["networks"] "dev", .pair ⟨[], "host", .text "127.0.0.1"⟩],
    Environment.splice_of_plain (by decide), rfl, rfl⟩

end Sample

open Sample Command.Sample

/-- Behind the host of a node stands a remark; one about its port with a fallback; and one
about a port that is not set. -/
theorem ofText_commented_sample :
    ofText ⟨[]⟩ (commented front " a node".toList ['\x0a'] back) = .ok config ∧
    ofText ⟨[]⟩ (commented front " on $\x7bPORT:-1\x7d".toList ['\x0a'] back) = .ok config ∧
    ofText ⟨[]⟩ (commented front " on $\x7bPORT\x7d".toList ['\x0a'] back) =
      .error (.invalid (.unsetVariable "PORT")) := by
  refine ⟨?_, ?_, ?_⟩
  · exact (ofText_commented accepted between (Or.inl rfl) (by decide)).1
      (List.all_eq_true.mp rfl) (by decide) (by decide)
  · exact ((ofText_commented accepted between (Or.inl rfl) (by decide)).2
      (by decide) (by decide)).1 " on 1".toList rfl (List.all_eq_true.mp rfl)
  · exact ((ofText_commented accepted between (Or.inl rfl) (by decide)).2
      (by decide) (by decide)).2 "PORT" rfl

/-- A comment about a variable that is not set makes an accepted configuration a refused one. -/
theorem ofText_commented_unset :
    ofText ⟨[]⟩ (String.ofList (front ++ back)) = .ok config ∧ Between ⟨[]⟩ front back ∧
    (∀ d ∈ " $\x7bSEPOLIA_RPC_URL\x7d".toList, isPlain d = true) ∧
    (commented front " $\x7bSEPOLIA_RPC_URL\x7d".toList ['\x0a'] back).utf8ByteSize ≤ sizeLimit ∧
    ofText ⟨[]⟩ (commented front " $\x7bSEPOLIA_RPC_URL\x7d".toList ['\x0a'] back) =
      .error (.invalid (.unsetVariable "SEPOLIA_RPC_URL")) :=
  ⟨accepted, between, List.all_eq_true.mp rfl, by decide,
    ofText_commented_of_unset between (Or.inl rfl) (by decide) (by decide) (by decide) rfl⟩

end Rollout.Config
