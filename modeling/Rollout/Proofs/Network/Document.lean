/-
# Rollout.Proofs.Network.Document — networks are read back from documents

A network is read back from its document with the mark in place of its key, whether the fields
stand as they are written or by name (`Network.read_document`), and so is a table of networks
(`Networks.read_document`).
-/
import Mathlib.Algebra.Order.Group.Multiset
import Rollout.Proofs.Config.Redaction
import Rollout.Proofs.Document.Layout

namespace Rollout

open Document
open Layout (takes_field takes_optionalField)

set_option autoImplicit false

variable (a : Json.Arrangement)

/-! ## Matchers -/

namespace Network.Matcher

theorem nests_document (m : Matcher) (depth : Nat) : Json.Nests depth m.document := by
  cases m with
  | any => exact .text ..
  | exact id => exact .nat _ id.toNat_lt

theorem read_document (m : Matcher) : Matcher.read (a.arrange m.document) = .ok m := by
  cases m with
  | any =>
      rw [document, a.arrange_text]
      rfl
  | exact id =>
      have positive : (0 : Int) ≤ id.toNat := Int.natCast_nonneg _
      rw [document, a.arrange_nat, Value.nat, read, if_pos positive, Int.toNat_natCast,
        UInt64.ofNat_toNat]

end Network.Matcher

/-! ## Providers -/

theorem SigningProvider.nests_document (p : SigningProvider) (depth : Nat) :
    Json.Nests (depth + 1) p.document := by
  refine .table fun f member => ?_
  simp only [List.mem_cons, List.not_mem_nil, or_false] at member
  rcases member with rfl | rfl
  · exact .text ..
  · exact .text ..

theorem SigningProvider.read_document (p : SigningProvider) :
    SigningProvider.read .json (a.arrange p.document) = .ok p.redacted := by
  cases a with
  | asWritten => rfl
  | byName => rfl

/-! ## Networks -/

namespace Network

theorem nests_document (n : Network) (depth : Nat) : Json.Nests (depth + 2) n.document := by
  have short (p : UInt16) : p.toNat < Number.limit64 := Nat.lt_trans p.toNat_lt (by decide)
  refine .table fun f member => ?_
  simp only [List.mem_append, mem_optionalField, List.mem_cons, List.not_mem_nil,
    or_false] at member
  rcases member with ((((((⟨_, -, rfl⟩ | ⟨p, -, rfl⟩) | ⟨p, -, rfl⟩) | rfl) | ⟨g, -, rfl⟩) |
    ⟨g, -, rfl⟩) | ⟨_, -, rfl⟩) | (rfl | rfl)
  · exact .text ..
  · exact .nat _ (short p)
  · exact p.nests_document depth
  · exact n.matcher.nests_document (depth + 1)
  · exact .nat _ g.toNat_lt
  · exact .nat _ g.toNat_lt
  · exact .text ..
  · exact .nat _ n.confirmations.toNat_lt
  · exact .nat _ n.timeout.toNat_lt

def fieldsByName (n : Network) : List (String × Value) :=
  [("confirmations", .nat n.confirmations.toNat)] ++
    optionalField "from" (fun x => .text x.text) n.sender ++
    optionalField "gas" (fun g => .nat g.toNat) n.gas ++
    optionalField "gas_price" (fun g => .nat g.toNat) n.gasPrice ++
    optionalField "host" .text n.host ++
    [("network_id", n.matcher.document)] ++
    optionalField "port" (fun p => .nat p.toNat) n.port ++
    optionalField "provider" SigningProvider.document n.provider ++
    [("receipt_timeout_seconds", .nat n.timeout.toNat)]

theorem ordered_fieldsByName (n : Network) : Catalog.Ordered n.fieldsByName := by
  have sorted : (["confirmations"] ++ ["from"] ++ ["gas"] ++ ["gas_price"] ++ ["host"] ++
      ["network_id"] ++ ["port"] ++ ["provider"] ++
        ["receipt_timeout_seconds"]).Pairwise (· < ·) := by decide
  refine Catalog.ordered_of_sublist sorted ?_
  simp only [fieldsByName, List.map_append]
  have whole (names : List String) : names.Sublist names := List.Sublist.refl names
  have optional {α : Type} (name : String) (write : α → Value) (o : Option α) :=
    sublist_names_optionalField name write o
  exact ((((((((whole _).append (optional ..)).append (optional ..)).append (optional ..)).append
    (optional ..)).append (whole _)).append (optional ..)).append (optional ..)).append (whole _)

/-- By name a network has its fields in another order. -/
theorem arrange_byName_document (n : Network) :
    Json.Arrangement.byName.arrange n.document =
      .table (Json.Arrangement.byName.inside n.fieldsByName) := by
  refine Json.Arrangement.arrange_byName_table n.ordered_fieldsByName ?_
  have order (A B C D E F G H I : List (String × Value)) :
      (A ++ B ++ C ++ D ++ E ++ F ++ G ++ (H ++ I)).Perm
        (H ++ G ++ E ++ F ++ A ++ D ++ B ++ C ++ I) := by
    refine Multiset.coe_eq_coe.mp ?_
    simp only [← Multiset.coe_add]
    ac_rfl
  exact order _ _ _ _ _ _ _ [_] [_]

/-- **A network is read back without its key.** -/
theorem read_document (n : Network) :
    Network.read .json (a.arrange n.document) = .ok n.redacted := by
  let r := layout .json
  have host := takes_optionalField (r := r) "host" readText Network.host
    (fun d x => { d with host := x }) (by decide) (fun _ _ => rfl) (fun _ => rfl) nofun
    (readText_arrange a) n.host
  have port := takes_optionalField (r := r) "port" readUInt16 Network.port
    (fun d x => { d with port := x }) (by decide) (fun _ _ => rfl) (fun _ => rfl) nofun
    (readUInt16_arrange a) n.port
  have provider := takes_optionalField (r := r) "provider" (SigningProvider.read .json)
    Network.provider (fun d x => { d with provider := x }) (by decide) (fun _ _ => rfl)
    (fun _ => rfl) nofun (SigningProvider.read_document a) n.provider
  have matcher := takes_field (r := r) "network_id" Matcher.read
    (fun d x => { d with matcher := x }) (by decide) (fun _ _ => rfl) (n.matcher.read_document a)
  have gas := takes_optionalField (r := r) "gas" readUInt64 Network.gas
    (fun d x => { d with gas := x }) (by decide) (fun _ _ => rfl) (fun _ => rfl) nofun
    (readUInt64_arrange a) n.gas
  have gasPrice := takes_optionalField (r := r) "gas_price" readUInt64 Network.gasPrice
    (fun d x => { d with gasPrice := x }) (by decide) (fun _ _ => rfl) (fun _ => rfl) nofun
    (readUInt64_arrange a) n.gasPrice
  have sender := takes_optionalField (r := r) "from" (readOctets .json 20) Network.sender
    (fun d x => { d with sender := x }) (by decide) (fun _ _ => rfl) (fun _ => rfl) nofun
    (readOctets_arrange a .json) n.sender
  have confirmations := takes_field (r := r) "confirmations" readUInt64
    (fun d x => { d with confirmations := x }) (by decide) (fun _ _ => rfl)
    (readUInt64_arrange a n.confirmations)
  have timeout := takes_field (r := r) "receipt_timeout_seconds" readUInt64
    (fun d x => { d with timeout := x }) (by decide) (fun _ _ => rfl)
    (readUInt64_arrange a n.timeout)
  have optional : ∀ f ∈ r.fields, f.named = false := by decide
  cases a with
  | asWritten =>
      have takes := (((((((host.append port).append provider).append matcher).append gas).append
        gasPrice).append sender).append (confirmations.append timeout))
      rw [document, Json.Arrangement.arrange_asWritten_table]
      refine (takes.read_optional .json {} optional).trans (congrArg Except.ok ?_)
      simp only [Option.map_id', Option.or_none]
      rfl
  | byName =>
      have takes := ((((((((confirmations.append sender).append gas).append gasPrice).append
        host).append matcher).append port).append provider).append timeout)
      rw [arrange_byName_document]
      refine (takes.read_optional .json {} optional).trans (congrArg Except.ok ?_)
      simp only [Option.map_id', Option.or_none]
      rfl

end Network

/-! ## Tables of networks -/

namespace Networks

theorem nests_document (networks : Networks) (depth : Nat) :
    Json.Nests (depth + 3) networks.document := by
  refine .table fun f member => ?_
  obtain ⟨⟨name, n⟩, -, rfl⟩ := List.mem_map.mp member
  exact n.nests_document depth

/-- In any arrangement the networks stand in order of name. -/
theorem arrange_document (networks : Networks) :
    a.arrange networks.document =
      .table (networks.entries.map fun e => (e.1, a.arrange e.2.document)) := by
  have ordered : Catalog.Ordered (networks.entries.map fun e => (e.1, e.2.document)) :=
    List.pairwise_map.mpr networks.ordered
  rw [document, a.arrange_table_of_ordered ordered, Json.Arrangement.inside, List.map_map]
  rfl

/-- **A table of networks is read back without keys.** -/
theorem read_document (networks : Networks) :
    Networks.read .json (a.arrange networks.document) = .ok (networks.map Network.redacted) := by
  have each : networks.entries.mapM (fun e =>
      (Network.read .json (a.arrange e.2.document)).map (e.1, ·)) =
        .ok (networks.entries.map fun e => (e.1, e.2.redacted)) :=
    Checked.mapM_eq_map fun e _ => by rw [e.2.read_document a]; rfl
  have fields : readFields (Network.read .json) (a.arrange networks.document) =
      .ok (networks.map Network.redacted).entries := by
    rw [arrange_document]
    simpa [readFields, Value.fields?, List.mapM_map, Function.comp_def] using each
  rw [Networks.read, fields, Except.map, Catalog.ofList_entries]

end Networks

end Rollout
