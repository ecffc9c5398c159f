/-
# Rollout.Proofs.Run.Success — a run that nothing stands in the way of deploys its plan

Where every build output is prepared for its artifact (`Prepared`) and the delivery is
obliging, each step has its payload once the steps before it are recorded, and so all
complete.  What is sent for an artifact is its bytecode with the addresses of its
libraries in their slots, and then its arguments with the addresses that they refer to
(`Carries`).
-/
import Rollout.Proofs.Run.Calls

namespace Rollout.Run

set_option autoImplicit false

/-! ## Payloads -/

/-- A build output that fits its artifact: the slots in its bytecode are those of the
artifact's libraries, which can be told apart, and its constructor takes the arguments. -/
structure Prepared (source : Build.Source) (label : String → String) (a : Artifact)
    (template : Template) : Prop where
  loaded : ∃ compiled, source a.buildName = .ok compiled ∧
    compiled.bytecode = String.ofList (template.text label) ∧ compiled.abi.Fits a.arguments
  within : ∀ piece ∈ template, piece.Within a.libraries
  even : template.outside.length % 2 = 0
  separate : Template.Separate label a.libraries

/-- The filled bytecode, decoded, and behind it the encoded arguments. -/
structure Carries (template : Template) (address : String → Address) (a : Artifact)
    (payload : List UInt8) : Prop where
  parts : ∃ code, Hex.decode (Text.bytes (template.filled address)) = .ok code ∧
    Hex.encode code = (template.filled address).map Char.toLower ∧
    payload = code ++ Abi.encode (a.arguments.map (·.valueAt address))

theorem Carries.eq_append {template : Template} {address : String → Address} {a : Artifact}
    {payload code : List UInt8} (carries : Carries template address a payload)
    (decoded : Hex.decode (Text.bytes (template.filled address)) = .ok code) :
    payload = code ++ Abi.encode (a.arguments.map (·.valueAt address)) := by
  obtain ⟨code', decoded', -, made⟩ := carries.parts
  cases decoded.symm.trans decoded'
  exact made

section Payload

variable {source : Build.Source} {label linkName : String → String} {a : Artifact}
  {template : Template} {resolve : String → Option Address} {address : String → Address}

/-- **The payload of a prepared artifact**, when what it depends on has an address. -/
theorem Prepared.exists_payload (prepared : Prepared source label a template)
    (named : ∀ library ∈ a.libraries, linkName library = label library)
    (resolved : ∀ name, a.DependsOn name → resolve name = some (address name)) :
    ∃ sent, payload source linkName resolve a = .ok sent ∧ Carries template address a sent := by
  obtain ⟨compiled, loaded, written, fits⟩ := prepared.loaded
  have linked : Linker.linkAll linkName address (.ofBytecode compiled.bytecode) a.libraries =
      ⟨template.filled address⟩ := by
    rw [written, Template.ofBytecode_text fun piece member => (prepared.within piece member).isHex,
      Template.linkAll_text prepared.separate prepared.within address
        fun library member => ⟨member, named library member⟩,
      Template.text_fill prepared.within]
  have digits := Template.filled_mem_alphabet prepared.within address
  obtain ⟨code, decoded, lower, bytes⟩ := Linker.exists_bytes_digits digits
    ((template.length_filled address).trans prepared.even)
  refine ⟨code ++ Abi.encode (a.arguments.map (·.valueAt address)), ?_, code, decoded, lower, rfl⟩
  refine (payload_eq_ok_iff_madeFrom resolved).mpr ⟨compiled, code, _, loaded, ?_, ?_,
    Abi.Interface.encode_eq_ok_iff.mpr ⟨fits, rfl⟩, rfl⟩
  · rw [linked, Linker.unlinked_digits digits]
  · rw [linked, bytes]

theorem Prepared.carries (prepared : Prepared source label a template)
    (named : ∀ library ∈ a.libraries, linkName library = label library)
    (resolved : ∀ name, a.DependsOn name → resolve name = some (address name))
    {sent : List UInt8} (paid : payload source linkName resolve a = .ok sent) :
    Carries template address a sent := by
  obtain ⟨sent', paid', carries⟩ := prepared.exists_payload named resolved
  cases paid.symm.trans paid'
  exact carries

end Payload

/-! ## Steps -/

section Steps

variable {σ : Type}

/-- A delivery that accepts every payload, and confirms it with a contract's address. -/
structure Obliging (delivery : Delivery σ) : Prop where
  delivers : ∀ d payload, ∃ hash sent receipt next,
    delivery.submit d payload = (.ok hash, sent) ∧
    delivery.confirm sent hash = (.ok receipt, next) ∧
    receipt.success = true ∧ ∃ address, receipt.contract = some address

variable {setting : Setting σ} {linkName : String → String}

/-- With an obliging delivery, a step completes when it has a payload. -/
theorem exists_completes (running : setting.stop = .never) (obliging : Obliging setting.delivery)
    {a : Artifact} {s : State σ} {sent : List UInt8}
    (paid : payload setting.source linkName (addressOf s.records) a = .ok sent) :
    ∃ c next, Completes setting linkName a s c next := by
  obtain ⟨hash, d, receipt, d', submitted, answered, success, address, contract⟩ :=
    obliging.delivers s.delivery sent
  let record : Record :=
    ⟨a.name, address, receipt.transaction, receipt.block, setting.clock s.records.length⟩
  let c : Completion := ⟨sent, hash, receipt, record⟩
  refine ⟨c, ⟨d', s.records ++ [record], s.exchanges ++ c.exchanges⟩, ?_, paid, ?_,
    ⟨d, submitted, answered⟩, ?_, rfl, rfl⟩
  · rw [running]
    rfl
  · rw [running]
    rfl
  · exact confirmed_eq_ok_iff.mpr ⟨success, address, contract, rfl⟩

/-- Steps complete one after another when each has a payload behind those before. -/
theorem exists_advances (linkName : String → String) (running : setting.stop = .never)
    (obliging : Obliging setting.delivery) {steps : List Plan.Step}
    (payable : ∀ done step rest, steps = done ++ step :: rest → ∀ records : List Record,
      (∀ earlier ∈ done, ∃ record ∈ records, record.artifact = earlier.artifact.name) →
      ∃ sent, payload setting.source linkName (addressOf records) step.artifact = .ok sent)
    (s : State σ) : ∃ log last, Advances setting linkName steps s log last := by
  -- The records of the steps that are done carry over to the rest.
  have onward : ∀ rest done, steps = done ++ rest → ∀ s : State σ,
      (∀ earlier ∈ done, ∃ record ∈ s.records, record.artifact = earlier.artifact.name) →
      ∃ log last, Advances setting linkName rest s log last := by
    intro rest
    induction rest with
    | nil => exact fun _ _ s _ => ⟨[], s, .nothing s⟩
    | cons step rest ih =>
        intro done split s recorded
        obtain ⟨sent, paid⟩ := payable done step rest split s.records recorded
        obtain ⟨c, next, completes⟩ := exists_completes running obliging paid
        have recorded' : ∀ earlier ∈ done ++ [step], ∃ record ∈ next.records,
            record.artifact = earlier.artifact.name := by
          rw [completes.records]
          intro earlier member
          rcases List.mem_append.mp member with before | here
          · obtain ⟨record, known, named⟩ := recorded earlier before
            exact ⟨record, List.mem_append_left _ known, named⟩
          · obtain rfl := List.mem_singleton.mp here
            exact ⟨c.record, by simp, completes.confirms.artifact⟩
        obtain ⟨log, last, advances⟩ := ih (done ++ [step]) (by simp [split]) next recorded'
        exact ⟨c :: log, last, .step completes advances⟩
  exact onward steps [] rfl s (by simp)

/-- The payloads of a row of steps carry the addresses that are recorded in the end. -/
theorem Advances.carries {steps : List Plan.Step} {s last : State σ} {log : List Completion}
    (advances : Advances setting linkName steps s log last) {address : String → Address}
    (recorded : ∀ record ∈ last.records, address record.artifact = record.address)
    {label : String → String} {template : Artifact → Template}
    (prepared : ∀ step ∈ steps,
      Prepared setting.source label step.artifact (template step.artifact))
    (named : ∀ step ∈ steps, ∀ library ∈ step.artifact.libraries,
      linkName library = label library) :
    List.Forall₂ (fun step c => Carries (template step.artifact) address step.artifact c.payload)
      steps log := by
  induction advances with
  | nothing => exact .nil
  | @step step rest s next last c log completes others ih =>
      obtain ⟨here, prepared⟩ := List.forall_mem_cons.mp prepared
      obtain ⟨namedHere, named⟩ := List.forall_mem_cons.mp named
      refine .cons (here.carries namedHere (fun name depends => ?_) completes.paid)
        (ih recorded prepared named)
      obtain ⟨found, known⟩ := resolved_of_payload completes.paid name depends
      obtain ⟨record, member, rfl, rfl⟩ := addressOf_eq_some known
      have kept : record ∈ last.records := by
        rw [others.records_eq, completes.records]
        exact List.mem_append_left _ (List.mem_append_left _ member)
      rw [known, recorded record kept]

end Steps

/-! ## Runs -/

section Runs

variable {σ : Type}

/-- A run that has deployed a whole plan: `log` is what its steps left behind, and
`address` gives the addresses in the records. -/
structure Deployed (plan : Plan) (chain : UInt64) (template : Artifact → Template)
    (outcome : Outcome σ) (log : List Completion) (address : String → Address) : Prop where
  result : outcome.result = .ok (log.map (·.record))
  /-- There is one record for each step, in the order of the plan. -/
  confirmed : List.Forall₂ (fun step c => c.Confirms step.artifact) plan.steps log
  /-- Each payload is sent once, and confirmed before the next. -/
  exchanges : outcome.exchanges = .chainId (.ok chain) :: log.flatMap (·.exchanges)
  recorded : ∀ c ∈ log, address c.record.artifact = c.record.address
  /-- Everything that an artifact depends on has a record. -/
  resolved : ∀ step ∈ plan.steps, ∀ name, step.artifact.DependsOn name →
    ∃ c ∈ log, c.record.artifact = name
  carried : List.Forall₂
    (fun step c => Carries (template step.artifact) address step.artifact c.payload)
    plan.steps log

/-- In the plan of some artifacts, libraries go by the labels that they declare. -/
theorem linkNameOf_eq {artifacts : List Artifact} {plan : Plan}
    (built : Plan.build artifacts = .ok plan) {label : String → String}
    (labels : ∀ b ∈ artifacts, label b.name = b.linkName) {name : String}
    (declared : ∃ b ∈ artifacts, b.name = name) :
    linkNameOf plan.artifacts name = label name := by
  have same := Plan.perm_of_build built
  unfold linkNameOf
  cases found : plan.artifacts.reverse.find? (·.name = name) with
  | some b =>
      have named := List.find?_some found
      have member := List.mem_of_find?_eq_some found
      simp only [decide_eq_true_eq] at named
      exact named ▸ (labels b (same.mem_iff.mp (List.mem_reverse.mp member))).symm
  | none =>
      obtain ⟨b, member, named⟩ := declared
      have absent := List.find?_eq_none.mp found b (List.mem_reverse.mpr (same.mem_iff.mpr member))
      simp [named] at absent

/-- Each step of a plan has its payload, once the steps before it have records. -/
theorem exists_payload_of_build {artifacts : List Artifact} {plan : Plan}
    (built : Plan.build artifacts = .ok plan) {source : Build.Source} {label : String → String}
    {template : Artifact → Template} {step : Plan.Step} {done rest : List Plan.Step}
    (split : plan.steps = done ++ step :: rest)
    (prepared : Prepared source label step.artifact (template step.artifact))
    (named : ∀ library ∈ step.artifact.libraries,
      linkNameOf plan.artifacts library = label library) {records : List Record}
    (recorded : ∀ earlier ∈ done, ∃ record ∈ records, record.artifact = earlier.artifact.name) :
    ∃ sent, payload source (linkNameOf plan.artifacts) (addressOf records) step.artifact =
      .ok sent := by
  have resolved : ∀ name, step.artifact.DependsOn name →
      addressOf records name = some ((addressOf records name).getD default) := by
    intro name depends
    obtain ⟨earlier, before, rfl⟩ := Plan.behind_of_build built done step rest split name depends
    cases known : addressOf records earlier.artifact.name with
    | some address => rfl
    | none =>
        obtain ⟨record, there, same⟩ := recorded earlier before
        exact absurd same (addressOf_eq_none_iff.mp known record there)
  obtain ⟨sent, paid, -⟩ := prepared.exists_payload named resolved
  exact ⟨sent, paid⟩

/-- Where no name is recorded twice, every record tells the address of its artifact. -/
theorem addressOf_of_nodup {records : List Record} (distinct : (records.map (·.artifact)).Nodup)
    {record : Record} (member : record ∈ records) :
    addressOf records record.artifact = some record.address := by
  induction records with
  | nil => cases member
  | cons first rest ih =>
      rw [List.map_cons, List.nodup_cons] at distinct
      rcases List.mem_cons.mp member with rfl | later
      · simp [addressOf]
      · have other : first.artifact ≠ record.artifact := fun same =>
          distinct.1 (same ▸ List.mem_map_of_mem later)
        rw [addressOf, List.find?_cons_of_neg (by simpa using other)]
        exact ih distinct.2 later

theorem Starts.deployed {artifacts : List Artifact} {plan : Plan}
    (built : Plan.build artifacts = .ok plan) {setting : Setting σ} {network : Network} {start : σ}
    {s last : State σ} {log : List Completion} (starts : Starts setting network start s)
    (advances : Advances setting (linkNameOf plan.artifacts) plan.steps s log last)
    {chain : UInt64} (connected : (setting.delivery.chainId start).1 = .ok chain)
    {label : String → String} {template : Artifact → Template}
    (prepared : ∀ step ∈ plan.steps,
      Prepared setting.source label step.artifact (template step.artifact))
    (named : ∀ step ∈ plan.steps, ∀ library ∈ step.artifact.libraries,
      linkNameOf plan.artifacts library = label library) :
    ∃ address, Deployed plan chain template (execute setting plan network start) log address := by
  have records : last.records = log.map (·.record) := starts.records_eq advances
  -- No name is recorded twice, so the records tell the address of every artifact.
  have names : last.records.map (·.artifact) = plan.names := by
    rw [records, List.map_map, Plan.names, Plan.artifacts, List.map_map]
    exact advances.names_eq
  let address : String → Address := fun name => (addressOf last.records name).getD default
  have recorded : ∀ record ∈ last.records, address record.artifact = record.address := by
    intro record known
    have found := addressOf_of_nodup (names ▸ Plan.nodup_of_build built) known
    simp [address, found]
  have first : s.exchanges = [.chainId (.ok chain)] := by
    obtain ⟨chain', answered, -, calls⟩ := starts.connected
    rw [answered] at connected
    cases connected
    exact calls
  refine ⟨address, ?_, advances.confirms, ?_, ?_, ?_, advances.carries recorded prepared named⟩
  · rw [starts.execute_eq advances, records]
  · rw [starts.execute_eq advances, advances.exchanges_eq, first]
    rfl
  · intro c logged
    exact recorded c.record (records ▸ List.mem_map_of_mem logged)
  · intro step inPlan name depends
    obtain ⟨done, rest, split⟩ := List.append_of_mem inPlan
    obtain ⟨earlier, before, rfl⟩ := Plan.behind_of_build built done step rest split name depends
    have inLog : earlier.artifact.name ∈ log.map (·.record.artifact) := by
      rw [advances.names_eq, split]
      exact List.mem_map_of_mem (List.mem_append_left _ before)
    exact List.mem_map.mp inLog

/-- **A run that nothing stands in the way of deploys its plan.**  It ends with a record
for every step, and every payload is the artifact's bytecode with the addresses of its
libraries, followed by its arguments with the addresses they refer to. -/
theorem execute_deploys {artifacts : List Artifact} {plan : Plan}
    (built : Plan.build artifacts = .ok plan) (setting : Setting σ) (network : Network) (start : σ)
    {chain : UInt64} (connected : (setting.delivery.chainId start).1 = .ok chain)
    (accepted : network.matcher.accepts chain = true) (running : setting.stop = .never)
    (obliging : Obliging setting.delivery) {label : String → String}
    (labels : ∀ b ∈ artifacts, label b.name = b.linkName) {template : Artifact → Template}
    (prepared : ∀ a ∈ artifacts, Prepared setting.source label a (template a)) :
    ∃ log address, Deployed plan chain template (execute setting plan network start)
      log address := by
  obtain ⟨-, declared, -⟩ := Plan.check_passes_iff.mp (Plan.build_eq_ok_iff.mp built).1
  have member : ∀ step ∈ plan.steps, step.artifact ∈ artifacts := fun step inPlan =>
    (Plan.perm_of_build built).mem_iff.mp (List.mem_map_of_mem inPlan)
  have prepared : ∀ step ∈ plan.steps,
      Prepared setting.source label step.artifact (template step.artifact) :=
    fun step inPlan => prepared _ (member step inPlan)
  have named : ∀ step ∈ plan.steps, ∀ library ∈ step.artifact.libraries,
      linkNameOf plan.artifacts library = label library := fun step inPlan library linked =>
    linkNameOf_eq built labels (declared _ (member step inPlan) library (Or.inl linked))
  have payable : ∀ done step rest, plan.steps = done ++ step :: rest → ∀ records : List Record,
      (∀ earlier ∈ done, ∃ record ∈ records, record.artifact = earlier.artifact.name) →
      ∃ sent, payload setting.source (linkNameOf plan.artifacts) (addressOf records)
        step.artifact = .ok sent := by
    intro done step rest split records recorded
    have inPlan : step ∈ plan.steps := by simp [split]
    exact exists_payload_of_build built split (prepared step inPlan) (named step inPlan) recorded
  let s : State σ := ⟨(setting.delivery.chainId start).2, [], [.chainId (.ok chain)]⟩
  have starts : Starts setting network start s :=
    ⟨⟨chain, by rw [← connected], accepted, rfl⟩, rfl⟩
  obtain ⟨log, last, advances⟩ := exists_advances _ running obliging payable s
  obtain ⟨address, deployed⟩ := starts.deployed built advances connected prepared named
  exact ⟨log, address, deployed⟩

/-- The receipts of completed steps are what the delivery has answered. -/
theorem Answered.receipts {delivery : Delivery σ} {d last : σ} {log : List Completion}
    (answered : Answered delivery d (log.flatMap (·.exchanges)) last) :
    ∀ c ∈ log, ∃ sent next, delivery.confirm sent c.hash = (.ok c.receipt, next) := by
  induction log generalizing d with
  | nil => simp
  | cons first rest ih =>
      cases answered with
      | submit _ others =>
          cases others with
          | confirm asked others => exact List.forall_mem_cons.mpr ⟨⟨_, _, asked⟩, ih others⟩

theorem exists_of_forall₂ {α β : Type} {related : α → β → Prop} {as : List α} {bs : List β}
    (pairs : List.Forall₂ related as bs) : ∀ a ∈ as, ∃ b ∈ bs, related a b := by
  induction pairs with
  | nil => simp
  | cons pair _ ih =>
      refine List.forall_mem_cons.mpr ⟨⟨_, List.mem_cons_self .., pair⟩, ?_⟩
      intro a later
      obtain ⟨b, there, pair⟩ := ih a later
      exact ⟨b, List.mem_cons_of_mem _ there, pair⟩

/-- Where the delivery gives one address to every contract, each artifact has it. -/
theorem Deployed.address_eq {plan : Plan} {chain : UInt64} {template : Artifact → Template}
    {setting : Setting σ} {network : Network} {start : σ} {log : List Completion}
    {address : String → Address}
    (deployed : Deployed plan chain template (execute setting plan network start) log address)
    {place : Address} (placed : ∀ d hash receipt next,
      setting.delivery.confirm d hash = (.ok receipt, next) → receipt.contract = some place) :
    ∀ step ∈ plan.steps, address step.artifact.name = place := by
  have answered := execute_answered setting plan network start
  rw [deployed.exchanges] at answered
  cases answered with
  | chainId _ others =>
      intro step inPlan
      obtain ⟨c, logged, confirms⟩ := exists_of_forall₂ deployed.confirmed step inPlan
      obtain ⟨sent, next, asked⟩ := others.receipts c logged
      have contract := confirms.contract.symm.trans (placed _ _ _ _ asked)
      rw [← confirms.artifact, deployed.recorded c logged]
      exact Option.some.inj contract

end Runs

/-! ## A contract and its library -/

namespace Sample

/-- A library that goes by a longer label. -/
def math : Artifact := (Artifact.library "Math").withLinkName "lib/Math.sol:Math"

/-- A contract that links the library, takes its address, and has its build output under
another name. -/
def ledger : Artifact :=
  ((((Artifact.contract "Ledger").fromBuild "LedgerV2").linking "Math").withArgument
    (.artifact "Math")).withArgument (.uint 7)

def label (name : String) : String := if name = "Math" then "lib/Math.sol:Math" else name

/-- The slots of the contract, with odd runs of digits around the second. -/
def template (a : Artifact) : Template :=
  if a.name = "Ledger" then
    [.digits "60AB".toList, .slot .legacy "Math", .digits "6".toList, .slot .hashed "Math",
      .digits "f".toList]
  else [.digits "6001".toList]

def outputs : Build.Source := fun name =>
  if name = "LedgerV2" then
    .ok ⟨name, String.ofList ((template ledger).text label),
      ⟨some [⟨"address", .ok .address⟩, ⟨"uint256", .ok (.uint 256)⟩]⟩⟩
  else .ok ⟨name, String.ofList ((template math).text label), .empty⟩

/-- A setting in which every contract gets the same address. -/
def placing : Setting Unit where
  source := outputs
  delivery := { delivery with confirm := fun _ hash =>
    (.ok ⟨hash, some (.repeated 20 0xa7), 5, true⟩, ()) }
  stop := .never
  clock := fun _ => default

/-- The contract with the twenty bytes of the library's address in both slots, half a byte off
in the second. -/
def ledgerCode : List UInt8 :=
  [0x60, 0xab] ++ List.replicate 20 0xa7 ++ [0x6a] ++ List.replicate 19 0x7a ++ [0x7f]

/-- The address in a word, and the number in another. -/
def ledgerArguments : List UInt8 :=
  (List.replicate 12 0 ++ List.replicate 20 0xa7) ++ (List.replicate 31 0 ++ [7])

theorem prepared_math : Prepared outputs label math (template math) where
  loaded := ⟨_, rfl, rfl, rfl⟩
  within := by
    intro piece member
    obtain rfl := List.mem_singleton.mp member
    exact Hex.mem_alphabet_of_all (by decide)
  even := rfl
  separate := ⟨fun _ linked => absurd linked List.not_mem_nil,
    fun _ linked => absurd linked List.not_mem_nil⟩

theorem prepared_ledger : Prepared outputs label ledger (template ledger) where
  loaded := ⟨_, rfl, rfl, .cons ⟨_, rfl, .artifact _⟩ (.cons ⟨_, rfl, .uint _⟩ .nil)⟩
  within := by
    have linked : "Math" ∈ ledger.libraries := List.mem_singleton.mpr rfl
    intro piece member
    change piece ∈ [_, _, _, _, _] at member
    simp only [List.mem_cons, List.not_mem_nil, or_false] at member
    rcases member with rfl | rfl | rfl | rfl | rfl
    · exact Hex.mem_alphabet_of_all (by decide)
    · exact linked
    · exact Hex.mem_alphabet_of_all (by decide)
    · exact linked
    · exact Hex.mem_alphabet_of_all (by decide)
  even := rfl
  separate := by
    have only : ∀ library ∈ ledger.libraries, library = "Math" := fun _ => List.mem_singleton.mp
    refine ⟨fun library linked => ?_, fun library linked other linked' differ => ?_⟩
    · obtain rfl := only library linked
      exact ⟨by decide, by decide, by decide, by decide, by decide, by decide⟩
    · exact absurd ((only library linked).trans (only other linked').symm) differ

variable {address : String → Address}

theorem decode_math : Hex.decode (Text.bytes ((template math).filled address)) =
    .ok [0x60, 0x01] := by
  have filled : (template math).filled address = "6001".toList := rfl
  rw [filled]
  rfl

theorem decode_ledger (placed : address "Math" = .repeated 20 0xa7) :
    Hex.decode (Text.bytes ((template ledger).filled address)) = .ok ledgerCode := by
  have filled : (template ledger).filled address = "60AB".toList ++
      (Hex.encode (address "Math").bytes ++ ("6".toList ++
        (Hex.encode (address "Math").bytes ++ "f".toList))) := rfl
  rw [filled, placed]
  rfl

theorem encode_ledger (placed : address "Math" = .repeated 20 0xa7) :
    Abi.encode (ledger.arguments.map (·.valueAt address)) = ledgerArguments := by
  have values : ledger.arguments.map (·.valueAt address) =
      [.word (.address (address "Math")), .word (.uint 7)] := rfl
  rw [values, placed]
  rfl

end Sample

/-- The library goes first, and both slots of the contract take its address. -/
theorem execute_deploys_ledger :
    ∃ log address, Deployed (.ofArtifacts [Sample.math, Sample.ledger]) 1 Sample.template
      (execute Sample.placing (.ofArtifacts [Sample.math, Sample.ledger]) {} ()) log address ∧
      log.map (·.payload) =
        [[0x60, 0x01], Sample.ledgerCode ++ Sample.ledgerArguments] := by
  have built : Plan.build [Sample.ledger, Sample.math] =
      .ok (.ofArtifacts [Sample.math, Sample.ledger]) := rfl
  have labels : ∀ b ∈ [Sample.ledger, Sample.math], Sample.label b.name = b.linkName := by
    decide
  have prepared : ∀ a ∈ [Sample.ledger, Sample.math],
      Prepared Sample.outputs Sample.label a (Sample.template a) := by
    intro a member
    simp only [List.mem_cons, List.not_mem_nil, or_false] at member
    rcases member with rfl | rfl
    · exact Sample.prepared_ledger
    · exact Sample.prepared_math
  have obliging : Obliging Sample.placing.delivery :=
    ⟨fun _ _ => ⟨_, _, _, _, rfl, rfl, rfl, _, rfl⟩⟩
  obtain ⟨log, address, deployed⟩ :=
    execute_deploys built Sample.placing {} () rfl rfl rfl obliging labels prepared
  have placed : address "Math" = .repeated 20 0xa7 := by
    refine deployed.address_eq (fun _ _ _ _ asked => ?_) ⟨0, Sample.math⟩ (List.mem_cons_self ..)
    cases asked
    rfl
  refine ⟨log, address, deployed, ?_⟩
  cases deployed.carried with
  | cons math rest =>
      cases rest with
      | cons ledger rest =>
          cases rest
          have first := math.eq_append Sample.decode_math
          have second := ledger.eq_append (Sample.decode_ledger placed)
          simp only [List.map_cons, List.map_nil, first, second, Sample.encode_ledger placed]
          rfl

end Rollout.Run
