import SpxSpark.Ibkr.QuoteDemandWire

/-!
# QuoteDemandRoundTrip — what one side encodes the other decodes

A demand that passes the check has texts that stripping leaves alone, no block reasons, and legs
that their own documents determine.
-/

namespace SpxSpark.Ibkr.QuoteDemand

open Lib Strategy List
open JsonValue (array exists_of_get get get_of_mem get_without get_without_self hasNames mem_without
  object? string text? without)

variable {py : PyTools} {demand : ExactLegQuoteDemand} {leg : ExactLegQuoteDemandLeg}
  {value expected : Members} {text role expiry right : Text} {schemaVersion : Int}

/-! ## Texts -/

/-- A text that is not empty and begins and ends without a space. -/
def Stripped (text : Text) : Prop := stripChars text = text ∧ text ≠ []

theorem requiredString_stripped (h : Stripped text) :
    requiredString (some (.string text)) = .ok text := by
  show (if stripChars text = [] then _ else _) = _
  rw [h.1, if_neg h.2]

theorem stripped_of_requiredString {value : Option JsonValue}
    (h : requiredString value = .ok text) :
    Stripped text := by
  unfold requiredString at h
  split at h
  · cases h
  · split at h
    · cases h
    · rename_i found _ hne
      obtain rfl := Except.ok.inj h
      exact ⟨stripChars_idempotent _, hne⟩

theorem stripped_of_noSpace (h : ∀ c ∈ text, isSpace c = false) (hne : text ≠ []) : Stripped text :=
  ⟨stripChars_eq_self h, hne⟩

theorem stripped_digest (name : String) (n : Nat) (encoded : Text)
    (hname : name.toList.all (fun c => !isSpace c) = true) (hne : name.toList ≠ []) :
    Stripped (name.toList ++ (py.sha256 encoded).take n) := by
  refine stripped_of_noSpace (fun c hc => ?_) fun hnil => hne (append_eq_nil_iff.mp hnil).1
  rcases mem_append.mp hc with hc | hc
  · simpa using all_eq_true.mp hname c hc
  · exact py.sha256_hex encoded c (mem_of_mem_take hc)

theorem stripped_demandId (eventId sessionDate sourcePolicy sourceProvider : Text)
    (longLeg shortLeg : ExactLegQuoteDemandLeg) :
    Stripped (demandId py eventId sessionDate sourcePolicy sourceProvider longLeg shortLeg) :=
  stripped_digest "gth-exact:" 24 _ (by decide) (by decide)

theorem stripped_of_statuses (h : quoteDemandStatuses.contains text = true) : Stripped text := by
  rw [contains_iff_mem] at h
  have hall : ∀ status ∈ quoteDemandStatuses, Stripped status := by
    intro status hstatus
    rcases mem_cons.mp hstatus with rfl | hstatus
    · exact ⟨rfl, cons_ne_nil _ _⟩
    rcases mem_cons.mp hstatus with rfl | hstatus
    · exact ⟨rfl, cons_ne_nil _ _⟩
    rw [mem_singleton.mp hstatus]
    exact ⟨rfl, cons_ne_nil _ _⟩
  exact hall text h

/-! ## Legs -/

theorem equalsText_string : equalsText (some (.string text)) text = true := decide_eq_true rfl

theorem equalsInt_int (number : Int) : equalsInt (some (.int number)) number = true :=
  decide_eq_true rfl

theorem equalsExpected_string (text : Text) :
    equalsExpected (some (.string text)) (.string text) = true := decide_eq_true rfl

variable {members : Members}

theorem hasMembers_self (hnames : (members.map (·.1)).Nodup)
    (hvalues : ∀ member ∈ members, equalsExpected (some member.2) member.2 = true) :
    hasMembers members members = true := by
  unfold hasMembers hasNames
  simp only [Bool.and_eq_true, all_eq_true, any_eq_true, decide_eq_true_eq]
  refine ⟨⟨fun member hmem => ?_, fun name hname => ?_⟩, fun member hmem => ?_⟩
  · exact contains_iff_mem.mpr (mem_map_of_mem hmem)
  · obtain ⟨member, hmem, rfl⟩ := mem_map.mp hname
    exact ⟨member, hmem, rfl⟩
  · rw [get_of_mem hnames hmem]
    exact hvalues member hmem

/-- The names in a leg's document. -/
def legFields : List Text :=
  ["role".toList, "contract_id".toList, "label".toList, "underlier".toList,
    "trading_class".toList, "expiry".toList, "strike".toList, "right".toList, "exchange".toList,
    "currency".toList, "multiplier".toList]

theorem legFields_nodup : legFields.Nodup := by decide

theorem toDict_names (leg : ExactLegQuoteDemandLeg) : leg.toDict.map (·.1) = legFields := rfl

theorem toDict_values (leg : ExactLegQuoteDemandLeg) :
    ∀ member ∈ leg.toDict, equalsExpected (some member.2) member.2 = true := by
  unfold ExactLegQuoteDemandLeg.toDict
  simp only [forall_mem_cons, not_mem_nil, false_imp_iff, implies_true, and_true]
  refine ⟨?_, ?_, ?_, ?_, ?_, ?_, equalsInt_int leg.strike, ?_, ?_, ?_, ?_⟩
  all_goals exact equalsExpected_string _

theorem hasMembers_toDict (leg : ExactLegQuoteDemandLeg) :
    hasMembers leg.toDict leg.toDict = true :=
  hasMembers_self (toDict_names leg ▸ legFields_nodup) (toDict_values leg)

theorem hasMembers_iff : hasMembers value expected = true ↔
    (∀ member ∈ value, member.1 ∈ expected.map (·.1)) ∧
      (∀ name ∈ expected.map (·.1), ∃ member ∈ value, member.1 = name) ∧
      ∀ member ∈ expected, equalsExpected (get member.1 value) member.2 = true := by
  unfold hasMembers hasNames
  simp [and_assoc]

variable {name : Text}

variable {found : JsonValue}

theorem hasMembers_without_iff (hvalue : get name value = some found)
    (hexpected : name ∈ expected.map (·.1))
    (hequal : ∀ member ∈ expected, member.1 = name →
      equalsExpected (some found) member.2 = true) :
    hasMembers (without name value) (without name expected) = hasMembers value expected := by
  have hnames : ∀ other, other ∈ (without name expected).map (·.1) ↔
      other ∈ expected.map (·.1) ∧ other ≠ name := by
    intro other
    simp only [mem_map, mem_without]
    constructor
    · rintro ⟨member, ⟨hmem, hne⟩, rfl⟩
      exact ⟨⟨member, hmem, rfl⟩, hne⟩
    · rintro ⟨⟨member, hmem, rfl⟩, hne⟩
      exact ⟨member, ⟨hmem, hne⟩, rfl⟩
  rw [Bool.eq_iff_iff, hasMembers_iff, hasMembers_iff]
  constructor
  · rintro ⟨hknown, hall, hvalues⟩
    refine ⟨fun member hmem => ?_, fun other hother => ?_, fun member hmem => ?_⟩
    · by_cases hname : member.1 = name
      · exact hname ▸ hexpected
      · exact ((hnames _).mp (hknown member (mem_without.mpr ⟨hmem, hname⟩))).1
    · by_cases hname : other = name
      · exact hname ▸ exists_of_get hvalue
      · obtain ⟨member, hmem, hother⟩ := hall other ((hnames _).mpr ⟨hother, hname⟩)
        exact ⟨member, (mem_without.mp hmem).1, hother⟩
    · by_cases hname : member.1 = name
      · rw [hname, hvalue]
        exact hequal member hmem hname
      · rw [← get_without hname]
        exact hvalues member (mem_without.mpr ⟨hmem, hname⟩)
  · rintro ⟨hknown, hall, hvalues⟩
    refine ⟨fun member hmem => ?_, fun other hother => ?_, fun member hmem => ?_⟩
    · obtain ⟨hmem, hname⟩ := mem_without.mp hmem
      exact (hnames _).mpr ⟨hknown member hmem, hname⟩
    · obtain ⟨hother, hname⟩ := (hnames _).mp hother
      obtain ⟨member, hmem, rfl⟩ := hall other hother
      exact ⟨member, mem_without.mpr ⟨hmem, hname⟩, rfl⟩
    · obtain ⟨hmem, hname⟩ := mem_without.mp hmem
      rw [get_without hname]
      exact hvalues member hmem

/-! ## Legs -/

theorem buildLeg_eq {strike : Option JsonValue} (h : buildLeg role expiry strike right = .ok leg) :
    ∃ number, validStrike strike = .ok number ∧ validRight right = .ok right ∧
      leg = exactLeg role expiry number right := by
  obtain ⟨number, hstrike, h⟩ := of_bind_ok h
  obtain ⟨found, hright, hleg⟩ := of_bind_ok h
  have hfound : found = right := by
    unfold validRight at hright
    split at hright
    · exact (Except.ok.inj hright).symm
    · cases hright
  rw [hfound] at hright hleg
  exact ⟨number, hstrike, hright, (Except.ok.inj hleg).symm⟩

theorem parseLegV1_without (hget : get "right".toList value = some found)
    (hcall : equalsText (some found) call = true) :
    parseLegV1 role expiry (without "right".toList value) = parseLegV1 role expiry value := by
  have hleg : ∀ leg, buildLeg role expiry (get "strike".toList value) call = .ok leg →
      hasMembers (without "right".toList value) (without "right".toList leg.toDict) =
        hasMembers value leg.toDict := by
    intro leg hbuild
    obtain ⟨strike, _, _, rfl⟩ := buildLeg_eq hbuild
    refine hasMembers_without_iff hget (toDict_names _ ▸ by decide) fun member hmem hname => ?_
    have hright := get_of_mem (toDict_names _ ▸ legFields_nodup) hmem
    rw [hname] at hright
    have hvalue : string call = member.2 := Option.some.inj hright
    rw [← hvalue]
    exact hcall
  have hstrike : get "strike".toList (without "right".toList value) =
      get "strike".toList value := get_without (by decide)
  unfold parseLegV1
  rw [get_without_self, hget, hstrike]
  dsimp only
  rw [if_pos hcall]
  cases hbuild : buildLeg role expiry (get "strike".toList value) call with
  | error error => rfl
  | ok leg =>
    show expectMembers _ _ leg = expectMembers _ _ leg
    unfold expectMembers
    rw [hleg leg hbuild]

theorem parseLeg_without (hget : get "right".toList value = some found)
    (hcall : equalsText (some found) call = true) :
    parseLeg schemaV1 (.object (without "right".toList value)) =
      parseLeg schemaV1 (.object value) := by
  have hrole : get "role".toList (without "right".toList value) =
      get "role".toList value := get_without (by decide)
  have hexpiry : get "expiry".toList (without "right".toList value) =
      get "expiry".toList value := get_without (by decide)
  unfold parseLeg
  dsimp only [object?]
  rw [hrole, hexpiry]
  simp only [if_true, parseLegV1_without hget hcall]

theorem parseLeg_legDict (h : parseLeg schemaVersion (.object leg.toDict) = .ok leg)
    (hcall : schemaVersion = schemaV1 → leg.right = call) :
    parseLeg schemaVersion (legDict schemaVersion leg) = .ok leg := by
  unfold legDict
  split
  · rename_i hv1
    have hright : get "right".toList leg.toDict = some (.string leg.right) := rfl
    rw [hv1, parseLeg_without hright (hcall hv1 ▸ equalsText_string), ← hv1]
    exact h
  · exact h

/-! ## What the check has established -/

theorem orIssue_none {issue : Option Text} {rest : Except PyError (Option Text)}
    (h : orIssue issue rest = .ok none) : issue = none ∧ rest = .ok none := by
  cases issue with
  | none => exact ⟨rfl, h⟩
  | some reason => cases h

/-- The parts of the check, one by one. -/
structure Checked (py : PyTools) (demand : ExactLegQuoteDemand) : Prop where
  header : headerIssue py demand = none
  contract : strategyContractIssues py demand.sourceContract true true = .ok []
  source : sourceIssue demand = none
  times : timesIssue demand = none
  legs : legContractsIssue demand = .ok none
  id : idIssue py demand = none

theorem demandIssue_none_iff : demandIssue py demand = .ok none ↔ Checked py demand := by
  constructor
  · intro h
    obtain ⟨hheader, h⟩ := orIssue_none h
    obtain ⟨issues, hcontract, h⟩ := of_bind_ok h
    split at h
    · cases h
    · rename_i hissues
      obtain ⟨hsource, h⟩ := orIssue_none h
      obtain ⟨htimes, h⟩ := orIssue_none h
      obtain ⟨issue, hlegs, h⟩ := of_bind_ok h
      obtain ⟨rfl, hid⟩ := orIssue_none h
      rw [not_not.mp hissues] at hcontract
      exact ⟨hheader, hcontract, hsource, htimes, hlegs, Except.ok.inj hid⟩
  · intro h
    unfold demandIssue
    rw [h.header, h.contract, h.source, h.times, h.legs, h.id]
    rfl

theorem issue_none_iff {c : Prop} [Decidable c] {reason : Text} {rest : Option Text} :
    (if c then some reason else rest) = none ↔ ¬ c ∧ rest = none := by
  by_cases h : c
  · simp [h]
  · simp [h]

theorem headerIssue_none_iff : headerIssue py demand = none ↔
    quoteDemandStatuses.contains demand.status = true ∧
      (expectedPolicyVersion py demand.schemaVersion).isSome = true ∧
      some demand.policyVersion = expectedPolicyVersion py demand.schemaVersion ∧
      demand.quoteProvider = "ibkr".toList := by
  unfold headerIssue
  rw [issue_none_iff, issue_none_iff, issue_none_iff, issue_none_iff, not_not, not_not,
    Bool.not_eq_true', Bool.not_eq_false, Bool.not_eq_true, Option.isNone_eq_false_iff]
  simp only [and_true]

theorem timesIssue_none_iff : timesIssue demand = none ↔ isSessionDate demand.sessionDate = true ∧
    demand.createdAt ≤ demand.updatedAt ∧ demand.updatedAt < demand.validUntil ∧
      demand.validUntil - demand.updatedAt ≤ quoteDemandMaxLeaseSeconds * 1000000 := by
  unfold timesIssue
  rw [issue_none_iff, issue_none_iff, issue_none_iff, issue_none_iff, not_lt, not_le, not_lt,
    Bool.not_eq_true', Bool.not_eq_false]
  simp only [and_true]

theorem sourceIssue_none_iff : sourceIssue demand = none ↔
    equalsText (get "kind".toList demand.coordinate) "raw_es".toList = true ∧
      (expectedSourcePrefixes demand.status demand.schemaVersion).any
        (·.isPrefixOf demand.sourcePolicyVersion) = true ∧
      equalsText (get "provider".toList demand.coordinate) demand.sourceProvider = true ∧
      demand.blockReasons = [] ∧ demand.automaticOrdering = false := by
  unfold sourceIssue
  rw [issue_none_iff, issue_none_iff, issue_none_iff, issue_none_iff, issue_none_iff, not_not,
    Bool.not_eq_true', Bool.not_eq_false, Bool.not_eq_true', Bool.not_eq_false,
    Bool.not_eq_true', Bool.not_eq_false, Bool.not_eq_true]
  simp only [and_true]

namespace Checked

variable (h : Checked py demand)

include h

theorem status : Stripped demand.status :=
  stripped_of_statuses (headerIssue_none_iff.mp h.header).1

theorem schema : demand.schemaVersion = schemaV1 ∧
      demand.policyVersion = quoteDemandV1PolicyVersion py ∨
    demand.schemaVersion = schemaV2 ∧ demand.policyVersion = quoteDemandPolicyVersion py := by
  obtain ⟨_, hknown, hpolicy, _⟩ := headerIssue_none_iff.mp h.header
  unfold expectedPolicyVersion at hknown hpolicy
  split at hknown
  · rename_i hv
    rw [if_pos hv] at hpolicy
    exact .inl ⟨hv, Option.some.inj hpolicy⟩
  · rename_i hne
    split at hknown
    · rename_i hv
      rw [if_neg hne, if_pos hv] at hpolicy
      exact .inr ⟨hv, Option.some.inj hpolicy⟩
    · cases hknown

theorem policyVersion : Stripped demand.policyVersion := by
  rcases h.schema with ⟨_, hpolicy⟩ | ⟨_, hpolicy⟩
  · rw [hpolicy]
    exact stripped_digest "ibkr_exact_leg_quote_demand.v1+sha256:" 16 _ (by decide) (by decide)
  · rw [hpolicy]
    exact stripped_digest "ibkr_exact_leg_quote_demand.v2+sha256:" 16 _ (by decide) (by decide)

theorem quoteProvider : Stripped demand.quoteProvider := by
  rw [(headerIssue_none_iff.mp h.header).2.2.2]
  exact ⟨rfl, cons_ne_nil _ _⟩

theorem blockReasons : demand.blockReasons = [] :=
  (sourceIssue_none_iff.mp h.source).2.2.2.1

theorem sessionDate : isSessionDate demand.sessionDate = true :=
  (timesIssue_none_iff.mp h.times).1

theorem parsed : parseLeg demand.schemaVersion (.object demand.longLeg.toDict) =
      .ok demand.longLeg ∧
    parseLeg demand.schemaVersion (.object demand.shortLeg.toDict) = .ok demand.shortLeg ∧
    legsIssue demand.schemaVersion demand.longLeg demand.shortLeg = none := by
  have hlegs := h.legs
  unfold legContractsIssue at hlegs
  split at hlegs
  · cases hlegs
  split at hlegs
  · cases hlegs
  obtain ⟨long, hlong, hlegs⟩ := of_bind_ok hlegs
  split at hlegs
  · cases hlegs
  rename_i hlongEq
  obtain ⟨short, hshort, hlegs⟩ := of_bind_ok hlegs
  split at hlegs
  · cases hlegs
  rename_i hshortEq
  rw [not_not.mp hlongEq] at hlong
  rw [not_not.mp hshortEq] at hshort
  exact ⟨hlong, hshort, Except.ok.inj hlegs⟩

theorem calls (hv : demand.schemaVersion = schemaV1) :
    demand.longLeg.right = call ∧ demand.shortLeg.right = call := by
  have hlegs := h.parsed.2.2
  unfold legsIssue at hlegs
  split at hlegs
  · cases hlegs
  · rename_i hrights
    simpa [hv] using hrights

theorem demandId : Stripped demand.demandId := by
  have hid := h.id
  unfold idIssue at hid
  split at hid
  · rename_i hmatch
    rw [hmatch]
    exact stripped_demandId _ _ _ _ _ _
  · cases hid

end Checked

/-! ## Reading what was encoded -/

/-- A demand that is in order, with the texts that the check takes as they are. -/
structure Sound (py : PyTools) (demand : ExactLegQuoteDemand) : Prop where
  issue : demandIssue py demand = .ok none
  eventId : Stripped demand.eventId
  sourcePolicyVersion : Stripped demand.sourcePolicyVersion
  sourceProvider : Stripped demand.sourceProvider

theorem parseTime_isoformat (time : Instant) :
    parseTime py (some (.string (py.isoformat time))) = .ok time := by
  have htext : (some (string (py.isoformat time))).bind text? =
      some (py.isoformat time) := rfl
  unfold parseTime
  rw [htext]
  dsimp only
  rw [py.fromisoformat_isoformat]

theorem validSessionDate_text (h : isSessionDate text = true) :
    validSessionDate (some (.string text)) = .ok text := if_pos h

theorem readDemand_toDict (h : Sound py demand) : readDemand py demand.schemaVersion
        (legDict demand.schemaVersion demand.longLeg, legDict demand.schemaVersion demand.shortLeg)
        (demand.toDict py) = .ok demand := by
  have hchecked := demandIssue_none_iff.mp h.issue
  have hreasons := hchecked.blockReasons
  obtain ⟨hlong, hshort, _⟩ := hchecked.parsed
  unfold readDemand
  rw [parseLeg_legDict hlong fun hv => (hchecked.calls hv).1,
    parseLeg_legDict hshort fun hv => (hchecked.calls hv).2]
  show (do
    let demandId ← requiredString (some (.string demand.demandId))
    let eventId ← requiredString (some (.string demand.eventId))
    let status ← requiredString (some (.string demand.status))
    let createdAt ← parseTime py (some (.string (py.isoformat demand.createdAt)))
    let updatedAt ← parseTime py (some (.string (py.isoformat demand.updatedAt)))
    let validUntil ← parseTime py (some (.string (py.isoformat demand.validUntil)))
    let sessionDate ← validSessionDate (some (.string demand.sessionDate))
    let policyVersion ← requiredString (some (.string demand.policyVersion))
    let sourceSchemaVersion ← Except.ok demand.sourceSchemaVersion
    let sourcePolicyVersion ← requiredString (some (.string demand.sourcePolicyVersion))
    let sourceProvider ← requiredString (some (.string demand.sourceProvider))
    let quoteProvider ← requiredString (some (.string demand.quoteProvider))
    let coordinate ← Except.ok demand.coordinate
    let blockReasons ← requiredBlockReasons (some (.array (demand.blockReasons.map .string)))
    let automaticOrdering ← Except.ok demand.automaticOrdering
    Except.ok (ExactLegQuoteDemand.mk demand.schemaVersion demandId eventId status createdAt
      updatedAt validUntil sessionDate policyVersion sourceSchemaVersion sourcePolicyVersion
      sourceProvider quoteProvider coordinate blockReasons automaticOrdering demand.longLeg
      demand.shortLeg)) = .ok demand
  rw [requiredString_stripped hchecked.demandId, requiredString_stripped h.eventId,
    requiredString_stripped hchecked.status, parseTime_isoformat, parseTime_isoformat,
    parseTime_isoformat, validSessionDate_text hchecked.sessionDate,
    requiredString_stripped hchecked.policyVersion,
    requiredString_stripped h.sourcePolicyVersion, requiredString_stripped h.sourceProvider,
    requiredString_stripped hchecked.quoteProvider, hreasons]
  show Except.ok { demand with blockReasons := [] } = .ok demand
  rw [← hreasons]

theorem supportedSchema_toDict (h : Checked py demand) :
    supportedSchema (demand.toDict py) = some demand.schemaVersion := by
  show Option.filter _ (some demand.schemaVersion) = some demand.schemaVersion
  rw [Option.filter_some, if_pos]
  rcases h.schema with ⟨hv, _⟩ | ⟨hv, _⟩ <;> simp [hv]

theorem parse_toDict (h : Sound py demand) (now : Instant) :
    parseExactLegQuoteDemand py (demand.toDict py) now = .ok (admitDemandAt demand now) := by
  have hfields : hasNames demandFields (demand.toDict py) = true := by
    show (demandFields.all (demandFields.contains ·) && _) = true
    rfl
  have hbody : parseBody py (demand.toDict py) now = .ok (admitDemandAt demand now) := by
    unfold parseBody
    rw [supportedSchema_toDict (demandIssue_none_iff.mp h.issue)]
    show (if equalsText (some (.string quoteDemandKind)) quoteDemandTombstoneKind then _
      else if !equalsText (some (.string quoteDemandKind)) quoteDemandKind then _
      else if !hasNames demandFields (demand.toDict py) then _
      else readDemand py demand.schemaVersion
        (legDict demand.schemaVersion demand.longLeg, legDict demand.schemaVersion demand.shortLeg)
        (demand.toDict py) >>= _) = Except.ok (admitDemandAt demand now)
    rw [if_neg (by decide), if_neg (by decide), hfields, if_neg (by decide), readDemand_toDict h]
    show (demandIssue py demand >>= _) = _
    rw [h.issue]
    rfl
  unfold parseExactLegQuoteDemand
  rw [hbody]

/-! ## What is built and what is parsed is sound -/

theorem build_spec {request : DemandRequest}
    (h : buildExactLegQuoteDemand py request = .ok demand) :
    Sound py demand ∧ demand.updatedAt = request.updatedAt ∧
      demand.validUntil = request.validUntil := by
  obtain ⟨built, hbuilt, h⟩ := of_bind_ok h
  obtain ⟨issue, hissue, h⟩ := of_bind_ok h
  cases issue with
  | some reason => cases h
  | none =>
    obtain rfl : built = demand := Except.ok.inj h
    obtain ⟨expiry, _, h⟩ := of_bind_ok hbuilt
    obtain ⟨longLeg, _, h⟩ := of_bind_ok h
    obtain ⟨shortLeg, _, h⟩ := of_bind_ok h
    obtain ⟨eventId, heventId, h⟩ := of_bind_ok h
    obtain ⟨sourcePolicy, hsourcePolicy, h⟩ := of_bind_ok h
    obtain ⟨sourceProvider, hsourceProvider, h⟩ := of_bind_ok h
    obtain ⟨coordinate, _, h⟩ := of_bind_ok h
    obtain rfl := Except.ok.inj h
    exact ⟨⟨hissue, stripped_of_requiredString heventId,
      stripped_of_requiredString hsourcePolicy, stripped_of_requiredString hsourceProvider⟩,
      rfl, rfl⟩

theorem readDemand_stripped {legs : JsonValue × JsonValue} {payload : Members}
    (h : readDemand py schemaVersion legs payload = .ok demand) :
    Stripped demand.eventId ∧ Stripped demand.sourcePolicyVersion ∧
      Stripped demand.sourceProvider := by
  obtain ⟨longLeg, _, h⟩ := of_bind_ok h
  obtain ⟨shortLeg, _, h⟩ := of_bind_ok h
  obtain ⟨demandId, _, h⟩ := of_bind_ok h
  obtain ⟨eventId, heventId, h⟩ := of_bind_ok h
  obtain ⟨status, _, h⟩ := of_bind_ok h
  obtain ⟨createdAt, _, h⟩ := of_bind_ok h
  obtain ⟨updatedAt, _, h⟩ := of_bind_ok h
  obtain ⟨validUntil, _, h⟩ := of_bind_ok h
  obtain ⟨sessionDate, _, h⟩ := of_bind_ok h
  obtain ⟨policyVersion, _, h⟩ := of_bind_ok h
  obtain ⟨sourceSchema, _, h⟩ := of_bind_ok h
  obtain ⟨sourcePolicy, hsourcePolicy, h⟩ := of_bind_ok h
  obtain ⟨sourceProvider, hsourceProvider, h⟩ := of_bind_ok h
  obtain ⟨quoteProvider, _, h⟩ := of_bind_ok h
  obtain ⟨coordinate, _, h⟩ := of_bind_ok h
  obtain ⟨blockReasons, _, h⟩ := of_bind_ok h
  obtain ⟨automaticOrdering, _, h⟩ := of_bind_ok h
  obtain rfl := Except.ok.inj h
  exact ⟨stripped_of_requiredString heventId, stripped_of_requiredString hsourcePolicy,
    stripped_of_requiredString hsourceProvider⟩

variable {now : Instant} {reason : Option Text}

theorem admitDemandAt_demand {found : ExactLegQuoteDemand}
    (h : admitDemandAt found now = (some demand, reason)) : found = demand ∧ reason = none := by
  unfold admitDemandAt at h
  split at h
  · cases h
  split at h
  · cases h
  cases h
  exact ⟨rfl, rfl⟩

theorem parseBody_cases {payload : Members} {parsed : Parsed}
    (h : parseBody py payload now = .ok parsed) : (∃ reason, parsed = (none, some reason)) ∨
      ∃ version legs found, readDemand py version legs payload = .ok found ∧
        demandIssue py found = .ok none ∧ parsed = admitDemandAt found now := by
  unfold parseBody at h
  split at h
  · exact .inl ⟨_, (Except.ok.inj h).symm⟩
  dsimp only at h
  split at h
  · exact .inl ⟨_, (Except.ok.inj h).symm⟩
  split at h
  · exact .inl ⟨_, (Except.ok.inj h).symm⟩
  split at h
  · exact .inl ⟨_, (Except.ok.inj h).symm⟩
  split at h
  · exact .inl ⟨_, (Except.ok.inj h).symm⟩
  obtain ⟨found, hread, h⟩ := of_bind_ok h
  obtain ⟨issue, hissue, h⟩ := of_bind_ok h
  cases issue with
  | some issue => exact .inl ⟨issue, (Except.ok.inj h).symm⟩
  | none => exact .inr ⟨_, _, found, hread, hissue, (Except.ok.inj h).symm⟩

theorem sound_of_parse {payload : Members}
    (h : parseExactLegQuoteDemand py payload now = .ok (some demand, reason)) :
    Sound py demand ∧ admitDemandAt demand now = (some demand, none) := by
  have hbody : parseBody py payload now = .ok (some demand, reason) := by
    unfold parseExactLegQuoteDemand at h
    split at h
    · rename_i hok
      rw [hok, Except.ok.inj h]
    · split at h
      · cases h
      · cases h
  rcases parseBody_cases hbody with ⟨_, hrefused⟩ | ⟨_, _, found, hread, hissue, hadmit⟩
  · cases hrefused
  · obtain ⟨rfl, rfl⟩ := admitDemandAt_demand hadmit.symm
    obtain ⟨heventId, hsourcePolicy, hsourceProvider⟩ := readDemand_stripped hread
    exact ⟨⟨hissue, heventId, hsourcePolicy, hsourceProvider⟩, hadmit.symm⟩

theorem parse_again {payload : Members}
    (h : parseExactLegQuoteDemand py payload now = .ok (some demand, reason)) :
    parseExactLegQuoteDemand py (demand.toDict py) now = .ok (some demand, none) := by
  obtain ⟨hsound, hadmit⟩ := sound_of_parse h
  rw [parse_toDict hsound, hadmit]

theorem parse_built {request : DemandRequest} (h : buildExactLegQuoteDemand py request = .ok demand)
    (hfrom : request.updatedAt ≤ now) (huntil : now < demand.validUntil) :
    parseExactLegQuoteDemand py (demand.toDict py) now = .ok (some demand, none) := by
  have hskew : ¬ now + quoteDemandMaxFutureSkewSeconds * 1000000 < demand.updatedAt := by
    rw [(build_spec h).2.1, not_lt]
    have hpos : (0 : Int) ≤ quoteDemandMaxFutureSkewSeconds * 1000000 := by decide
    exact le_trans hfrom (le_add_of_nonneg_right hpos)
  rw [parse_toDict (build_spec h).1]
  unfold admitDemandAt
  rw [if_neg hskew, if_neg (not_le.mpr huntil)]

theorem parse_returns (payload : Members) (now : Instant) :
    ∃ parsed, parseExactLegQuoteDemand py payload now = .ok parsed ∧
      (parsed.1.isSome = !parsed.2.isSome) := by
  have hadmit : ∀ found, (admitDemandAt found now).1.isSome =
      !(admitDemandAt found now).2.isSome := by
    intro found
    unfold admitDemandAt
    split
    · rfl
    split
    · rfl
    · rfl
  cases hbody : parseBody py payload now with
  | error error =>
    refine ⟨refused "malformed", ?_, rfl⟩
    unfold parseExactLegQuoteDemand
    rw [hbody]
    cases error <;> rfl
  | ok parsed =>
    refine ⟨parsed, ?_, ?_⟩
    · unfold parseExactLegQuoteDemand
      rw [hbody]
    · rcases parseBody_cases hbody with ⟨reason, rfl⟩ | ⟨_, _, found, _, _, rfl⟩
      · rfl
      · exact hadmit found

/-! ## Payloads of the first schema -/

/-- A leg's document without its right, where it says that it is a call. -/
def implicitRight : JsonValue → JsonValue
  | .object members =>
    if (get "right".toList members).any fun right => equalsText (some right) call then
      .object (without "right".toList members)
    else .object members
  | value => value

def withLegs (legs : JsonValue × JsonValue) (payload : Members) : Members :=
  payload.map fun member =>
    if member.1 = "legs".toList then (member.1, .array [legs.1, legs.2]) else member

theorem parseLeg_implicitRight (leg : JsonValue) :
    parseLeg schemaV1 (implicitRight leg) = parseLeg schemaV1 leg := by
  cases leg with
  | object members =>
    unfold implicitRight
    dsimp only
    split
    · rename_i hcall
      obtain ⟨found, hget, hcall⟩ := (Option.any_eq_true _ _).mp hcall
      exact parseLeg_without hget hcall
    · rfl
  | _ => rfl

section WithLegs

variable {legs : JsonValue × JsonValue} {payload : Members}

theorem get_withLegs (h : name ≠ "legs".toList) :
    get name (withLegs legs payload) = get name payload := by
  induction payload with
  | nil => rfl
  | cons first rest ih =>
    show get name ((if first.1 = "legs".toList then _ else first) ::
      withLegs legs rest) = _
    unfold JsonValue.get at ih ⊢
    split
    · rename_i hlegs
      have hne : ¬ first.1 = name := fun heq => h (heq.symm.trans hlegs)
      rw [find?_cons_of_neg (by simpa using hne), find?_cons_of_neg (by simpa using hne)]
      exact ih
    · by_cases heq : first.1 = name
      · rw [find?_cons_of_pos (by simpa using heq),
          find?_cons_of_pos (by simpa using heq)]
      · rw [find?_cons_of_neg (by simpa using heq),
          find?_cons_of_neg (by simpa using heq)]
        exact ih

theorem rawLegs_withLegs {old : JsonValue × JsonValue} (h : rawLegs payload = some old) :
    rawLegs (withLegs legs payload) = some legs := by
  have hget : get "legs".toList (withLegs legs payload) =
      some (.array [legs.1, legs.2]) := by
    have hsome : ∃ member ∈ payload, member.1 = "legs".toList := by
      unfold rawLegs at h
      cases hfound : get "legs".toList payload with
      | none =>
        rw [hfound] at h
        cases h
      | some found => exact exists_of_get hfound
    clear h
    induction payload with
    | nil =>
      obtain ⟨member, hmem, _⟩ := hsome
      cases hmem
    | cons first rest ih =>
      show get _ ((if first.1 = "legs".toList then _ else first) ::
        withLegs legs rest) = _
      unfold JsonValue.get at ih ⊢
      split
      · rename_i hlegs
        rw [find?_cons_of_pos (by simpa using hlegs)]
        rfl
      · rename_i hlegs
        rw [find?_cons_of_neg (by simpa using hlegs)]
        refine ih ?_
        obtain ⟨member, hmem, hname⟩ := hsome
        rcases mem_cons.mp hmem with rfl | hmem
        · exact absurd hname hlegs
        · exact ⟨member, hmem, hname⟩
  unfold rawLegs
  rw [hget]
  rfl

theorem hasNames_withLegs (names : List Text) :
    hasNames names (withLegs legs payload) = hasNames names payload := by
  have hname : ∀ member : Text × JsonValue,
      (if member.1 = "legs".toList then (member.1, array [legs.1, legs.2])
        else member).1 = member.1 := by
    intro member
    split
    · rfl
    · rfl
  unfold hasNames withLegs
  simp only [all_map, any_map, Function.comp_def, hname]

theorem readDemand_withLegs (version : Int) (found : JsonValue × JsonValue) :
    readDemand py version found (withLegs legs payload) = readDemand py version found payload := by
  unfold readDemand
  simp (disch := decide) only [get_withLegs]

theorem parse_implicitRight {long short : JsonValue} (hlegs : rawLegs payload = some (long, short))
    (hv1 : supportedSchema payload = some schemaV1) (now : Instant) :
    parseExactLegQuoteDemand py (withLegs (implicitRight long, implicitRight short) payload) now =
      parseExactLegQuoteDemand py payload now := by
  have hbody : parseBody py (withLegs (implicitRight long, implicitRight short) payload) now =
      parseBody py payload now := by
    have hschema : supportedSchema (withLegs (implicitRight long, implicitRight short) payload) =
        some schemaV1 := by
      rw [← hv1]
      unfold supportedSchema
      rw [get_withLegs (by decide)]
    have hread : readDemand py schemaV1 (implicitRight long, implicitRight short) payload =
        readDemand py schemaV1 (long, short) payload := by
      unfold readDemand
      rw [parseLeg_implicitRight, parseLeg_implicitRight]
    unfold parseBody
    rw [hschema, hv1]
    dsimp only
    rw [get_withLegs (by decide), hasNames_withLegs, rawLegs_withLegs hlegs, hlegs]
    dsimp only
    rw [readDemand_withLegs, hread]
  unfold parseExactLegQuoteDemand
  rw [hbody]

end WithLegs

end SpxSpark.Ibkr.QuoteDemand
