import SpxSpark.Ibkr.QuoteDemandSelected
import Std.Data.String.ToInt

/-!
# QuoteDemandPinned — when the legs of a card stay pinned

A demand is built exactly when its request is in order: two strikes in debit order, a coordinate of
the contract that names its provider, a known policy, a lease that is not too long.
-/

namespace SpxSpark.Ibkr.QuoteDemand

open Lib Strategy List

variable {py : PyTools} {request : DemandRequest} {demand : ExactLegQuoteDemand}

/-! ## Which requests are built -/

/-- The long leg of a debit spread is the dearer one. -/
def DebitOrder (right : Text) (long short : Int) : Prop :=
  right = call ∧ long < short ∨ right = put ∧ short < long

/-- A strike that is read, and read as the same from its document. -/
def ReadsAs (strike : Option JsonValue) (number : Int) : Prop :=
  validStrike strike = .ok number ∧ validStrike (some (.int number)) = .ok number

/-- A coordinate that passes the contract, is one of the future itself and names the provider. -/
structure NamesProvider (py : PyTools) (coordinate : Members) (provider : Text) : Prop where
  contract : coordinateIssues py (some (.object coordinate)) true = .ok []
  kind : equalsText (JsonValue.get "kind".toList coordinate) "raw_es".toList = true
  provider : equalsText (JsonValue.get "provider".toList coordinate) provider = true

/-- What is asked for can be built. -/
structure Buildable (py : PyTools) (request : DemandRequest) : Prop where
  session : isSessionDate request.sessionDate = true
  strikes : ∃ long short, ReadsAs request.longStrike long ∧ ReadsAs request.shortStrike short ∧
    DebitOrder request.right long short
  eventId : stripChars request.eventId ≠ []
  status : quoteDemandStatuses.contains request.status = true
  schema : request.sourceSchemaVersion = strategyEventSchemaVersion
  policy : (expectedSourcePrefixes request.status schemaV2).any
    (·.isPrefixOf (stripChars request.sourcePolicyVersion)) = true
  provider : stripChars request.sourceProvider ≠ []
  coordinate : ∃ normalized, normalizeCoordinate py request.coordinate = .ok normalized ∧
    NamesProvider py normalized (stripChars request.sourceProvider)
  blockReasons : normalizeBlockReasons request.blockReasons = []
  times : request.createdAt ≤ request.updatedAt ∧ request.updatedAt < request.validUntil ∧
    request.validUntil - request.updatedAt ≤ quoteDemandMaxLeaseSeconds * 1000000

/-! ### The parts of the check -/

theorem requiredString_iff {text found : Text} : requiredString (some (.string text)) = .ok found ↔
    stripChars text ≠ [] ∧ found = stripChars text := by
  show (if stripChars text = [] then _ else _) = _ ↔ _
  split
  · rename_i hnil
    constructor
    · intro h
      cases h
    · intro h
      exact absurd hnil h.1
  · rename_i hne
    rw [Except.ok.injEq]
    exact ⟨fun h => ⟨hne, h.symm⟩, fun h => h.2.symm⟩

theorem validRight_iff {right found : Text} : validRight right = .ok found ↔
    (right = call ∨ right = put) ∧ found = right := by
  unfold validRight
  split
  · rename_i hright
    rw [Except.ok.injEq]
    exact ⟨fun h => ⟨by simpa using hright, h.symm⟩, fun h => h.2.symm⟩
  · rename_i hright
    constructor
    · intro h
      cases h
    · rintro ⟨h, _⟩
      exact absurd (by simpa using h) hright

theorem stripped_right {right : Text} (h : right = call ∨ right = put) : Stripped right := by
  rcases h with rfl | rfl
  · exact ⟨rfl, cons_ne_nil _ _⟩
  · exact ⟨rfl, cons_ne_nil _ _⟩

theorem parseLeg_exactLeg {role expiry right : Text} {strike : Int} (hrole : Stripped role)
    (hexpiry : isSessionDate expiry = true) (hright : right = call ∨ right = put) :
    parseLeg schemaV2 (.object (exactLeg role expiry strike right).toDict) =
        .ok (exactLeg role expiry strike right) ↔
      validStrike (some (.int strike)) = .ok strike := by
  have hparse : parseLeg schemaV2 (.object (exactLeg role expiry strike right).toDict) =
      buildLeg role expiry (some (.int strike)) right >>=
        fun leg => expectMembers (exactLeg role expiry strike right).toDict leg.toDict leg := by
    have hgetRole : JsonValue.get "role".toList (exactLeg role expiry strike right).toDict =
        some (.string role) := rfl
    have hgetExpiry : JsonValue.get "expiry".toList (exactLeg role expiry strike right).toDict =
        some (.string expiry) := rfl
    have hgetRight : JsonValue.get "right".toList (exactLeg role expiry strike right).toDict =
        some (.string right) := rfl
    have hgetStrike : JsonValue.get "strike".toList (exactLeg role expiry strike right).toDict =
        some (.int strike) := rfl
    unfold parseLeg
    dsimp only [JsonValue.object?]
    rw [hgetRole, hgetExpiry, requiredString_stripped hrole, validSessionDate_text hexpiry,
      bind_of_ok, bind_of_ok, if_neg (by decide), if_pos rfl]
    unfold parseLegV2
    rw [hgetRight, hgetStrike, requiredString_stripped (stripped_right hright), bind_of_ok]
  rw [hparse]
  constructor
  · intro h
    obtain ⟨leg, hbuild, h⟩ := of_bind_ok h
    obtain ⟨number, hstrike, _, hleg⟩ := buildLeg_eq hbuild
    have hsame : leg = exactLeg role expiry strike right := by
      unfold expectMembers at h
      split at h
      · exact Except.ok.inj h
      · cases h
    rw [hleg] at hsame
    have hnumber : number = strike := congrArg ExactLegQuoteDemandLeg.strike hsame
    rw [hstrike, hnumber]
  · intro h
    have hbuild : buildLeg role expiry (some (.int strike)) right =
        .ok (exactLeg role expiry strike right) := by
      unfold buildLeg
      rw [h, validRight_iff.mpr ⟨hright, rfl⟩]
      rfl
    rw [hbuild]
    show expectMembers _ _ _ = _
    unfold expectMembers
    rw [if_pos (hasMembers_toDict _)]

theorem contractId_ne {role role' expiry right : Text} {strike strike' : Int}
    (h : strike ≠ strike') :
    (exactLeg role expiry strike right).contractId ≠
      (exactLeg role' expiry strike' right).contractId := by
  intro heq
  have hfront : "option:SPX:SPXW:".toList ++ compactDate expiry ++ ':' :: strikeText strike =
      "option:SPX:SPXW:".toList ++ compactDate expiry ++ ':' :: strikeText strike' :=
    append_cancel_right heq
  have hstrike : strikeText strike = strikeText strike' :=
    (List.cons.inj (append_cancel_left hfront)).2
  exact h (Int.repr_injective (String.toList_inj.mp hstrike))

theorem legsIssue_none_iff {expiry right : Text} {long short : Int}
    (hright : right = call ∨ right = put) :
    legsIssue schemaV2 (exactLeg "long".toList expiry long right)
        (exactLeg "short".toList expiry short right) = none ↔ DebitOrder right long short := by
  unfold legsIssue DebitOrder
  show (if _ then _ else if right ≠ right then _
    else if _ || long = short then _
    else if right = call && short ≤ long then _
    else if right = put && long ≤ short then _ else _) = _ ↔ _
  have hv2 : decide (schemaV2 = schemaV1) = false := rfl
  rw [hv2, Bool.false_and, if_neg Bool.false_ne_true, if_neg (by simp)]
  by_cases hsame : long = short
  · rw [if_pos (by simp [hsame])]
    simp [hsame]
  · rw [if_neg (by simp [hsame, contractId_ne hsame])]
    rcases hright with rfl | rfl
    · have hput : (call : Text) ≠ put := by decide
      by_cases hle : short ≤ long
      · simp [hle, hput]
      · simp [hle, hput]
        omega
    · have hcall : (put : Text) ≠ call := by decide
      by_cases hle : long ≤ short
      · simp [hle, hcall]
      · simp [hle, hcall]
        omega

/-! ### The coordinate -/

theorem strOr_text {text fallback : Text} (hne : text ≠ []) :
    strOr py (some (.string text)) fallback = text := by
  have htruthy : (JsonValue.string text).truthy = true := decide_eq_true hne
  unfold strOr
  dsimp only
  rw [if_pos htruthy, py.str_string]

theorem sourceContract_iff (hpolicy : Stripped demand.sourcePolicyVersion)
    (hreasons : demand.blockReasons = []) :
    strategyContractIssues py demand.sourceContract true true = .ok [] ↔
      demand.sourceSchemaVersion = strategyEventSchemaVersion ∧
        coordinateIssues py (some (.object demand.coordinate)) true = .ok [] := by
  have hissues : strategyContractIssues py demand.sourceContract true true = (do
      let coordinate ← coordinateIssues py (some (.object demand.coordinate)) true
      .ok (issueIf (!decide (demand.sourceSchemaVersion = strategyEventSchemaVersion))
          .strategySchemaUnsupported ++ coordinate).eraseDups) := by
    unfold strategyContractIssues
    show (do
      let coordinate ← coordinateIssues py (some (.object demand.coordinate)) true
      Except.ok (issueIf (!decide (demand.sourceSchemaVersion = strategyEventSchemaVersion)) _ ++
        issueIf (stripChars (strOr py (some (.string demand.sourcePolicyVersion)) []) = []) _ ++
        [] ++ [] ++ coordinate ++
        blockReasonIssues (some (.array (demand.blockReasons.map .string)))).eraseDups) = _
    rw [strOr_text hpolicy.2, hpolicy.1, hreasons]
    have hblocked : blockReasonIssues (some (.array (List.map JsonValue.string []))) = [] := rfl
    rw [hblocked, decide_eq_false hpolicy.2]
    show (do
      let coordinate ← coordinateIssues py (some (.object demand.coordinate)) true
      Except.ok (issueIf _ _ ++ [] ++ [] ++ [] ++ coordinate ++ []).eraseDups) = _
    simp
  rw [hissues]
  constructor
  · intro h
    obtain ⟨coordinate, hcoordinate, h⟩ := of_bind_ok h
    obtain ⟨hschema, rfl⟩ := append_eq_nil_iff.mp (eraseDups_nil_iff.mp (Except.ok.inj h))
    refine ⟨?_, hcoordinate⟩
    unfold issueIf at hschema
    split at hschema
    · cases hschema
    · rename_i hsame
      simpa using hsame
  · rintro ⟨hschema, hcoordinate⟩
    rw [hcoordinate, hschema]
    rfl

/-! ### The whole check -/

/-- The demand of a request, once its values have been read. -/
def assembled (py : PyTools) (request : DemandRequest) (long short : Int) (coordinate : Members) :
    ExactLegQuoteDemand where
  schemaVersion := schemaV2
  demandId := demandId py (stripChars request.eventId) request.sessionDate
    (stripChars request.sourcePolicyVersion) (stripChars request.sourceProvider)
    (exactLeg "long".toList request.sessionDate long request.right)
    (exactLeg "short".toList request.sessionDate short request.right)
  eventId := stripChars request.eventId
  status := request.status
  createdAt := request.createdAt
  updatedAt := request.updatedAt
  validUntil := request.validUntil
  sessionDate := request.sessionDate
  policyVersion := quoteDemandPolicyVersion py
  sourceSchemaVersion := request.sourceSchemaVersion
  sourcePolicyVersion := stripChars request.sourcePolicyVersion
  sourceProvider := stripChars request.sourceProvider
  quoteProvider := "ibkr".toList
  coordinate := coordinate
  blockReasons := normalizeBlockReasons request.blockReasons
  automaticOrdering := false
  longLeg := exactLeg "long".toList request.sessionDate long request.right
  shortLeg := exactLeg "short".toList request.sessionDate short request.right

/-- The values of a request that can be read. -/
structure Readable (py : PyTools) (request : DemandRequest) (long short : Int)
    (coordinate : Members) : Prop where
  session : isSessionDate request.sessionDate = true
  long : validStrike request.longStrike = .ok long
  short : validStrike request.shortStrike = .ok short
  right : request.right = call ∨ request.right = put
  eventId : stripChars request.eventId ≠ []
  policy : stripChars request.sourcePolicyVersion ≠ []
  provider : stripChars request.sourceProvider ≠ []
  coordinate : normalizeCoordinate py request.coordinate = .ok coordinate

theorem validSessionDate_iff {text found : Text} :
    validSessionDate (some (.string text)) = .ok found ↔ isSessionDate text = true ∧
      found = text := by
  show (if isSessionDate text then _ else _) = _ ↔ _
  split
  · rename_i hdate
    rw [Except.ok.injEq]
    exact ⟨fun h => ⟨hdate, h.symm⟩, fun h => h.2.symm⟩
  · rename_i hdate
    constructor
    · intro h
      cases h
    · intro h
      exact absurd h.1 hdate

theorem assembleDemand_iff : assembleDemand py request = .ok demand ↔
    ∃ long short coordinate, Readable py request long short coordinate ∧
      demand = assembled py request long short coordinate := by
  constructor
  · intro h
    obtain ⟨expiry, hsession, h⟩ := of_bind_ok h
    obtain ⟨hdate, rfl⟩ := validSessionDate_iff.mp hsession
    obtain ⟨longLeg, hlong, h⟩ := of_bind_ok h
    obtain ⟨long, hlongStrike, hright, rfl⟩ := buildLeg_eq hlong
    obtain ⟨shortLeg, hshort, h⟩ := of_bind_ok h
    obtain ⟨short, hshortStrike, _, rfl⟩ := buildLeg_eq hshort
    obtain ⟨eventId, heventId, h⟩ := of_bind_ok h
    obtain ⟨hevent, rfl⟩ := requiredString_iff.mp heventId
    obtain ⟨policy, hpolicyText, h⟩ := of_bind_ok h
    obtain ⟨hpolicy, rfl⟩ := requiredString_iff.mp hpolicyText
    obtain ⟨provider, hproviderText, h⟩ := of_bind_ok h
    obtain ⟨hprovider, rfl⟩ := requiredString_iff.mp hproviderText
    obtain ⟨coordinate, hcoordinate, h⟩ := of_bind_ok h
    exact ⟨long, short, coordinate, ⟨hdate, hlongStrike, hshortStrike,
      (validRight_iff.mp hright).1, hevent, hpolicy, hprovider, hcoordinate⟩,
      (Except.ok.inj h).symm⟩
  · rintro ⟨long, short, coordinate, hread, rfl⟩
    have hlong : buildLeg "long".toList request.sessionDate request.longStrike request.right =
        .ok (exactLeg "long".toList request.sessionDate long request.right) := by
      unfold buildLeg
      rw [hread.long, validRight_iff.mpr ⟨hread.right, rfl⟩]
      rfl
    have hshort : buildLeg "short".toList request.sessionDate request.shortStrike request.right =
        .ok (exactLeg "short".toList request.sessionDate short request.right) := by
      unfold buildLeg
      rw [hread.short, validRight_iff.mpr ⟨hread.right, rfl⟩]
      rfl
    unfold assembleDemand
    rw [validSessionDate_text hread.session, bind_of_ok, hlong, bind_of_ok, hshort, bind_of_ok,
      requiredString_iff.mpr ⟨hread.eventId, rfl⟩, bind_of_ok,
      requiredString_iff.mpr ⟨hread.policy, rfl⟩, bind_of_ok,
      requiredString_iff.mpr ⟨hread.provider, rfl⟩, bind_of_ok, hread.coordinate, bind_of_ok]
    rfl

theorem legContractsIssue_none
    (hroles : demand.longLeg.role = "long".toList ∧ demand.shortLeg.role = "short".toList)
    (hexpiry : demand.longLeg.expiry = demand.sessionDate ∧
      demand.shortLeg.expiry = demand.sessionDate)
    (hlong : parseLeg demand.schemaVersion (.object demand.longLeg.toDict) = .ok demand.longLeg)
    (hshort : parseLeg demand.schemaVersion (.object demand.shortLeg.toDict) = .ok demand.shortLeg)
    (hlegs : legsIssue demand.schemaVersion demand.longLeg demand.shortLeg = none) :
    legContractsIssue demand = .ok none := by
  unfold legContractsIssue
  rw [if_neg (by simp [hroles]), if_neg (by simp [hexpiry]), hlong, bind_of_ok, if_neg (by simp),
    hshort, bind_of_ok, if_neg (by simp), hlegs]

/-- **A demand is built exactly when its request is in order.** -/
theorem build_iff :
    (∃ demand, buildExactLegQuoteDemand py request = .ok demand) ↔ Buildable py request := by
  constructor
  · rintro ⟨demand, h⟩
    obtain ⟨built, hbuilt, h⟩ := of_bind_ok h
    obtain ⟨issue, hissue, h⟩ := of_bind_ok h
    cases issue with
    | some reason => cases h
    | none =>
      obtain ⟨long, short, coordinate, hread, rfl⟩ := assembleDemand_iff.mp hbuilt
      have hchecked := demandIssue_none_iff.mp hissue
      obtain ⟨hlong, hshort, hlegs⟩ := hchecked.parsed
      obtain ⟨hkind, hpolicy, hprovider, hreasons, _⟩ := sourceIssue_none_iff.mp hchecked.source
      obtain ⟨hschema, hcoordinate⟩ :=
        (sourceContract_iff ⟨stripChars_idempotent _, hread.policy⟩ hreasons).mp hchecked.contract
      have hlong := (parseLeg_exactLeg ⟨rfl, cons_ne_nil _ _⟩ hread.session hread.right).mp hlong
      have hshort := (parseLeg_exactLeg ⟨rfl, cons_ne_nil _ _⟩ hread.session hread.right).mp hshort
      exact {
        session := hread.session
        strikes := ⟨long, short, ⟨hread.long, hlong⟩, ⟨hread.short, hshort⟩,
          (legsIssue_none_iff hread.right).mp hlegs⟩
        eventId := hread.eventId
        status := (headerIssue_none_iff.mp hchecked.header).1
        schema := hschema
        policy := hpolicy
        provider := hread.provider
        coordinate := ⟨coordinate, hread.coordinate, hcoordinate, hkind, hprovider⟩
        blockReasons := hreasons
        times := (timesIssue_none_iff.mp hchecked.times).2 }
  · intro h
    obtain ⟨long, short, hlong, hshort, horder⟩ := h.strikes
    obtain ⟨coordinate, hnormalize, hnames⟩ := h.coordinate
    have hright : request.right = call ∨ request.right = put := horder.imp And.left And.left
    have hpolicy : stripChars request.sourcePolicyVersion ≠ [] := by
      intro hnil
      obtain ⟨start, hstart, hbegins⟩ := any_eq_true.mp h.policy
      rw [hnil, isPrefixOf_iff_prefix, prefix_nil] at hbegins
      rw [hbegins] at hstart
      unfold expectedSourcePrefixes at hstart
      split at hstart
      · revert hstart
        decide
      split at hstart
      · revert hstart
        decide
      · revert hstart
        decide
    have hread : Readable py request long short coordinate :=
      ⟨h.session, hlong.1, hshort.1, hright, h.eventId, hpolicy, h.provider, hnormalize⟩
    have hchecked : Checked py (assembled py request long short coordinate) := {
      header := headerIssue_none_iff.mpr ⟨h.status, rfl, rfl, rfl⟩
      contract := (sourceContract_iff ⟨stripChars_idempotent _, hpolicy⟩ h.blockReasons).mpr
        ⟨h.schema, hnames.contract⟩
      source := sourceIssue_none_iff.mpr
        ⟨hnames.kind, h.policy, hnames.provider, h.blockReasons, rfl⟩
      times := timesIssue_none_iff.mpr ⟨h.session, h.times⟩
      legs := legContractsIssue_none ⟨rfl, rfl⟩ ⟨rfl, rfl⟩
        ((parseLeg_exactLeg ⟨rfl, cons_ne_nil _ _⟩ h.session hright).mpr hlong.2)
        ((parseLeg_exactLeg ⟨rfl, cons_ne_nil _ _⟩ h.session hright).mpr hshort.2)
        ((legsIssue_none_iff hright).mpr horder)
      id := if_pos rfl }
    refine ⟨assembled py request long short coordinate, ?_⟩
    unfold buildExactLegQuoteDemand
    rw [assembleDemand_iff.mpr ⟨long, short, coordinate, hread, rfl⟩, bind_of_ok,
      demandIssue_none_iff.mpr hchecked]
    rfl

end SpxSpark.Ibkr.QuoteDemand
