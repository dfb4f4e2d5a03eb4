import SpxSpark.Ibkr.QuoteDemandRoundTrip
import SpxSpark.Ibkr.QuoteDemandSelect

/-!
# QuoteDemandSelected — what is selected reaches the owner of the stream

Whichever of the states a demand is taken from, it has been built at the time of the selection.
-/

namespace SpxSpark.Ibkr.QuoteDemand

open Lib Strategy

variable {py : PyTools} {demand : ExactLegQuoteDemand} {reason : Text} {now stop : Instant}
  {source : Members} {eventId status sessionDate : Text} {input : SelectionInput}

/-- A demand that was built at a time. -/
def BuiltAt (py : PyTools) (now : Instant) (demand : ExactLegQuoteDemand) : Prop :=
  ∃ request, request.updatedAt = now ∧ buildExactLegQuoteDemand py request = .ok demand

theorem exceptInvalid_some {built : Except PyError ExactLegQuoteDemand} {selected refusal : Text} :
    exceptInvalid built selected refusal = .ok (some demand, reason) ↔
      built = .ok demand ∧ selected = reason := by
  unfold exceptInvalid
  split
  · rename_i found
    constructor
    · intro h
      cases h
      exact ⟨rfl, rfl⟩
    · rintro ⟨hfound, rfl⟩
      rw [Except.ok.inj hfound]
  · constructor
    · intro h
      cases h
    · rintro ⟨h, _⟩
      cases h
  · constructor
    · intro h
      cases h
    · rintro ⟨h, _⟩
      cases h

theorem safeBuildDemand_some {longStrike shortStrike : Option JsonValue}
    (h : safeBuildDemand py source eventId status sessionDate longStrike shortStrike now stop =
      .ok (some demand, reason)) : BuiltAt py now demand := by
  obtain ⟨request, hrequest, hbuild⟩ := of_bind_ok (exceptInvalid_some.mp h).1
  refine ⟨request, ?_, hbuild⟩
  obtain ⟨coordinate, _, h⟩ := of_bind_ok hrequest
  obtain ⟨schema, _, h⟩ := of_bind_ok h
  obtain ⟨policy, _, h⟩ := of_bind_ok h
  rw [← Except.ok.inj h]

theorem demandFromSpread_some
    (h : demandFromSpread py source status sessionDate now stop = .ok (some demand, reason)) :
    BuiltAt py now demand := by
  obtain ⟨issue, _, h⟩ := of_bind_ok h
  cases issue with
  | some issue => cases h
  | none =>
    dsimp only at h
    split at h
    · cases h
    split at h
    · cases h
    exact safeBuildDemand_some h

theorem demandFromContracts_some
    (h : demandFromContracts py source eventId sessionDate now stop = .ok (some demand, reason)) :
    BuiltAt py now demand := by
  obtain ⟨issue, _, h⟩ := of_bind_ok h
  cases issue with
  | some issue => cases h
  | none => exact safeBuildDemand_some h

theorem virtualDemand_some
    (h : virtualDemand py source sessionDate now = .ok (some demand, reason)) :
    BuiltAt py now demand := by
  obtain ⟨stop, _, h⟩ := of_bind_ok h
  cases stop with
  | none => cases h
  | some stop =>
    dsimp only at h
    split at h
    · cases h
    · exact demandFromContracts_some h

theorem cardDemand_some {card : CardSource}
    (h : cardDemand py card sessionDate now = .ok (some demand, reason)) :
    BuiltAt py now demand := by
  unfold cardDemand at h
  split at h
  · cases h
  split at h
  · cases h
  split at h
  · cases h
  split at h
  · cases h
  split at h
  · cases h
  split at h
  · cases h
  exact ⟨_, rfl, (exceptInvalid_some.mp h).1⟩

theorem manualCandidateDemand_some {state : Option JsonValue} {orderAtRisk : Bool}
    (h : manualCandidateDemand py state sessionDate now =
      .ok ((some demand, reason), orderAtRisk)) : BuiltAt py now demand := by
  unfold manualCandidateDemand at h
  split at h
  · cases h
  obtain ⟨card, _, h⟩ := of_bind_ok h
  cases card with
  | none => cases h
  | some card =>
    obtain ⟨selected, hselected, h⟩ := of_bind_ok h
    obtain ⟨rfl, _⟩ := Prod.mk.inj (Except.ok.inj h)
    exact cardDemand_some hselected

theorem pendingDemand_some (h : pendingDemand py input = .ok (some demand, reason)) :
    BuiltAt py input.at_ demand := by
  unfold pendingDemand at h
  split at h
  · cases h
  split at h
  · obtain ⟨exitAt, _, h⟩ := of_bind_ok h
    cases exitAt with
    | none => cases h
    | some exitAt => exact demandFromSpread_some h
  · cases h

theorem gthDemand_some (h : gthDemand py input = .ok (some demand, reason)) :
    BuiltAt py input.at_ demand := by
  unfold gthDemand at h
  split at h
  · cases h
  split at h
  · cases h
  split at h
  · exact pendingDemand_some h
  obtain ⟨signalStop, _, h⟩ := of_bind_ok h
  split at h
  · exact demandFromSpread_some h
  · exact pendingDemand_some h

theorem select_some (h : selectGthQuoteDemand py input = .ok (some demand, reason)) :
    BuiltAt py input.at_ demand := by
  unfold selectGthQuoteDemand at h
  split at h
  · cases h
  split at h
  · exact virtualDemand_some h
  obtain ⟨⟨manual, orderAtRisk⟩, hmanual, h⟩ := of_bind_ok h
  unfold chosenDemand at h
  split at h
  · obtain rfl : manual = (some demand, reason) := Except.ok.inj h
    exact manualCandidateDemand_some hmanual
  · unfold ordinaryDemand at h
    split at h
    · cases h
    split at h
    · obtain rfl : manual = (some demand, reason) := Except.ok.inj h
      exact manualCandidateDemand_some hmanual
    split at h
    · cases h
    · exact gthDemand_some h

/-- **The writer and the owner of the stream agree on the wire.** A selected demand is decoded from
its document as it was, at every time from the selection to its end. Whatever is accepted is
encoded to a document that decodes to the same demand. A document of the first schema says the same
with its right and without. And a document is decoded or refused, whatever is in it. -/
theorem quote_demand_wire_contract (py : PyTools) :
    (∀ input demand reason, selectGthQuoteDemand py input = .ok (some demand, reason) →
      ∀ now, input.at_ ≤ now → now < demand.validUntil →
        parseExactLegQuoteDemand py (demand.toDict py) now = .ok (some demand, none)) ∧
    (∀ payload now demand reason,
      parseExactLegQuoteDemand py payload now = .ok (some demand, reason) →
      parseExactLegQuoteDemand py (demand.toDict py) now = .ok (some demand, none)) ∧
    (∀ payload now long short, supportedSchema payload = some schemaV1 →
      rawLegs payload = some (long, short) →
        parseExactLegQuoteDemand py
          (withLegs (implicitRight long, implicitRight short) payload) now =
          parseExactLegQuoteDemand py payload now) ∧
    ∀ payload now, ∃ parsed, parseExactLegQuoteDemand py payload now = .ok parsed ∧
      parsed.1.isSome = !parsed.2.isSome := by
  refine ⟨fun input demand reason hselect now hfrom hstop => ?_,
    fun payload now demand reason => ?_,
    fun payload now long short hv1 hlegs => ?_, parse_returns⟩
  · obtain ⟨request, hat, hbuild⟩ := select_some hselect
    exact parse_built hbuild (hat ▸ hfrom) hstop
  · exact parse_again
  · exact parse_implicitRight hlegs hv1 now

end SpxSpark.Ibkr.QuoteDemand
