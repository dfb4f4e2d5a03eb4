import SpxSpark.Ibkr.OptionConIdCache

/-!
# ConIdCacheFile — what the loader accepts and what the writer writes

The loader takes a file only whole: every record is spelled as its label says and stands in a bucket
of the file, no label and no contract id occurs twice, and there are at most 512.
-/

namespace SpxSpark.Ibkr.ConIdCache

open Lib List

variable {py : PyText} {active allowed : Expiries} {entries : Entries}
  {record : CachedSpxwContract} {label : Text}

/-! ## Sound entries -/

/-- A record that says what its label says, in a bucket that is in use. -/
structure SoundRecord (active : Expiries) (label : Text) (record : CachedSpxwContract) : Prop where
  named : record.label = label
  spelled : label = spxwLabel record.expiry record.strike record.right
  conId : 0 < record.conId
  strike : 0 < record.strike
  right : isRight record.right = true
  expiry : record.expiry ∈ active

/-- Entries that the loader accepts as they are. -/
structure SoundEntries (active : Expiries) (entries : Entries) : Prop where
  normalized : normalizeExpiries active = some active
  records : ∀ label record, entries.lookup label = some record → SoundRecord active label record
  distinct : distinctConIds entries = true
  size : entries.size ≤ maxCacheEntries

theorem distinctConIds_iff : distinctConIds entries = true ↔
    ∀ label label' record record', entries.lookup label = some record →
      entries.lookup label' = some record' → record.conId = record'.conId → label = label' := by
  unfold distinctConIds
  rw [decide_eq_true_iff, nodup_map_iff_inj_on entries.nodupKeys.nodup]
  constructor
  · intro h label label' record record' hrecord hrecord' hid
    have hsame := h ⟨label, record⟩ (AList.mem_lookup_iff.mp hrecord) ⟨label', record'⟩
      (AList.mem_lookup_iff.mp hrecord') hid
    exact congrArg Sigma.fst hsame
  · rintro h ⟨label, record⟩ hentry ⟨label', record'⟩ hentry' hid
    have hrecord : entries.lookup label = some record := AList.mem_lookup_iff.mpr hentry
    have hrecord' : entries.lookup label' = some record' := AList.mem_lookup_iff.mpr hentry'
    obtain rfl := h label label' record record' hrecord hrecord' hid
    rw [Option.some.inj (hrecord.symm.trans hrecord')]

theorem SoundEntries.subset {entries' : Entries} (h : SoundEntries active entries)
    (hallowed : normalizeExpiries allowed = some allowed)
    (hsub : ∀ label record, entries'.lookup label = some record →
      entries.lookup label = some record ∧ record.expiry ∈ allowed) :
    SoundEntries allowed entries' where
  normalized := hallowed
  records label record hrecord := by
    obtain ⟨hold, hin⟩ := hsub label record hrecord
    exact { h.records label record hold with expiry := hin }
  distinct := by
    rw [distinctConIds_iff]
    intro label label' record record' hrecord hrecord' hid
    exact distinctConIds_iff.mp h.distinct label label' record record'
      (hsub _ _ hrecord).1 (hsub _ _ hrecord').1 hid
  size := by
    refine le_trans ?_ h.size
    rw [← Dict.card_keySet, ← Dict.card_keySet]
    refine Finset.card_le_card fun label hlabel => ?_
    obtain ⟨record, hrecord⟩ := Dict.mem_iff_lookup.mp (Dict.mem_keySet.mp hlabel)
    exact Dict.mem_keySet.mpr (Dict.mem_of_lookup (hsub _ _ hrecord).1)

theorem soundEntries_empty (hallowed : normalizeExpiries allowed = some allowed) :
    SoundEntries allowed ∅ where
  normalized := hallowed
  records label record hrecord := by
    rw [AList.lookup_empty] at hrecord
    cases hrecord
  distinct := rfl
  size := Nat.zero_le _

theorem SoundEntries.retain (h : SoundEntries active entries)
    (hallowed : normalizeExpiries allowed = some allowed) :
    SoundEntries allowed (retainExpiries entries allowed) :=
  h.subset hallowed fun label record hrecord => by
    obtain ⟨hold, hin⟩ := Dict.lookup_restrict_some.mp hrecord
    exact ⟨hold, decide_eq_true_iff.mp hin⟩

theorem SoundEntries.erase (h : SoundEntries active entries) (label : Text) :
    SoundEntries active (entries.erase label) :=
  h.subset h.normalized fun other record hrecord => by
    have hne : other ≠ label := by
      rintro rfl
      rw [AList.lookup_erase] at hrecord
      cases hrecord
    rw [AList.lookup_erase_ne hne] at hrecord
    exact ⟨hrecord, (h.records other record hrecord).expiry⟩

/-! ## Expiries -/

theorem normalizeExpiries_some {values : List Text} (h : normalizeExpiries values = some active) :
    normalizeExpiries active = some active ∧ active = values.insertionSort (· ≤ ·) := by
  unfold normalizeExpiries at h
  split at h
  · cases h
  · rename_i hvalues
    obtain rfl : values.insertionSort (· ≤ ·) = active := Option.some.inj h
    have hperm := perm_insertionSort (· ≤ ·) values
    refine ⟨?_, rfl⟩
    simp only [Bool.or_eq_true, decide_eq_true_eq, not_or, any_eq_true, Bool.not_eq_true',
      decide_eq_false_iff_not, not_not, not_exists, not_and] at hvalues
    obtain ⟨⟨⟨hne, hlength⟩, hvalid⟩, hnodup⟩ := hvalues
    unfold normalizeExpiries
    rw [if_neg, (pairwise_insertionSort (· ≤ ·) values).insertionSort_eq]
    simp only [Bool.or_eq_true, decide_eq_true_eq, not_or, any_eq_true, Bool.not_eq_true',
      decide_eq_false_iff_not, not_not, not_exists, not_and]
    refine ⟨⟨⟨?_, ?_⟩, ?_⟩, ?_⟩
    · intro hnil
      rw [hnil] at hperm
      exact hne hperm.symm.eq_nil
    · rwa [hperm.length_eq]
    · exact fun value hvalue => hvalid value (hperm.mem_iff.mp hvalue)
    · exact hperm.nodup_iff.mpr hnodup

theorem normalizeExpiries_single {expiry : Text} (h : validExpiry expiry = true) :
    normalizeExpiries [expiry] = some [expiry] := by
  unfold normalizeExpiries
  simp [h, maxActiveExpiries]

/-! ## What is read is sound -/

theorem recordFromPayload_sound {raw : JsonValue}
    (h : recordFromPayload raw active = some record) : SoundRecord active record.label record := by
  unfold recordFromPayload at h
  simp only [Option.bind_eq_bind] at h
  obtain ⟨members, -, h⟩ := Option.bind_eq_some_iff.mp h
  split at h
  · cases h
  · obtain ⟨conId, -, h⟩ := Option.bind_eq_some_iff.mp h
    obtain ⟨strike, -, h⟩ := Option.bind_eq_some_iff.mp h
    obtain ⟨right, -, h⟩ := Option.bind_eq_some_iff.mp h
    obtain ⟨label, -, h⟩ := Option.bind_eq_some_iff.mp h
    obtain ⟨expiry, -, h⟩ := Option.bind_eq_some_iff.mp h
    split at h
    · rename_i hchecks
      simp only [Bool.and_eq_true, decide_eq_true_eq] at hchecks
      obtain ⟨⟨⟨⟨⟨⟨⟨⟨⟨⟨hid, hstrike⟩, hright⟩, hexpiry⟩, hlabel⟩, -⟩, -⟩, -⟩, -⟩, -⟩, -⟩ := hchecks
      cases h
      exact ⟨rfl, hlabel, hid, hstrike, hright, hexpiry⟩
    · cases h

/-- Reading one more contract keeps the entries sound, but for their number. -/
structure ReadSoFar (active : Expiries) (entries : Entries) (count : Nat) : Prop where
  records : ∀ label record, entries.lookup label = some record → SoundRecord active label record
  distinct : distinctConIds entries = true
  size : entries.size ≤ count

theorem any_conId_iff {conId : Int} :
    (entries.entries.any fun entry => decide (entry.2.conId = conId)) = true ↔
      ∃ label record, entries.lookup label = some record ∧ record.conId = conId := by
  rw [any_eq_true]
  constructor
  · rintro ⟨⟨label, record⟩, hentry, hid⟩
    exact ⟨label, record, AList.mem_lookup_iff.mpr hentry, decide_eq_true_iff.mp hid⟩
  · rintro ⟨label, record, hrecord, hid⟩
    exact ⟨⟨label, record⟩, AList.mem_lookup_iff.mp hrecord, decide_eq_true_iff.mpr hid⟩

theorem ReadSoFar.insert {count : Nat} (h : ReadSoFar active entries count)
    (hrecord : SoundRecord active record.label record) (hlabel : record.label ∉ entries)
    (hid : ∀ label other, entries.lookup label = some other → other.conId ≠ record.conId) :
    ReadSoFar active (entries.insert record.label record) (count + 1) where
  records label other hother := by
    by_cases hl : label = record.label
    · subst hl
      rw [AList.lookup_insert] at hother
      obtain rfl := Option.some.inj hother
      exact hrecord
    · rw [AList.lookup_insert_ne hl] at hother
      exact h.records label other hother
  distinct := by
    rw [distinctConIds_iff]
    intro label label' first second hfirst hsecond hsame
    by_cases hl : label = record.label
    · by_cases hl' : label' = record.label
      · rw [hl, hl']
      · rw [hl, AList.lookup_insert] at hfirst
        rw [AList.lookup_insert_ne hl'] at hsecond
        exact absurd (hsame.symm.trans (congrArg _ (Option.some.inj hfirst).symm))
          (hid _ _ hsecond)
    · rw [AList.lookup_insert_ne hl] at hfirst
      by_cases hl' : label' = record.label
      · rw [hl', AList.lookup_insert] at hsecond
        exact absurd (hsame.trans (congrArg _ (Option.some.inj hsecond).symm)) (hid _ _ hfirst)
      · rw [AList.lookup_insert_ne hl'] at hsecond
        exact distinctConIds_iff.mp h.distinct _ _ _ _ hfirst hsecond hsame
  size := by
    unfold Dict.size
    rw [AList.entries_insert_of_notMem hlabel, length_cons]
    exact Nat.succ_le_succ h.size

theorem readContract_some {raw : JsonValue} {next : Entries} :
    readContract active entries raw = some next ↔
      ∃ record, recordFromPayload raw active = some record ∧ record.label ∉ entries ∧
        (∀ label other, entries.lookup label = some other → other.conId ≠ record.conId) ∧
        entries.insert record.label record = next := by
  unfold readContract
  rw [Option.bind_eq_bind, Option.bind_eq_some_iff]
  refine exists_congr fun record => and_congr_right fun _ => ?_
  split
  · rename_i hclash
    rw [Bool.or_eq_true, decide_eq_true_iff, any_conId_iff] at hclash
    constructor
    · nofun
    · rintro ⟨hlabel, hid, -⟩
      rcases hclash with hclash | ⟨label, other, hother, hsame⟩
      · exact absurd hclash hlabel
      · exact absurd hsame (hid label other hother)
  · rename_i hfree
    rw [Bool.or_eq_true, decide_eq_true_iff, any_conId_iff, not_or] at hfree
    obtain ⟨hlabel, hid⟩ := hfree
    rw [Option.some.injEq]
    refine ⟨fun h => ⟨hlabel, fun label other hother hsame => ?_, h⟩, fun h => h.2.2⟩
    exact hid ⟨label, other, hother, hsame⟩

theorem ReadSoFar.fold {contracts : List JsonValue} {count : Nat} {next : Entries}
    (h : ReadSoFar active entries count)
    (hread : contracts.foldlM (readContract active) entries = some next) :
    ReadSoFar active next (count + contracts.length) := by
  induction contracts generalizing entries count with
  | nil =>
    obtain rfl := Option.some.inj hread
    exact h
  | cons raw rest ih =>
    rw [foldlM_cons, Option.bind_eq_bind] at hread
    obtain ⟨middle, hraw, hrest⟩ := Option.bind_eq_some_iff.mp hread
    obtain ⟨record, hrecord, hlabel, hid, rfl⟩ := readContract_some.mp hraw
    have hnext := ih (h.insert (recordFromPayload_sound hrecord) hlabel hid) hrest
    rwa [Nat.add_right_comm, Nat.add_assoc] at hnext

/-- **What the loader accepts is sound.** -/
theorem parsePayload_sound {value : JsonValue} {state : CacheState}
    (h : parsePayload py value = some state) : SoundEntries state.activeExpiries state.entries := by
  unfold parsePayload at h
  simp only [Option.bind_eq_bind] at h
  obtain ⟨members, -, h⟩ := Option.bind_eq_some_iff.mp h
  split at h
  · cases h
  · obtain ⟨schemaVersion, -, h⟩ := Option.bind_eq_some_iff.mp h
    obtain ⟨updatedAt, -, h⟩ := Option.bind_eq_some_iff.mp h
    obtain ⟨activeRaw, -, h⟩ := Option.bind_eq_some_iff.mp h
    obtain ⟨contracts, -, h⟩ := Option.bind_eq_some_iff.mp h
    split at h
    · cases h
    · obtain ⟨values, -, h⟩ := Option.bind_eq_some_iff.mp h
      obtain ⟨activeExpiries, hactive, h⟩ := Option.bind_eq_some_iff.mp h
      split at h
      · cases h
      · rename_i hlimit
        rw [Bool.or_eq_true, decide_eq_true_iff, decide_eq_true_iff, not_or] at hlimit
        obtain ⟨entries, hentries, h⟩ := Option.bind_eq_some_iff.mp h
        obtain rfl := Option.some.inj h
        have hempty : ReadSoFar activeExpiries (∅ : Entries) 0 :=
          { records := nofun, distinct := rfl, size := le_rfl }
        have hread := hempty.fold hentries
        rw [Nat.zero_add] at hread
        exact ⟨(normalizeExpiries_some hactive).1, hread.records, hread.distinct,
          hread.size.trans (not_lt.mp hlimit.2)⟩

theorem loadState_sound {file : CacheFile} {state : CacheState}
    (h : loadState py file = some state) : SoundEntries state.activeExpiries state.entries := by
  cases file with
  | absent => cases h
  | undecodable => cases h
  | document value => exact parsePayload_sound h

/-! ## What is written is read back -/

theorem recordFromPayload_toDict (h : SoundRecord active label record) :
    recordFromPayload record.toDict active = some record := by
  have hchecks : (decide (0 < record.conId) && decide (0 < record.strike) && isRight record.right &&
      decide (record.expiry ∈ active) &&
      decide (record.label = spxwLabel record.expiry record.strike record.right)) = true := by
    rw [h.named, ← h.spelled, decide_eq_true h.conId, decide_eq_true h.strike, h.right,
      decide_eq_true h.expiry, decide_eq_true rfl]
    rfl
  show (if (decide (0 < record.conId) && decide (0 < record.strike) && isRight record.right &&
      decide (record.expiry ∈ active) &&
      decide (record.label = spxwLabel record.expiry record.strike record.right) &&
      true && true && true && true && true && true) = true then some record else none) = some record
  simp only [Bool.and_true]
  rw [if_pos hchecks]

theorem readContracts_labels (h : SoundEntries active entries) {labels : List Text}
    {read : Entries} (hnodup : labels.Nodup) (hmem : ∀ label ∈ labels, label ∈ entries)
    (hread : ∀ label record, read.lookup label = some record → entries.lookup label = some record)
    (hfresh : ∀ label ∈ labels, label ∉ read) :
    ∃ next, (labels.filterMap fun label =>
        (entries.lookup label).map CachedSpxwContract.toDict).foldlM (readContract active) read =
          some next ∧
      ∀ label, next.lookup label =
        if label ∈ labels then entries.lookup label else read.lookup label := by
  induction labels generalizing read with
  | nil => exact ⟨read, rfl, fun label => rfl⟩
  | cons first rest ih =>
    obtain ⟨hfirst, hrest⟩ := nodup_cons.mp hnodup
    obtain ⟨record, hrecord⟩ := Dict.mem_iff_lookup.mp (hmem first mem_cons_self)
    have hsound := h.records first record hrecord
    obtain rfl : record.label = first := hsound.named
    have hnew : record.label ∉ read := hfresh _ mem_cons_self
    have hstep : readContract active read record.toDict =
        some (read.insert record.label record) := by
      refine readContract_some.mpr ⟨record, recordFromPayload_toDict hsound, hnew, ?_, rfl⟩
      -- another record with this id would stand under this label
      intro label other hother hid
      have hsame := distinctConIds_iff.mp h.distinct _ _ _ _ (hread _ _ hother) hrecord hid
      exact hnew (hsame ▸ Dict.mem_of_lookup hother)
    have hread' : ∀ label other, (read.insert record.label record).lookup label = some other →
        entries.lookup label = some other := by
      intro label other hother
      by_cases hl : label = record.label
      · subst hl
        rw [AList.lookup_insert] at hother
        rw [hrecord, hother]
      · rw [AList.lookup_insert_ne hl] at hother
        exact hread label other hother
    have hfresh' : ∀ label ∈ rest, label ∉ read.insert record.label record := by
      intro label hlabel hin
      rw [AList.mem_insert] at hin
      rcases hin with rfl | hin
      · exact hfirst hlabel
      · exact hfresh label (mem_cons_of_mem _ hlabel) hin
    obtain ⟨next, hnext, hlookup⟩ :=
      ih hrest (fun label hlabel => hmem label (mem_cons_of_mem _ hlabel)) hread' hfresh'
    refine ⟨next, ?_, fun label => ?_⟩
    · rw [filterMap_cons, hrecord, Option.map_some, foldlM_cons, hstep]
      exact hnext
    · rw [hlookup label]
      by_cases hl : label = record.label
      · subst hl
        rw [if_neg hfirst, AList.lookup_insert, if_pos mem_cons_self, hrecord]
      · rw [AList.lookup_insert_ne hl]
        simp [hl]

theorem mapM_text (values : List Text) :
    (values.map JsonValue.string).mapM JsonValue.text? = some values := by
  induction values with
  | nil => rfl
  | cons value rest ih =>
    rw [map_cons, mapM_cons, ih]
    rfl

/-- **What is written is accepted, with the same entries.** -/
theorem parsePayload_payload (h : SoundEntries active entries) {updatedAt : Text}
    (hstamped : py.validTimestamp updatedAt = true) :
    ∃ read, parsePayload py (payload active entries updatedAt) = some ⟨active, read⟩ ∧
      ∀ label, read.lookup label = entries.lookup label := by
  have hperm := perm_insertionSort (· ≤ ·) entries.keys
  obtain ⟨read, hread, hlookup⟩ := readContracts_labels h
    (hperm.nodup_iff.mpr entries.keys_nodup) (fun label hlabel => hperm.mem_iff.mp hlabel)
    (fun _ _ h => by cases h) (fun _ _ => Dict.not_mem_empty)
  refine ⟨read, ?_, fun label => ?_⟩
  · have hlength : ¬maxCacheEntries < ((sortedLabels entries).filterMap fun label =>
        (entries.lookup label).map CachedSpxwContract.toDict).length := by
      refine not_lt.mpr (length_filterMap_le _ _ |>.trans ?_)
      rw [sortedLabels, length_insertionSort]
      refine le_trans (le_of_eq ?_) h.size
      exact length_map _
    show (if (!py.validTimestamp updatedAt) = true then none else
      ((active.map JsonValue.string).mapM JsonValue.text?).bind fun values =>
        (normalizeExpiries values).bind fun activeExpiries =>
          if (decide (values ≠ activeExpiries) || decide (maxCacheEntries <
              ((sortedLabels entries).filterMap fun label =>
                (entries.lookup label).map CachedSpxwContract.toDict).length)) = true then none
          else (((sortedLabels entries).filterMap fun label =>
            (entries.lookup label).map CachedSpxwContract.toDict).foldlM
              (readContract activeExpiries) ∅).bind fun read =>
              some (⟨activeExpiries, read⟩ : CacheState)) = _
    rw [hstamped, if_neg (by simp), mapM_text, Option.bind_some, h.normalized, Option.bind_some,
      if_neg (by simp [hlength]), sortedLabels, hread]
    rfl
  · rw [hlookup label]
    split
    · rfl
    · rename_i hlabel
      have hnot : label ∉ entries := fun hin => hlabel (hperm.mem_iff.mpr hin)
      rw [AList.lookup_empty, AList.lookup_eq_none.mpr hnot]

end SpxSpark.Ibkr.ConIdCache
