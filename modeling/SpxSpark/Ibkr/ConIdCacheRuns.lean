import SpxSpark.Ibkr.ConIdCacheFile
import SpxSpark.Lib.Run

/-!
# ConIdCacheRuns — no id comes back that was rejected

Records travel between the memory and the file in both directions, so what is known of them has to
hold of both copies: `Kept P` says that both are sound and that `P` holds of every record of either.
-/

namespace SpxSpark.Ibkr.ConIdCache

open Lib List

variable {py : PyText} {P : CachedSpxwContract → Prop} {cache : SpxwConIdCache}
  {active : Expiries} {entries : Entries} {record : CachedSpxwContract} {label expiry : Text}

/-! ## What holds of both copies -/

/-- The loader accepts the document, with the entries that were meant. -/
def ReadBack (py : PyText) (document : JsonValue) (state : CacheState) : Prop :=
  ∃ read, parsePayload py document = some ⟨state.activeExpiries, read⟩ ∧
    ∀ label, read.lookup label = state.entries.lookup label

/-- Every record of the entries. -/
def Each (P : CachedSpxwContract → Prop) (entries : Entries) : Prop :=
  ∀ label record, entries.lookup label = some record → P record

/-- Memory and file are sound and hold `P`, and what was written reads back. -/
structure Kept (py : PyText) (P : CachedSpxwContract → Prop) (cache : SpxwConIdCache) : Prop where
  held : cache.activeExpiries = [] ∧ cache.entries = ∅ ∨
    SoundEntries cache.activeExpiries cache.entries
  memory : Each P cache.entries
  file : ∀ state, loadState py cache.file = some state → Each P state.entries
  written : ∀ document state, (document, state) ∈ cache.written → ReadBack py document state

theorem Kept.sound (h : Kept py P cache) (hin : cache.activeExpiries ≠ []) :
    SoundEntries cache.activeExpiries cache.entries :=
  h.held.resolve_left fun hidle => hin hidle.1

theorem each_empty : Each P ∅ := fun label record h => by cases h

theorem Each.retain (h : Each P entries) (allowed : Expiries) :
    Each P (retainExpiries entries allowed) :=
  fun label record hrecord => h label record (Dict.lookup_restrict_some.mp hrecord).1

theorem Each.erase (h : Each P entries) (label : Text) : Each P (entries.erase label) := by
  intro other record hrecord
  by_cases hl : other = label
  · subst hl
    rw [AList.lookup_erase] at hrecord
    cases hrecord
  · rw [AList.lookup_erase_ne hl] at hrecord
    exact h other record hrecord

theorem Each.update {additions : Entries} (h : Each P entries) (hadd : Each P additions) :
    Each P (entries.update additions) := by
  intro label record hrecord
  rw [Dict.lookup_update] at hrecord
  cases hnew : additions.lookup label with
  | some added =>
    rw [hnew, Option.some_or] at hrecord
    exact Option.some.inj hrecord ▸ hadd label added hnew
  | none =>
    rw [hnew, Option.none_or] at hrecord
    exact h label record hrecord

section

variable (h : Kept py P cache)

include h

theorem Kept.hold (hsound : SoundEntries active entries)
    (heach : Each P entries) :
    Kept py P { cache with activeExpiries := active, entries := entries } :=
  ⟨.inr hsound, heach, h.file, h.written⟩

theorem Kept.replaceFile (hsound : SoundEntries active entries)
    (heach : Each P entries) (write : Write py) :
    Kept py P (cache.replaceFile py write active entries) := by
  obtain ⟨read, hread, hlookup⟩ := parsePayload_payload hsound write.stamped
  unfold SpxwConIdCache.replaceFile
  split
  · refine ⟨h.held, h.memory, ?_, ?_⟩
    · intro state hstate label record hrecord
      obtain rfl := Option.some.inj (hread.symm.trans hstate)
      exact heach label record ((hlookup label).symm.trans hrecord)
    · intro document state hmem
      rcases mem_append.mp hmem with hmem | hmem
      · exact h.written document state hmem
      · cases mem_singleton.mp hmem
        exact ⟨read, hread, hlookup⟩
  · exact h

omit h in
theorem loadState_replaceFile (hsound : SoundEntries active entries) {write : Write py}
    (hreplaces : write.attempt.replaces = true) : ∃ read,
    loadState py (cache.replaceFile py write active entries).file = some ⟨active, read⟩ ∧
      ∀ label, read.lookup label = entries.lookup label := by
  obtain ⟨read, hread, hlookup⟩ := parsePayload_payload hsound write.stamped
  unfold SpxwConIdCache.replaceFile
  rw [if_pos hreplaces]
  exact ⟨read, hread, hlookup⟩

omit h in
@[simp] theorem replaceFile_entries (write : Write py) :
    (cache.replaceFile py write active entries).entries = cache.entries := by
  unfold SpxwConIdCache.replaceFile
  split <;> rfl

omit h in
@[simp] theorem replaceFile_activeExpiries (write : Write py) :
    (cache.replaceFile py write active entries).activeExpiries = cache.activeExpiries := by
  unfold SpxwConIdCache.replaceFile
  split <;> rfl

/-! ## Preparing -/

theorem Kept.retained {allowed : Expiries}
    (hallowed : normalizeExpiries allowed = some allowed) :
    SoundEntries allowed (((loadState py cache.file).map fun state =>
        retainExpiries state.entries allowed).getD ∅) ∧
      Each P (((loadState py cache.file).map fun state =>
        retainExpiries state.entries allowed).getD ∅) := by
  cases hstate : loadState py cache.file with
  | none => exact ⟨soundEntries_empty hallowed, each_empty⟩
  | some state =>
    exact ⟨(loadState_sound hstate).retain hallowed, (h.file state hstate).retain allowed⟩

theorem Kept.prepare (expiries : List Text) (write : Write py) :
    Kept py P (prepare py cache expiries write).2 := by
  unfold ConIdCache.prepare
  split
  · exact h
  · rename_i allowed hallowed
    have hnormal := (normalizeExpiries_some hallowed).1
    obtain ⟨hsound, heach⟩ := h.retained hnormal
    dsimp only
    split
    · exact h
    · have hloaded := h.hold hsound heach
      split
      · have hreplaced := hloaded.replaceFile hsound heach write
        unfold replaceState
        dsimp only
        split
        · exact ⟨.inr (by simpa using hsound), heach, hreplaced.file, hreplaced.written⟩
        · exact ⟨.inr (by simpa using hsound), heach, hreplaced.file, hreplaced.written⟩
      · exact hloaded

omit h in
theorem prepare_single (h : validExpiry expiry = true) (hidle : cache.activeExpiries = [])
    (write : Write py) : (prepare py cache [expiry] write).2.activeExpiries = [expiry] := by
  unfold ConIdCache.prepare
  rw [normalizeExpiries_single h]
  dsimp only
  rw [if_neg (by rw [hidle]; nofun)]
  split
  · unfold replaceState
    simp
  · rfl

theorem Kept.prepareFor (expiry : Text) (write : Write py) :
    Kept py P (prepareFor py cache expiry write) := by
  unfold ConIdCache.prepareFor
  split
  · exact h.prepare [expiry] write
  · exact h

/-! ## The locked sections -/

theorem Kept.durable (hin : cache.activeExpiries ≠ []) :
    SoundEntries cache.activeExpiries (durableEntries py cache) ∧
      Each P (durableEntries py cache) := by
  have hheld := h.sound hin
  obtain ⟨hsound, heach⟩ := h.retained hheld.normalized
  unfold durableEntries
  cases hstate : loadState py cache.file with
  | none => exact ⟨hheld, h.memory⟩
  | some state =>
    rw [hstate] at hsound heach
    exact ⟨hsound, heach⟩

omit h in
theorem parseLabel_spelled {strike : Int} {right : Text}
    (h : parseLabel py label = .ok (some (expiry, strike, right))) :
    label = spxwLabel expiry strike right ∧ 0 < strike ∧ isRight right = true := by
  unfold parseLabel at h
  split at h
  · rename_i option spxw expiry' strikeText right' hparts
    split at h
    · cases h
    · rename_i hnames
      split at h
      · cases h
      · rename_i hshape
        split at h
        · cases h
        · rename_i number hnumber
          split at h
          · rename_i hnumeral
            cases h
            simp only [Bool.or_eq_true, decide_eq_true_eq, not_or, not_not, Bool.not_eq_true',
              Bool.not_eq_false, Bool.and_eq_true] at hnames hshape hnumeral
            refine ⟨?_, hnumeral.1, hshape.2⟩
            rw [spxwLabel, hnumeral.2, ← hnames.1, ← hnames.2, ← hparts, intercalate_splitOn]
          · cases h
  · cases h

omit h in
theorem recordFromContract_sound {kind : Text} {contract : IbkrContract}
    (h : recordFromContract py label kind contract expiry = .ok (some record))
    (hin : expiry ∈ active) : SoundRecord active label record := by
  unfold recordFromContract at h
  cases hparsed : parseLabel py label with
  | error raised => rw [hparsed] at h; cases h
  | ok parsed =>
    rw [hparsed] at h
    simp only [bind, Except.bind] at h
    split at h
    · rename_i expiry' strike right contractStrike conId hstrike hconId
      split at h
      · rename_i hchecks
        cases h
        simp only [Bool.and_eq_true, decide_eq_true_eq, Prod.mk.injEq] at hchecks
        obtain ⟨⟨⟨-, hexpiry, hsame, -⟩, hid⟩, -⟩ := hchecks
        obtain ⟨hlabel, hpositive, hright⟩ := parseLabel_spelled hparsed
        subst hexpiry hsame
        exact ⟨rfl, hlabel, hid, hpositive, hright, hin⟩
      · cases h
    · cases h

omit h in
theorem additionsOf_sound {definitions : List (Text × Text × IbkrContract)} {additions : Entries}
    (h : additionsOf py definitions expiry = .ok additions) (hin : expiry ∈ active) :
    ∀ label record, additions.lookup label = some record → SoundRecord active label record := by
  unfold additionsOf at h
  have hstart : ∀ label record, (∅ : Entries).lookup label = some record →
      SoundRecord active label record := fun _ _ h => by cases h
  generalize (∅ : Entries) = start at h hstart
  induction definitions generalizing start with
  | nil =>
    cases h
    exact hstart
  | cons definition rest ih =>
    rw [foldlM_cons] at h
    cases hrecord : recordFromContract py definition.1 definition.2.1 definition.2.2 expiry with
    | error raised => rw [hrecord] at h; cases h
    | ok made =>
      rw [hrecord] at h
      cases made with
      | none => exact ih start h hstart
      | some record =>
        refine ih _ h ?_
        intro label other hother
        by_cases hl : label = definition.1
        · subst hl
          rw [AList.lookup_insert] at hother
          obtain rfl := Option.some.inj hother
          exact recordFromContract_sound hrecord hin
        · rw [AList.lookup_insert_ne hl] at hother
          exact hstart label other hother

theorem Kept.mergeAdditions (hin : cache.activeExpiries ≠ [])
    {additions : Entries} (write : Write py)
    (hsound : ∀ label record, additions.lookup label = some record →
      SoundRecord cache.activeExpiries label record)
    (hadd : (mergeAdditions py cache additions write).1.2 = true → Each P additions) :
    Kept py P (mergeAdditions py cache additions write).2 := by
  obtain ⟨hdurable, heach⟩ := h.durable hin
  unfold ConIdCache.mergeAdditions at hadd ⊢
  dsimp only at hadd ⊢
  split
  · exact h
  · rename_i hlock
    rw [if_neg hlock] at hadd
    split
    · exact h.hold hdurable heach
    · rename_i hchanged
      rw [if_neg hchanged] at hadd
      split
      · exact h
      · rename_i hfits
        rw [if_neg hfits] at hadd
        have hmerged : SoundEntries cache.activeExpiries
            ((durableEntries py cache).update additions) := by
          simp only [Bool.or_eq_true, decide_eq_true_eq, not_or, Bool.not_eq_true',
            Bool.not_eq_false] at hfits
          refine ⟨hdurable.normalized, ?_, hfits.2, not_lt.mp hfits.1⟩
          intro label record hrecord
          rw [Dict.lookup_update] at hrecord
          cases hnew : additions.lookup label with
          | some added =>
            rw [hnew, Option.some_or] at hrecord
            exact Option.some.inj hrecord ▸ hsound label added hnew
          | none =>
            rw [hnew, Option.none_or] at hrecord
            exact hdurable.records label record hrecord
        by_cases hreplaces : write.attempt.replaces = true
        · have hmergedEach : Each P ((durableEntries py cache).update additions) := by
            refine heach.update (hadd ?_)
            split
            · rfl
            · exact hreplaces
          have hreplaced := h.replaceFile hmerged hmergedEach write
          split
          · exact ⟨.inr (by simpa using hmerged), hmergedEach, hreplaced.file, hreplaced.written⟩
          · exact hreplaced
        · have hsame : cache.replaceFile py write cache.activeExpiries
              ((durableEntries py cache).update additions) = cache := by
            unfold SpxwConIdCache.replaceFile
            rw [if_neg hreplaces]
          have hfailed : write.attempt ≠ .succeeds := by
            intro hok
            rw [hok] at hreplaces
            exact hreplaces rfl
          rw [if_neg hfailed, hsame]
          exact h

theorem Kept.dropLabel (hin : cache.activeExpiries ≠ []) (label : Text)
    (write : Write py) : Kept py P (dropLabel py cache label write).2 := by
  obtain ⟨hdurable, heach⟩ := h.durable hin
  have hremaining := hdurable.erase label
  unfold ConIdCache.dropLabel
  dsimp only
  split
  · exact h
  · split
    · have hreplaced := h.replaceFile hremaining (heach.erase label) write
      split
      · exact ⟨.inr (by simpa using hremaining), heach.erase label, hreplaced.file,
          hreplaced.written⟩
      · exact hreplaced
    · exact h.hold hremaining (heach.erase label)

/-! ## The calls -/

theorem Kept.imp {Q : CachedSpxwContract → Prop}
    (hPQ : ∀ record, P record → Q record) : Kept py Q cache :=
  ⟨h.held, fun label record hrecord => hPQ record (h.memory label record hrecord),
    fun state hstate label record hrecord => hPQ record (h.file state hstate label record hrecord),
    h.written⟩

theorem Kept.both {Q : CachedSpxwContract → Prop} (h' : Kept py Q cache) :
    Kept py (fun record => P record ∧ Q record) cache :=
  ⟨h.held,
    fun label record hrecord => ⟨h.memory label record hrecord, h'.memory label record hrecord⟩,
    fun state hstate label record hrecord =>
      ⟨h.file state hstate label record hrecord, h'.file state hstate label record hrecord⟩,
    h.written⟩

theorem Kept.remember (definitions : List (Text × Text × IbkrContract))
    (expiry : Text) (prepareWrite write : Write py)
    (hadd : ∀ changed additions,
      (remember py cache definitions expiry prepareWrite write).1 = .ok (changed, true) →
      additionsOf py definitions expiry = .ok additions → Each P additions) :
    Kept py P (remember py cache definitions expiry prepareWrite write).2 := by
  unfold ConIdCache.remember at hadd ⊢
  split
  · exact h
  · rename_i hvalid
    rw [if_neg hvalid] at hadd
    cases hadditions : additionsOf py definitions expiry with
    | error raised => exact h
    | ok additions =>
      simp only [hadditions] at hadd ⊢
      split
      · exact h
      · rename_i hsome
        rw [if_neg hsome] at hadd
        have hprepared := h.prepareFor expiry prepareWrite
        split
        · exact hprepared
        · rename_i hin
          rw [if_neg hin] at hadd
          have hin' := not_not.mp hin
          exact hprepared.mergeAdditions (ne_nil_of_mem hin') write
            (additionsOf_sound hadditions hin')
            fun hkept => hadd _ additions (congrArg Except.ok (Prod.ext rfl hkept)) rfl

theorem Kept.pop (hin : cache.activeExpiries ≠ []) (label : Text) :
    Kept py P { cache with entries := cache.entries.erase label } := by
  have hheld := h.sound hin
  exact h.hold (hheld.erase label) (h.memory.erase label)

theorem Kept.evict (label expiry : Text) (prepareWrite write : Write py) :
    Kept py P (evict py cache label expiry prepareWrite write).2 := by
  unfold ConIdCache.evict
  split
  · exact h
  · have hprepared := h.prepareFor expiry prepareWrite
    dsimp only
    split
    · exact hprepared
    · rename_i hin
      have hin' := ne_nil_of_mem (not_not.mp hin)
      exact (hprepared.pop hin' label).dropLabel hin' label write

end

theorem SoundEntries.each_ne (h : SoundEntries active entries) (hnot : label ∉ entries) :
    Each (fun record => record.label ≠ label) entries := by
  intro other record hrecord hlabel
  rw [(h.records other record hrecord).named] at hlabel
  exact hnot (hlabel ▸ Dict.mem_of_lookup hrecord)

theorem not_mem_erase (label : Text) (entries : Entries) : label ∉ entries.erase label := by
  rw [← AList.lookup_eq_none, AList.lookup_erase]

theorem dropLabel_gone (h : Kept py (fun _ => True) cache) (hin : cache.activeExpiries ≠ [])
    (hpopped : label ∉ cache.entries) {write : Write py}
    (hreplaces : write.attempt.replaces = true) :
    Kept py (fun record => record.label ≠ label) (dropLabel py cache label write).2 := by
  have hkept := h.dropLabel hin label write
  obtain ⟨hdurable, -⟩ := h.durable hin
  have hremaining := hdurable.erase label
  have hlock : write.attempt ≠ .lockTimeout := by
    intro hlock
    rw [hlock] at hreplaces
    cases hreplaces
  have hheld := h.sound hin
  have hleft := hremaining.each_ne (not_mem_erase label _)
  refine ⟨hkept.held, ?_, ?_, hkept.written⟩
  · unfold ConIdCache.dropLabel
    dsimp only
    rw [if_neg hlock]
    split
    · split
      · exact hleft
      · rw [replaceFile_entries]
        exact hheld.each_ne hpopped
    · exact hleft
  · intro state hstate
    unfold ConIdCache.dropLabel at hstate
    dsimp only at hstate
    rw [if_neg hlock] at hstate
    obtain ⟨read, hread, hlookup⟩ :=
      @loadState_replaceFile _ cache _ _ hremaining _ hreplaces
    have hgone : Each (fun record => record.label ≠ label) read := by
      intro other record hrecord
      exact hleft other record ((hlookup other).symm.trans hrecord)
    split at hstate
    · split at hstate
      · obtain rfl := Option.some.inj (hread.symm.trans hstate)
        exact hgone
      · obtain rfl := Option.some.inj (hread.symm.trans hstate)
        exact hgone
    · -- without a file there is nothing to load
      rename_i habsent
      rw [Bool.or_eq_true, not_or] at habsent
      have hfile : cache.file = .absent := by
        cases hfile : cache.file with
        | absent => rfl
        | undecodable => rw [hfile] at habsent; exact absurd rfl habsent.2
        | document value => rw [hfile] at habsent; exact absurd rfl habsent.2
      have hnone : loadState py cache.file = some state := hstate
      rw [hfile] at hnone
      cases hnone

/-! ## Evictions that leave nothing behind -/

/-- The label is in memory or in the file. -/
def holdsLabel (py : PyText) (cache : SpxwConIdCache) (label : Text) : Bool :=
  decide (label ∈ cache.entries) ||
    (loadState py cache.file).any fun state => decide (label ∈ state.entries)

/-- An eviction of a label that is held is for a bucket in use, and replaces the file. -/
def EffectiveEviction (py : PyText) (cache : SpxwConIdCache) : CacheCall py → Prop
  | .evict label expiry _ write => holdsLabel py cache label = true →
      validExpiry expiry = true ∧ (cache.activeExpiries = [] ∨ expiry ∈ cache.activeExpiries) ∧
        write.attempt.replaces = true
  | .prepare .. | .remember .. | .restart => True

instance (py : PyText) (cache : SpxwConIdCache) (call : CacheCall py) :
    Decidable (EffectiveEviction py cache call) :=
  match call with
  | .evict _ _ _ _ => inferInstanceAs (Decidable (_ → _))
  | .prepare .. | .remember .. | .restart => inferInstanceAs (Decidable True)

theorem prepareFor_in (hvalid : validExpiry expiry = true)
    (hactive : cache.activeExpiries = [] ∨ expiry ∈ cache.activeExpiries) (write : Write py) :
    expiry ∈ (prepareFor py cache expiry write).activeExpiries := by
  unfold prepareFor
  split
  · rename_i hidle
    rw [prepare_single hvalid hidle write]
    simp
  · rename_i hbusy
    exact hactive.resolve_left hbusy

theorem evict_gone (h : Kept py (fun _ => True) cache) {prepareWrite write : Write py}
    (heffective : EffectiveEviction py cache (.evict label expiry prepareWrite write)) :
    Kept py (fun record => record.label ≠ label)
      (evict py cache label expiry prepareWrite write).2 := by
  by_cases hheld : holdsLabel py cache label = true
  · obtain ⟨hvalid, hactive, hreplaces⟩ := heffective hheld
    have hin := prepareFor_in hvalid hactive prepareWrite
    have hne := ne_nil_of_mem hin
    have hprepared := h.prepareFor expiry prepareWrite
    unfold ConIdCache.evict
    rw [hvalid]
    simp only [Bool.not_true, Bool.false_eq_true, if_false]
    rw [if_neg (not_not.mpr hin)]
    exact dropLabel_gone (hprepared.pop hne label) hne (not_mem_erase label _) hreplaces
  · unfold holdsLabel at hheld
    rw [Bool.or_eq_true, decide_eq_true_iff, Option.any_eq_true, not_or] at hheld
    have hfree : Kept py (fun record => record.label ≠ label) cache := by
      refine ⟨h.held, ?_, ?_, h.written⟩
      · rcases h.held with ⟨-, hnone⟩ | hsound
        · rw [hnone]
          exact each_empty
        · exact hsound.each_ne hheld.1
      · intro state hstate
        refine (loadState_sound hstate).each_ne fun hin => hheld.2 ⟨state, hstate, ?_⟩
        exact decide_eq_true hin
    exact hfree.evict label expiry prepareWrite write

/-! ## Where an id comes from -/

abbrev CacheLog (py : PyText) := List (CacheCall py × CacheAnswer)

/-- The call put the record into the file, or found it there. -/
def stores (record : CachedSpxwContract) (event : CacheCall py × CacheAnswer) : Bool :=
  match event with
  | (.remember definitions expiry _ _, .remembered _ true) =>
    match additionsOf py definitions expiry with
    | .ok additions => additions.lookup record.label = some record
    | .error _ => false
  | _ => false

/-- Whether the label was evicted in this process since the record was last stored. -/
def revokedNext (record : CachedSpxwContract) (revoked : Bool)
    (event : CacheCall py × CacheAnswer) : Bool :=
  match event.1 with
  | .evict label _ _ _ => revoked || label = record.label
  | .restart => false
  | .prepare .. | .remember .. => revoked && !stores record event

def revoked (record : CachedSpxwContract) (log : CacheLog py) : Bool :=
  log.foldl (revokedNext record) false

/-- The record was stored, and the label was not evicted since. -/
def Standing (log : CacheLog py) (record : CachedSpxwContract) : Prop :=
  (∃ event ∈ log, stores record event = true) ∧ revoked record log = false

/-- Every id that is answered is the one of a record that stands, for the very contract. -/
def OnlyRemembered (log : CacheLog py) (cache : SpxwConIdCache) : Prop :=
  ∀ label contract expiry conId, cachedConId py cache label contract expiry = some conId →
    ∃ record, record.label = label ∧ record.conId = conId ∧ record.expiry = expiry ∧
      contractMatchesRecord py contract record = true ∧ Standing log record

theorem revoked_snoc (log : CacheLog py) (event : CacheCall py × CacheAnswer) :
    revoked record (log ++ [event]) = revokedNext record (revoked record log) event := by
  rw [revoked, foldl_append]
  rfl

theorem Standing.snoc {log : CacheLog py} (h : Standing log record)
    {event : CacheCall py × CacheAnswer} (hnext : revokedNext record false event = false) :
    Standing (log ++ [event]) record := by
  obtain ⟨⟨stored, hmem, hstores⟩, hrevoked⟩ := h
  refine ⟨⟨stored, mem_append_left _ hmem, hstores⟩, ?_⟩
  rw [revoked_snoc, hrevoked, hnext]

theorem Kept.restart (h : Kept py P cache) :
    Kept py P { cache with activeExpiries := [], entries := ∅ } :=
  ⟨.inl ⟨rfl, rfl⟩, each_empty, h.file, h.written⟩

/-- **One call, and the histories of all records that it leaves.** -/
theorem Kept.step {log : CacheLog py} (h : Kept py (Standing log) cache) (call : CacheCall py)
    (heffective : EffectiveEviction py cache call) :
    Kept py (Standing (log ++ [(call, (cacheStep py cache call).1)]))
      (cacheStep py cache call).2 := by
  cases call with
  | prepare expiries write =>
    exact (h.prepare expiries write).imp fun record hstanding => hstanding.snoc rfl
  | remember definitions expiry prepareWrite write =>
    have hstanding := h.imp (Q := Standing (log ++ [(CacheCall.remember definitions expiry
      prepareWrite write, (cacheStep py cache
        (.remember definitions expiry prepareWrite write)).1)]))
      fun record hstanding => hstanding.snoc rfl
    refine hstanding.remember definitions expiry prepareWrite write ?_
    -- what the call keeps is stored by it
    intro changed additions hanswer hadditions label record hrecord
    obtain rfl : record.label = label :=
      (additionsOf_sound hadditions (mem_singleton_self expiry) label record hrecord).named
    have hstores : stores record ((CacheCall.remember definitions expiry prepareWrite write,
        rememberAnswer (ConIdCache.remember py cache definitions expiry prepareWrite write).1) :
          CacheCall py × CacheAnswer) = true := by
      rw [hanswer]
      show (match additionsOf py definitions expiry with
        | .ok additions => decide (additions.lookup record.label = some record)
        | .error _ => false) = true
      rw [hadditions]
      exact decide_eq_true hrecord
    refine ⟨⟨_, mem_append_right _ (mem_singleton_self _), hstores⟩, ?_⟩
    rw [revoked_snoc]
    exact (congrArg (fun stored => revoked record log && !stored) hstores).trans
      (Bool.and_false _)
  | evict label expiry prepareWrite write =>
    have hgone := evict_gone (h.imp fun _ _ => trivial) heffective
    refine ((h.evict label expiry prepareWrite write).both hgone).imp ?_
    rintro record ⟨hstanding, hne⟩
    refine hstanding.snoc ?_
    show (false || decide (label = record.label)) = false
    rw [Bool.false_or, decide_eq_false_iff_not]
    exact fun hlabel => hne hlabel.symm
  | restart => exact h.restart.imp fun record hstanding => hstanding.snoc rfl

theorem Kept.call (h : Kept py (fun _ => True) cache) (call : CacheCall py) :
    Kept py (fun _ => True) (cacheStep py cache call).2 := by
  cases call with
  | prepare expiries write => exact h.prepare expiries write
  | remember definitions expiry prepareWrite write =>
    exact h.remember definitions expiry prepareWrite write fun _ _ _ _ _ _ _ => trivial
  | evict label expiry prepareWrite write => exact h.evict label expiry prepareWrite write
  | restart => exact h.restart

theorem kept_start {file : CacheFile} (hfile : loadState py file = none) : Kept py P { file } :=
  ⟨.inl ⟨rfl, rfl⟩, each_empty, fun state hstate => (by cases hfile.symm.trans hstate), nofun⟩

/-- **No rejected id comes back.** In every run: no two labels hold one id, in memory or in the
file, and whatever is written is read back whole. In every run whose evictions are effective: what
is answered was stored for that contract, and its label was not evicted since. -/
theorem conid_cache_faithful (py : PyText) {file : CacheFile} (hfile : loadState py file = none) :
    (∀ log cache, Run (cacheStep py) anyStep { file } log cache →
      distinctConIds cache.entries = true ∧
        (∀ state, loadState py cache.file = some state → distinctConIds state.entries = true) ∧
        ∀ document state, (document, state) ∈ cache.written → ReadBack py document state) ∧
    ∀ log cache, Run (cacheStep py) (EffectiveEviction py) { file } log cache →
      OnlyRemembered log cache := by
  constructor
  · intro log cache hrun
    have hkept := hrun.invariant (I := Kept py fun _ => True) (kept_start hfile)
      fun _ call h _ => h.call call
    refine ⟨?_, fun state hstate => (loadState_sound hstate).distinct, hkept.written⟩
    rcases hkept.held with ⟨-, hnone⟩ | hsound
    · rw [hnone]
      rfl
    · exact hsound.distinct
  · intro log cache hrun
    have hkept := hrun.invariant_log (I := fun log => Kept py (Standing log)) (kept_start hfile)
      fun _ _ call h heffective => h.step call heffective
    intro label contract expiry conId hanswer
    unfold cachedConId at hanswer
    split at hanswer
    · cases hanswer
    · split at hanswer
      · cases hanswer
      · rename_i record hrecord
        split at hanswer
        · cases hanswer
        · rename_i hmatch
          rw [Bool.or_eq_true, decide_eq_true_iff, not_or, not_not, Bool.not_eq_true',
            Bool.not_eq_false] at hmatch
          refine ⟨record, ?_, Option.some.inj hanswer, hmatch.1, hmatch.2,
            hkept.memory label record hrecord⟩
          rcases hkept.held with ⟨-, hnone⟩ | hsound
          · rw [hnone] at hrecord
            cases hrecord
          · exact (hsound.records label record hrecord).named

/-! ## A rejected id that comes back -/

/-- ASCII texts, and one timestamp. -/
def asciiText : PyText where
  upper := List.map Char.toUpper
  isdigit digits := digits ≠ [] && digits.all Char.isDigit
  int digits := some (Calendar.digitsValue digits)
  validTimestamp stamp := stamp = "2026-07-20T13:30:00+00:00".toList

def tryWrite (attempt : Attempt) : Write asciiText :=
  ⟨attempt, "2026-07-20T13:30:00+00:00".toList, rfl⟩

def sessionExpiry : Text := "20260720".toList

def spxwContract (conId : Int) (strike : ℚ) : IbkrContract where
  conId := some conId
  strike := some strike
  right := ['C']
  secType := "OPT".toList
  symbol := "SPX".toList
  lastTradeDateOrContractMonth := sessionExpiry
  exchange := "SMART".toList
  currency := "USD".toList
  multiplier := "100".toList
  tradingClass := "SPXW".toList

def rejectedLabel : Text := "option:SPXW:20260720:7500:C".toList

def rememberCall (label : Text) (contract : IbkrContract) : CacheCall asciiText :=
  .remember [(label, "option".toList, contract)] sessionExpiry (tryWrite .succeeds)
    (tryWrite .succeeds)

/-- A contract is stored and evicted, in a run where every write succeeds. -/
def evictingCalls : List (CacheCall asciiText) :=
  [rememberCall rejectedLabel (spxwContract 900001 7500),
    .evict rejectedLabel sessionExpiry (tryWrite .succeeds) (tryWrite .succeeds),
    rememberCall rejectedLabel (spxwContract 900002 7500)]

theorem evictingCalls_allowed :
    Allowed (cacheStep asciiText) (EffectiveEviction asciiText) {} evictingCalls := by
  decide +kernel

/-- After the eviction the contract is qualified again, and its new id is the one that stands. -/
theorem conid_cache_faithful_requalified :
    OnlyRemembered (play (cacheStep asciiText) {} evictingCalls).1
        (play (cacheStep asciiText) {} evictingCalls).2 ∧
      cachedConId asciiText (play (cacheStep asciiText) {} evictingCalls).2 rejectedLabel
        (spxwContract 0 7500) sessionExpiry = some 900002 := by
  refine ⟨?_, by decide +kernel⟩
  exact (@conid_cache_faithful asciiText .absent rfl).2 _ _ (Run.play evictingCalls_allowed)

/-- The eviction cannot write, and then another contract is stored. -/
def revivingCalls : List (CacheCall asciiText) :=
  [rememberCall rejectedLabel (spxwContract 900001 7500),
    .evict rejectedLabel sessionExpiry (tryWrite .succeeds) (tryWrite .writeFails),
    rememberCall "option:SPXW:20260720:7505:C".toList (spxwContract 900002 7505)]

theorem revivingCalls_answer :
    cachedConId asciiText (play (cacheStep asciiText) {} revivingCalls).2 rejectedLabel
      (spxwContract 0 7500) sessionExpiry = some 900001 ∧
    (additionsOf asciiText [("option:SPXW:20260720:7505:C".toList, "option".toList,
      spxwContract 900002 7505)] sessionExpiry).toOption.all
        (fun additions => decide (additions.lookup rejectedLabel = none)) = true := by
  decide +kernel

theorem otherAddition_not_stores (hlabel : record.label = rejectedLabel) (answer : CacheAnswer) :
    stores record ((rememberCall "option:SPXW:20260720:7505:C".toList (spxwContract 900002 7505),
      answer) : CacheCall asciiText × CacheAnswer) = false := by
  have hother := revivingCalls_answer.2
  unfold rememberCall stores
  split
  · rename_i heq
    cases heq
    split
    · rename_i additions hadditions
      rw [hadditions] at hother
      have hnone : additions.lookup rejectedLabel = none := of_decide_eq_true hother
      rw [hlabel, hnone]
      rfl
    · rfl
  · rfl

theorem revivingCalls_revoked (hlabel : record.label = rejectedLabel) :
    revoked record (play (cacheStep asciiText) {} revivingCalls).1 = true := by
  obtain ⟨stored, evicted, other, hlog⟩ : ∃ stored evicted other,
      (play (cacheStep asciiText) {} revivingCalls).1 =
        [(rememberCall rejectedLabel (spxwContract 900001 7500), stored),
          (.evict rejectedLabel sessionExpiry (tryWrite .succeeds) (tryWrite .writeFails), evicted),
          (rememberCall "option:SPXW:20260720:7505:C".toList (spxwContract 900002 7505), other)] :=
    ⟨_, _, _, rfl⟩
  rw [hlog]
  unfold revoked
  rw [foldl_cons, foldl_cons, foldl_cons, foldl_nil]
  simp only [revokedNext, rememberCall]
  rw [decide_eq_true hlabel.symm, Bool.or_true, Bool.true_and, Bool.not_eq_true']
  exact otherAddition_not_stores hlabel other

/-- **The next contract that is stored brings the evicted one back from the file.** -/
theorem rejected_conid_revived :
    ¬∀ log cache, Run (cacheStep asciiText) anyStep {} log cache → OnlyRemembered log cache := by
  intro h
  obtain ⟨record, hlabel, -, -, -, -, hrevoked⟩ :=
    h _ _ (run_play (cacheStep asciiText) revivingCalls {}) _ _ _ _
      revivingCalls_answer.1
  rw [revivingCalls_revoked hlabel] at hrevoked
  cases hrevoked

end SpxSpark.Ibkr.ConIdCache
