import SpxSpark.Lib.Run
import SpxSpark.Storage.LatestState
import SpxSpark.Storage.MergeOrder

/-!
# LatestRuns — what an update wrote is there for every later load

A row is carried on by the rows that take its place under the same key. Writers carry every row on
or leave it out on purpose, and they are alone with the file between reading and writing, so only a
rename can lose a row.
-/

namespace SpxSpark.Storage

open Lib List

variable {tools : StoreTools} {x row other merged : Quote} {rows : List Quote}

/-! ## Rows that take the place of others -/

/-- What became of an observation: aged, stored, or merged with others of its key. -/
inductive Supersedes (tools : StoreTools) (observation : Quote) : Quote → Prop
  | self : Supersedes tools observation observation
  | aged {row : Quote} (now : Instant) : Supersedes tools observation row →
      Supersedes tools observation (degradeStaleQuote tools now row)
  | stored {row : Quote} : Supersedes tools observation row →
      Supersedes tools observation row.stored
  | before {row other merged : Quote} : Supersedes tools observation row → SameKey row other →
      latestOfTwo tools row other = .ok merged → Supersedes tools observation merged
  | after {row other merged : Quote} : Supersedes tools observation row → SameKey other row →
      latestOfTwo tools other row = .ok merged → Supersedes tools observation merged

theorem SameKey.trans {a b c : Quote} (h : SameKey a b) (h' : SameKey b c) : SameKey a c :=
  ⟨h.1.trans h'.1, h.2.trans h'.2⟩

theorem SameKey.symm {a b : Quote} (h : SameKey a b) : SameKey b a := ⟨h.1.symm, h.2.symm⟩

theorem latestOfTwo_ok (tools : StoreTools) (h : SameKey row other) :
    ∃ merged, latestOfTwo tools row other = .ok merged := by
  unfold latestOfTwo
  split
  · unfold mergeOptionObservations
    rw [if_neg (not_not.mpr h.1), if_neg (not_not.mpr h.2)]
    dsimp only
    split <;> exact ⟨_, rfl⟩
  · split <;> exact ⟨_, rfl⟩

theorem latestOfTwo_spec (hkey : SameKey row other)
    (h : latestOfTwo tools row other = .ok merged) :
    SameKey row merged ∧ row.receivedAt ≤ merged.receivedAt ∧
      other.receivedAt ≤ merged.receivedAt := by
  unfold latestOfTwo at h
  split at h
  · have hmerged := merge_merged h
    refine ⟨?_, by rw [hmerged.received]; exact le_max_left _ _,
      by rw [hmerged.received]; exact le_max_right _ _⟩
    unfold SameKey
    rw [hmerged.instrument, hmerged.provider]
    rcases mem_pair.mp (pricingSource_mem : pricingSource tools.reader row other ∈ _)
      with hsource | hsource
    · rw [hsource]
      exact ⟨rfl, rfl⟩
    · rw [hsource]
      exact hkey
  · split at h
    · rename_i hle
      obtain rfl := Except.ok.inj h
      exact ⟨hkey, hle, le_refl _⟩
    · rename_i hlt
      obtain rfl := Except.ok.inj h
      exact ⟨⟨rfl, rfl⟩, le_refl _, (not_le.mp hlt).le⟩

theorem Supersedes.key (h : Supersedes tools x row) : SameKey x row := by
  induction h with
  | self => exact ⟨rfl, rfl⟩
  | aged now _ ih => exact ih
  | stored _ ih => exact ih
  | before _ hkey hmerged ih => exact ih.trans (latestOfTwo_spec hkey hmerged).1
  | after _ hkey hmerged ih =>
    exact (ih.trans hkey.symm).trans (latestOfTwo_spec hkey hmerged).1

theorem Supersedes.received (h : Supersedes tools x row) : x.receivedAt ≤ row.receivedAt := by
  induction h with
  | self => exact le_refl _
  | aged now _ ih => exact ih
  | stored _ ih => exact ih
  | before _ hkey hmerged ih => exact ih.trans (latestOfTwo_spec hkey hmerged).2.1
  | after _ hkey hmerged ih => exact ih.trans (latestOfTwo_spec hkey hmerged).2.2

/-- One of the rows took the place of the observation. -/
def Carries (tools : StoreTools) (rows : List Quote) (observation : Quote) : Prop :=
  ∃ row ∈ rows, Supersedes tools observation row

theorem Carries.map_aged (now : Instant) (h : Carries tools rows x) :
    Carries tools (rows.map (degradeStaleQuote tools now)) x := by
  obtain ⟨row, hrow, hx⟩ := h
  exact ⟨_, mem_map_of_mem hrow, hx.aged now⟩

theorem Carries.map_stored (h : Carries tools rows x) :
    Carries tools (rows.map Quote.stored) x := by
  obtain ⟨row, hrow, hx⟩ := h
  exact ⟨_, mem_map_of_mem hrow, hx.stored⟩

theorem Carries.sorted (h : Carries tools rows x) :
    Carries tools (rows.insertionSort sortsBefore) x := by
  obtain ⟨row, hrow, hx⟩ := h
  exact ⟨row, (mem_insertionSort _).mpr hrow, hx⟩

theorem Carries.prune (now : Instant) (h : Carries tools rows x) :
    (∃ row ∈ rows.filter (isExpired tools now), SameKey x row) ∨
      Carries tools (pruneExpiredOptionQuotes tools now rows) x := by
  obtain ⟨row, hrow, hx⟩ := h
  cases hexpired : isExpired tools now row with
  | true => exact .inl ⟨row, mem_filter.mpr ⟨hrow, hexpired⟩, hx.key⟩
  | false =>
    exact .inr ⟨row, mem_filter.mpr ⟨hrow, by rw [hexpired]; rfl⟩, hx⟩

/-- One more observation takes the place of a row of its key, or stands beside the rows. -/
theorem noteLatest_carries (tools : StoreTools) (result : List Quote) (quote : Quote) :
    ∃ out, noteLatest tools result quote = .ok out ∧
      ∀ x, Carries tools (quote :: result) x → Carries tools out x := by
  induction result with
  | nil => exact ⟨[quote], rfl, fun x hx => hx⟩
  | cons row rest ih =>
    by_cases hkey : SameKey row quote
    · obtain ⟨merged, hmerged⟩ := latestOfTwo_ok tools hkey
      refine ⟨merged :: rest, ?_, ?_⟩
      · rw [noteLatest, if_pos hkey, hmerged]
        rfl
      · rintro x ⟨found, hfound, hx⟩
        rcases mem_cons.mp hfound with rfl | hfound
        · exact ⟨merged, mem_cons_self, hx.after hkey hmerged⟩
        rcases mem_cons.mp hfound with rfl | hfound
        · exact ⟨merged, mem_cons_self, hx.before hkey hmerged⟩
        · exact ⟨found, mem_cons_of_mem _ hfound, hx⟩
    · obtain ⟨out, hout, hcarries⟩ := ih
      refine ⟨row :: out, ?_, ?_⟩
      · rw [noteLatest, if_neg hkey, hout]
        rfl
      · rintro x ⟨found, hfound, hx⟩
        have hrest : Carries tools (quote :: rest) x → Carries tools (row :: out) x := by
          intro h
          obtain ⟨kept, hkept, hx'⟩ := hcarries x h
          exact ⟨kept, mem_cons_of_mem _ hkept, hx'⟩
        rcases mem_cons.mp hfound with rfl | hfound
        · exact hrest ⟨found, mem_cons_self, hx⟩
        rcases mem_cons.mp hfound with rfl | hfound
        · exact ⟨found, mem_cons_self, hx⟩
        · exact hrest ⟨found, mem_cons_of_mem _ hfound, hx⟩

/-- `latest_by_provider` never raises, and carries every row on. -/
theorem latestByProvider_carries (tools : StoreTools) (quotes : List Quote) :
    ∃ out, latestByProvider tools quotes = .ok out ∧
      ∀ x, Carries tools quotes x → Carries tools out x := by
  have hfold : ∀ (quotes result : List Quote), ∃ out,
      quotes.foldlM (noteLatest tools) result = .ok out ∧
        ∀ x, Carries tools (result ++ quotes) x → Carries tools out x := by
    intro quotes
    induction quotes with
    | nil =>
      intro result
      exact ⟨result, rfl, fun x hx => by rwa [append_nil] at hx⟩
    | cons quote rest ih =>
      intro result
      obtain ⟨next, hnext, hcarries⟩ := noteLatest_carries tools result quote
      obtain ⟨out, hout, hrest⟩ := ih next
      refine ⟨out, ?_, ?_⟩
      · rw [foldlM_cons, hnext]
        exact hout
      · rintro x ⟨row, hrow, hx⟩
        apply hrest
        rcases mem_append.mp hrow with hrow | hrow
        · obtain ⟨kept, hkept, hx'⟩ := hcarries x ⟨row, mem_cons_of_mem _ hrow, hx⟩
          exact ⟨kept, mem_append_left _ hkept, hx'⟩
        rcases mem_cons.mp hrow with rfl | hrow
        · obtain ⟨kept, hkept, hx'⟩ := hcarries x ⟨row, mem_cons_self, hx⟩
          exact ⟨kept, mem_append_left _ hkept, hx'⟩
        · exact ⟨row, mem_append_right _ hrow, hx⟩
  obtain ⟨out, hout, hcarries⟩ := hfold quotes []
  exact ⟨out, hout, hcarries⟩

/-! ## What a load and a write make of the rows -/

/-- A row of the key was pruned, or one is there that took the observation's place. -/
def KeptOrPruned (tools : StoreTools) (rows : Rows) (observation : Quote) : Prop :=
  (∃ row ∈ rows.pruned, SameKey observation row) ∨ Carries tools rows.quotes observation

theorem loadRows_keeps (call : Call) (h : Carries tools rows x) :
    KeptOrPruned tools (loadRows tools call rows) x := by
  rcases h.prune call.now with hpruned | hkept
  · exact .inl hpruned
  · refine .inr ?_
    cases call with
    | purge provider now => exact hkept
    | load now => exact hkept.map_aged now
    | update batch => exact hkept.map_aged batch.now

/-- The providers whose rows a call takes out of the file. -/
def Call.removes (provider : Provider) : Call → Bool
  | .load _ => false
  | .update batch => batch.replaceProviders.contains provider
  | .purge purged _ => decide (purged = provider)

theorem agedRows_keeps {batch : Update} {loaded : Rows} (h : Carries tools rows x) :
    KeptOrPruned tools (agedRows tools batch loaded rows) x := by
  rcases h.prune batch.now with ⟨row, hrow, hkey⟩ | hkept
  · exact .inl ⟨row, mem_append_right _ hrow, hkey⟩
  · exact .inr (hkept.map_aged batch.now).sorted

theorem updateRows_keeps (batch : Update) (loaded : Rows) : ∃ written,
    updateRows tools batch loaded = .ok written ∧
      (∀ x ∈ batch.incoming, KeptOrPruned tools written x) ∧
      ∀ x, KeptOrPruned tools loaded x → batch.replaceProviders.contains x.provider = false →
        KeptOrPruned tools written x := by
  obtain ⟨latest, hlatest, hcarries⟩ := latestByProvider_carries tools
    (loaded.quotes.filter (fun quote => !batch.replaceProviders.contains quote.provider) ++
      batch.incoming)
  refine ⟨agedRows tools batch loaded latest, ?_, ?_, ?_⟩
  · unfold updateRows
    dsimp only
    rw [hlatest]
    rfl
  · intro x hx
    exact agedRows_keeps (hcarries x ⟨x, mem_append_right _ hx, .self⟩)
  · rintro x (⟨row, hrow, hkey⟩ | ⟨row, hrow, hx⟩) hnot
    · exact .inl ⟨row, mem_append_left _ hrow, hkey⟩
    · refine agedRows_keeps (hcarries x
        ⟨row, mem_append_left _ (mem_filter.mpr ⟨hrow, ?_⟩), hx⟩)
      rw [← hx.key.2, hnot]
      rfl

theorem callRows_keeps (tools : StoreTools) (call : Call) (loaded : Rows) : ∃ written,
    call.rows tools loaded = .ok written ∧
      (∀ batch, call = .update batch → ∀ x ∈ batch.incoming, KeptOrPruned tools written x) ∧
      ∀ x, KeptOrPruned tools loaded x → call.removes x.provider = false →
        KeptOrPruned tools written x := by
  cases call with
  | load now => exact ⟨loaded, rfl, nofun, fun x hx _ => hx⟩
  | update batch =>
    obtain ⟨written, hok, hincoming, hkept⟩ := updateRows_keeps batch loaded
    refine ⟨written, hok, ?_, hkept⟩
    rintro other hother
    obtain rfl := Call.update.inj hother
    exact hincoming
  | purge provider now =>
    refine ⟨_, rfl, nofun, ?_⟩
    rintro x (hpruned | ⟨row, hrow, hx⟩) hnot
    · exact .inl hpruned
    · have hkept : Carries tools
          (loaded.quotes.filter fun quote => quote.provider ≠ provider) x := by
        refine ⟨row, mem_filter.mpr ⟨hrow, ?_⟩, hx⟩
        rw [decide_eq_true_eq, ← hx.key.2]
        exact fun heq => of_decide_eq_false hnot heq.symm
      exact .inr hkept.sorted

/-! ## Rows that later loads are to find -/

abbrev Event := Action × Answer

/-- The event takes rows of the observation's key out of the file: its provider is replaced or
purged, or an option of the key is pruned. -/
def Clears (observation : Quote) (event : Event) : Prop :=
  ∃ call pruned, event.2 = .wrote call pruned ∧
    (call.removes observation.provider = true ∨ ∃ row ∈ pruned, SameKey observation row)

/-- An update wrote the observation, and nothing has taken its key out of the file since. -/
def Due (log : List Event) (observation : Quote) : Prop :=
  ∃ past action batch pruned rest, log = past ++ (action, .wrote (.update batch) pruned) :: rest ∧
    observation ∈ batch.incoming ∧ (∀ row ∈ pruned, ¬SameKey observation row) ∧
    ∀ event ∈ rest, ¬Clears observation event

/-- The observation was due when the process began, and has been since. -/
def DueSince (pid : Pid) (log : List Event) (observation : Quote) : Prop :=
  ∃ past call rest, log = past ++ (.begins pid call, .done) :: rest ∧ Due past observation ∧
    ∀ event ∈ rest, ¬Clears observation event

section Due

variable {log rest : List Event} {event : Event} {pid : Pid}

theorem Due.append (h : Due log x) (hrest : ∀ event ∈ rest, ¬Clears x event) :
    Due (log ++ rest) x := by
  obtain ⟨past, action, batch, pruned, since, rfl, hx, hpruned, hsince⟩ := h
  refine ⟨past, action, batch, pruned, since ++ rest, by simp, hx, hpruned, fun event hevent => ?_⟩
  rcases mem_append.mp hevent with hevent | hevent
  · exact hsince event hevent
  · exact hrest event hevent

theorem not_clears_of_not_wrote (h : ∀ call pruned, event.2 ≠ .wrote call pruned) :
    ¬Clears x event := by
  rintro ⟨call, pruned, hevent, -⟩
  exact h call pruned hevent

theorem DueSince.due (h : DueSince pid log x) : Due log x := by
  obtain ⟨past, call, rest, rfl, hdue, hrest⟩ := h
  refine hdue.append fun event hevent => ?_
  rcases mem_cons.mp hevent with rfl | hevent
  · exact not_clears_of_not_wrote fun _ _ => Answer.noConfusion
  · exact hrest event hevent

theorem Due.of_snoc (h : Due (log ++ [event]) x) : Due log x ∧ ¬Clears x event ∨
      ∃ action batch pruned, event = (action, .wrote (.update batch) pruned) ∧
        x ∈ batch.incoming ∧ ∀ row ∈ pruned, ¬SameKey x row := by
  obtain ⟨past, action, batch, pruned, rest, hlog, hx, hpruned, hrest⟩ := h
  rcases Run.snoc_split hlog with ⟨-, rfl, -⟩ | ⟨since, rfl, rfl⟩
  · exact .inr ⟨action, batch, pruned, rfl, hx, hpruned⟩
  · exact .inl ⟨⟨past, action, batch, pruned, since, rfl, hx, hpruned,
      fun event hevent => hrest event (mem_append_left _ hevent)⟩,
      hrest event (mem_append_right _ (mem_singleton_self event))⟩

theorem DueSince.of_snoc (h : DueSince pid (log ++ [event]) x) :
    DueSince pid log x ∨ ∃ call, event = (.begins pid call, .done) := by
  obtain ⟨past, call, rest, hlog, hdue, hrest⟩ := h
  rcases Run.snoc_split hlog with ⟨-, rfl, -⟩ | ⟨since, rfl, rfl⟩
  · exact .inr ⟨call, rfl⟩
  · exact .inl ⟨past, call, since, rfl, hdue,
      fun event hevent => hrest event (mem_append_left _ hevent)⟩

theorem Due.of_quiet (hquiet : ∀ call pruned, event.2 ≠ .wrote call pruned)
    (h : Due (log ++ [event]) x) : Due log x := by
  rcases h.of_snoc with ⟨hdue, -⟩ | ⟨action, batch, pruned, rfl, -⟩
  · exact hdue
  · exact (hquiet _ _ rfl).elim

end Due

/-! ## What holds along a run -/

def Action.pid : Action → Pid
  | .begins pid _ => pid
  | .locks pid => pid
  | .checks pid => pid
  | .reads pid => pid
  | .readFails pid => pid
  | .renames pid => pid
  | .renameFails pid => pid
  | .writes pid => pid
  | .returns pid => pid
  | .stops pid => pid

/-- Reading a readable file does not fail, and nobody writes between a failed reading and its
rename. -/
def undisturbed (w : World) : Action → Prop
  | .readFails _ => ∀ quotes, w.file ≠ some (.state quotes)
  | .renames pid => ∀ call writes, w.processes pid = some ⟨call, .failed writes⟩ →
      writes = w.writes
  | _ => True

/-- The file has a state that carries the observation. -/
def Holds (tools : StoreTools) (file : Option Content) (observation : Quote) : Prop :=
  ∃ quotes, file = some (.state quotes) ∧ Carries tools quotes observation

/-- What a writer, or a reader, is to find when it reads. -/
def Awaited (call : Call) (pid : Pid) (log : List Event) (observation : Quote) : Prop :=
  if call.locks = true then Due log observation else DueSince pid log observation

/-- What a process has read is no older than what it is to find. -/
structure ProcessOk (tools : StoreTools) (log : List Event) (w : World) (pid : Pid) (call : Call)
    (phase : Phase) : Prop where
  locked : call.locks = true → phase ≠ .waiting → w.lock = some pid
  failed : ∀ writes, phase = .failed writes → writes ≤ w.writes ∧
    (writes = w.writes → ∀ quotes, w.file ≠ some (.state quotes))
  failing : ∀ writes, phase = .failed writes → ∀ x, ¬Awaited call pid log x
  loaded : ∀ rows, phase = .loaded rows → ∀ x, Awaited call pid log x → KeptOrPruned tools rows x

/-- The file holds what is due, and every process is as it should be. -/
structure StoreInv (tools : StoreTools) (log : List Event) (w : World) : Prop where
  file : ∀ x, Due log x → Holds tools w.file x
  processes : ∀ pid call phase, w.processes pid = some ⟨call, phase⟩ →
    ProcessOk tools log w pid call phase

section Steps

variable {log : List Event} {w w' : World} {action : Action} {answer : Answer} {pid : Pid}
  {call : Call} {phase : Phase}

theorem Awaited.due (h : Awaited call pid log x) : Due log x := by
  unfold Awaited at h
  split at h
  · exact h
  · exact h.due

theorem Awaited.of_snoc (hquiet : ∀ call pruned, answer ≠ .wrote call pruned)
    (hpid : action.pid ≠ pid) (h : Awaited call pid (log ++ [(action, answer)]) x) :
    Awaited call pid log x := by
  unfold Awaited at *
  split at h
  · rw [if_pos ‹_›]
    exact h.of_quiet hquiet
  · rw [if_neg ‹_›]
    rcases h.of_snoc with h | ⟨began, hevent⟩
    · exact h
    · exact (hpid (congrArg Action.pid (Prod.mk.inj hevent).1)).elim

theorem ProcessOk.plain (hlocked : call.locks = true → phase ≠ .waiting → w.lock = some pid)
    (hfailed : ∀ writes, phase ≠ .failed writes) (hloaded : ∀ rows, phase ≠ .loaded rows) :
    ProcessOk tools log w pid call phase where
  locked := hlocked
  failed writes hphase := (hfailed writes hphase).elim
  failing writes hphase := (hfailed writes hphase).elim
  loaded rows hphase := (hloaded rows hphase).elim

theorem ProcessOk.nothing (hlocked : call.locks = true → w.lock = some pid)
    (hnone : ∀ x, ¬Awaited call pid log x) : ProcessOk tools log w pid call (.loaded {}) where
  locked hlocks _ := hlocked hlocks
  failed _ hphase := Phase.noConfusion hphase
  failing _ hphase := Phase.noConfusion hphase
  loaded _ _ x hx := (hnone x hx).elim

section Keeps

variable (h : StoreInv tools log w)

include h

section

variable (hquiet : ∀ call pruned, answer ≠ .wrote call pruned)

include hquiet

theorem StoreInv.move
    (hothers : ∀ other, other ≠ action.pid → w'.processes other = w.processes other)
    (hlock : ∀ other, other ≠ action.pid → w.lock = some other → w'.lock = some other)
    (hfile : w'.file = w.file) (hwrites : w'.writes = w.writes)
    (hself : ∀ call phase, w'.processes action.pid = some ⟨call, phase⟩ →
      ProcessOk tools (log ++ [(action, answer)]) w' action.pid call phase) :
    StoreInv tools (log ++ [(action, answer)]) w' where
  file x hx := by
    rw [hfile]
    exact h.file x (hx.of_quiet hquiet)
  processes pid call phase hprocess := by
    by_cases hpid : pid = action.pid
    · subst hpid
      exact hself call phase hprocess
    · rw [hothers pid hpid] at hprocess
      have hok := h.processes pid call phase hprocess
      refine ⟨fun hlocks hphase => hlock pid hpid (hok.locked hlocks hphase), ?_, ?_, ?_⟩
      · rw [hfile, hwrites]
        exact hok.failed
      · intro writes hphase x hx
        exact hok.failing writes hphase x (hx.of_snoc hquiet (Ne.symm hpid))
      · intro rows hrows x hx
        exact hok.loaded rows hrows x (hx.of_snoc hquiet (Ne.symm hpid))

theorem StoreInv.setPhase
    (hok : ProcessOk tools (log ++ [(action, answer)]) (w.setPhase action.pid call phase)
      action.pid call phase) :
    StoreInv tools (log ++ [(action, answer)]) (w.setPhase action.pid call phase) := by
  refine h.move hquiet (fun other hother => Function.update_of_ne hother _ _)
    (fun other _ hheld => hheld) rfl rfl fun call' phase' hprocess => ?_
  have hprocess' : Function.update w.processes action.pid (some ⟨call, phase⟩) action.pid =
      some ⟨call', phase'⟩ := hprocess
  rw [Function.update_self, Option.some.injEq, Process.mk.injEq] at hprocess'
  obtain ⟨rfl, rfl⟩ := hprocess'
  exact hok

theorem StoreInv.leave : StoreInv tools (log ++ [(action, answer)]) (w.leave action.pid) := by
  refine h.move hquiet (fun other hother => Function.update_of_ne hother _ _) ?_ rfl rfl ?_
  · intro other hother hheld
    show (if w.lock = some action.pid then none else w.lock) = some other
    rw [if_neg fun heq => hother (Option.some.inj (hheld.symm.trans heq)), hheld]
  · intro call phase hprocess
    have hnone : Function.update w.processes action.pid none action.pid = some ⟨call, phase⟩ :=
      hprocess
    rw [Function.update_self] at hnone
    cases hnone

theorem StoreInv.same (hbegins : ∀ call, (action, answer) ≠ (.begins action.pid call, .done)) :
    StoreInv tools (log ++ [(action, answer)]) w := by
  refine h.move hquiet (fun _ _ => rfl) (fun _ _ hheld => hheld) rfl rfl
    fun call phase hprocess => ?_
  have hok := h.processes _ call phase hprocess
  have hback : ∀ x, Awaited call action.pid (log ++ [(action, answer)]) x →
      Awaited call action.pid log x := by
    intro x hx
    unfold Awaited at *
    split at hx
    · rw [if_pos ‹_›]
      exact hx.of_quiet hquiet
    · rw [if_neg ‹_›]
      rcases hx.of_snoc with hx | ⟨began, hevent⟩
      · exact hx
      · exact (hbegins began hevent).elim
  exact ⟨hok.locked, hok.failed, fun writes hphase x hx => hok.failing writes hphase x (hback x hx),
    fun rows hrows x hx => hok.loaded rows hrows x (hback x hx)⟩

end

theorem StoreInv.refuse : StoreInv tools (log ++ [(action, .refused)]) w :=
  h.same (fun _ _ => Answer.noConfusion) fun _ hevent => Answer.noConfusion (Prod.mk.inj hevent).2

/-! ## Each step keeps the invariant -/

theorem stepBegins_keeps : StoreInv tools (log ++ [(.begins pid call, (stepBegins w pid call).1)])
      (stepBegins w pid call).2 := by
  unfold stepBegins
  cases w.processes pid with
  | some process => exact h.refuse
  | none =>
    refine h.setPhase (fun _ _ => Answer.noConfusion) (.plain ?_ ?_ ?_)
    · intro hlocks hphase
      rw [if_pos hlocks] at hphase
      exact (hphase rfl).elim
    all_goals
      intro value
      split <;> exact Phase.noConfusion

theorem stepLocks_keeps :
    StoreInv tools (log ++ [(.locks pid, (stepLocks w pid).1)]) (stepLocks w pid).2 := by
  unfold stepLocks
  split
  · rename_i call hprocess hlock
    refine h.move (fun _ _ => Answer.noConfusion)
      (fun other hother => Function.update_of_ne hother _ _) ?_ rfl rfl ?_
    · intro other _ hheld
      rw [hlock] at hheld
      cases hheld
    · intro call' phase hnow
      have hnow' : Function.update w.processes pid (some ⟨call, .checking⟩) pid =
          some ⟨call', phase⟩ := hnow
      rw [Function.update_self, Option.some.injEq, Process.mk.injEq] at hnow'
      obtain ⟨rfl, rfl⟩ := hnow'
      exact .plain (fun _ _ => rfl) (fun _ => Phase.noConfusion) fun _ => Phase.noConfusion
  · exact h.refuse

theorem StoreInv.not_due
    (hfile : ∀ quotes, w.file ≠ some (.state quotes))
    (hquiet : ∀ call pruned, answer ≠ .wrote call pruned)
    (x : Quote) : ¬Due (log ++ [(action, answer)]) x := by
  intro hdue
  obtain ⟨quotes, hquotes, -⟩ := h.file x (hdue.of_quiet hquiet)
  exact hfile quotes hquotes

theorem stepChecks_keeps :
    StoreInv tools (log ++ [(.checks pid, (stepChecks w pid).1)]) (stepChecks w pid).2 := by
  unfold stepChecks
  split
  · rename_i call hprocess
    have hok := h.processes _ _ _ hprocess
    have hlocked : call.locks = true → w.lock = some pid :=
      fun hlocks => hok.locked hlocks Phase.noConfusion
    cases hfile : w.file with
    | none =>
      refine h.setPhase (fun _ _ => Answer.noConfusion) (.nothing hlocked fun x hx => ?_)
      exact h.not_due (fun quotes hquotes => by rw [hfile] at hquotes; cases hquotes)
        (fun _ _ => Answer.noConfusion) x hx.due
    | some content =>
      exact h.setPhase (fun _ _ => Answer.noConfusion) (.plain (fun hlocks _ => hlocked hlocks)
        (fun _ => Phase.noConfusion) fun _ => Phase.noConfusion)
  · exact h.refuse

theorem StoreInv.fails (hprocess : w.processes action.pid = some ⟨call, .reading⟩)
    (hfile : ∀ quotes, w.file ≠ some (.state quotes)) :
    StoreInv tools (log ++ [(action, .done)]) (w.setPhase action.pid call (.failed w.writes)) := by
  have hok := h.processes _ _ _ hprocess
  refine h.setPhase (fun _ _ => Answer.noConfusion) ⟨?_, ?_, ?_, fun _ => Phase.noConfusion⟩
  · exact fun hlocks _ => hok.locked hlocks Phase.noConfusion
  rotate_left
  · exact fun _ _ x hx => h.not_due hfile (fun _ _ => Answer.noConfusion) x hx.due
  · rintro writes hwrites
    obtain rfl := Phase.failed.inj hwrites
    exact ⟨le_refl _, fun _ => hfile⟩

theorem stepReads_keeps :
    StoreInv tools (log ++ [(.reads pid, (stepReads tools w pid).1)])
      (stepReads tools w pid).2 := by
  unfold stepReads
  split
  · rename_i call hprocess
    have hok := h.processes _ _ _ hprocess
    cases hfile : w.file with
    | none =>
      exact h.fails hprocess fun quotes hquotes => by rw [hfile] at hquotes; cases hquotes
    | some content =>
      cases content with
      | unreadable =>
        exact h.fails hprocess fun quotes hquotes => by rw [hfile] at hquotes; cases hquotes
      | raises => exact h.leave fun _ _ => Answer.noConfusion
      | state quotes =>
        refine h.setPhase (fun _ _ => Answer.noConfusion)
          ⟨?_, fun _ => Phase.noConfusion, fun _ => Phase.noConfusion, ?_⟩
        · exact fun hlocks _ => hok.locked hlocks Phase.noConfusion
        · intro rows hrows x hx
          obtain rfl := Phase.loaded.inj hrows
          -- what is due is in the file, and was read from it
          obtain ⟨quotes', hquotes', hcarries⟩ :=
            h.file x (hx.due.of_quiet fun _ _ => Answer.noConfusion)
          rw [hfile] at hquotes'
          obtain rfl := Content.state.inj (Option.some.inj hquotes')
          exact loadRows_keeps call hcarries
  · exact h.refuse

theorem stepReadFails_keeps (hfile : ∀ quotes, w.file ≠ some (.state quotes)) :
    StoreInv tools (log ++ [(.readFails pid, (stepReadFails w pid).1)])
      (stepReadFails w pid).2 := by
  unfold stepReadFails
  split
  · rename_i call hprocess
    exact h.fails hprocess hfile
  · exact h.refuse

theorem stepRenames_keeps (hok : undisturbed w (.renames pid)) :
    StoreInv tools (log ++ [(.renames pid, (stepRenames w pid).1)]) (stepRenames w pid).2 := by
  unfold stepRenames
  split
  · rename_i call writes hprocess
    have hself := h.processes _ _ _ hprocess
    have hlocked : call.locks = true → w.lock = some pid :=
      fun hlocks => hself.locked hlocks Phase.noConfusion
    have hfile := (hself.failed writes rfl).2 (hok call writes hprocess)
    cases hcontent : w.file with
    | none =>
      refine h.setPhase (fun _ _ => Answer.noConfusion) (.nothing hlocked fun x hx => ?_)
      exact h.not_due hfile (fun _ _ => Answer.noConfusion) x hx.due
    | some content =>
      -- nothing is due while the file is no state, so nothing is lost with it
      have hnone : ∀ x, ¬Due (log ++ [(.renames pid, .renamed content)]) x :=
        h.not_due hfile fun _ _ => Answer.noConfusion
      refine ⟨fun x hx => (hnone x hx).elim, fun other call' phase hother => ?_⟩
      by_cases hpid : other = pid
      · subst hpid
        have hnow : Function.update w.processes other (some ⟨call, .loaded {}⟩) other =
            some ⟨call', phase⟩ := hother
        rw [Function.update_self, Option.some.injEq, Process.mk.injEq] at hnow
        obtain ⟨rfl, rfl⟩ := hnow
        exact .nothing hlocked fun x hx => hnone x hx.due
      · have hbefore : w.processes other = some ⟨call', phase⟩ :=
          (Function.update_of_ne hpid _ _).symm.trans hother
        have hthat := h.processes _ _ _ hbefore
        exact ⟨hthat.locked, fun n hn => ⟨(hthat.failed n hn).1, fun _ _ hstate => by cases hstate⟩,
          fun _ _ x hx => hnone x hx.due, fun _ _ x hx => (hnone x hx.due).elim⟩
  · exact h.refuse

theorem stepRenameFails_keeps :
    StoreInv tools (log ++ [(.renameFails pid, (stepRenameFails w pid).1)])
      (stepRenameFails w pid).2 := by
  unfold stepRenameFails
  split
  · rename_i call writes hprocess
    have hself := h.processes _ _ _ hprocess
    refine h.setPhase (fun _ _ => Answer.noConfusion) (.nothing ?_ fun x hx => ?_)
    · exact fun hlocks => hself.locked hlocks Phase.noConfusion
    · -- the step is no beginning, so what is awaited now was awaited when reading failed
      refine hself.failing writes rfl x ?_
      unfold Awaited at *
      split at hx
      · rw [if_pos ‹_›]
        exact hx.of_quiet fun _ _ => Answer.noConfusion
      · rw [if_neg ‹_›]
        rcases hx.of_snoc with hx | ⟨began, hevent⟩
        · exact hx
        · exact Action.noConfusion (Prod.mk.inj hevent).1
  · exact h.refuse

theorem stepWrites_keeps : StoreInv tools (log ++ [(.writes pid, (stepWrites tools w pid).1)])
      (stepWrites tools w pid).2 := by
  unfold stepWrites
  split
  · rename_i call loaded hprocess
    have hself := h.processes _ _ _ hprocess
    by_cases hlocks : call.locks = true
    · rw [if_pos hlocks]
      have hheld : w.lock = some pid := hself.locked hlocks Phase.noConfusion
      obtain ⟨written, hwritten, hincoming, hkept⟩ := callRows_keeps tools call loaded
      rw [hwritten]
      have hfound : ∀ x, Due log x → KeptOrPruned tools loaded x := by
        intro x hx
        refine hself.loaded loaded rfl x ?_
        unfold Awaited
        rwa [if_pos hlocks]
      refine ⟨fun x hx => ?_, fun other call' phase hother => ?_⟩
      · have hrows : KeptOrPruned tools written x ∧ ∀ row ∈ written.pruned, ¬SameKey x row := by
          rcases hx.of_snoc with ⟨hdue, hclears⟩ | ⟨action, batch, pruned, hevent, hx, hpruned⟩
          · have hstays : call.removes x.provider = false := by
              by_contra hremoves
              exact hclears ⟨call, written.pruned, rfl, .inl (Bool.of_not_eq_false hremoves)⟩
            exact ⟨hkept x (hfound x hdue) hstays, fun row hrow hkey =>
              hclears ⟨call, written.pruned, rfl, .inr ⟨row, hrow, hkey⟩⟩⟩
          · obtain ⟨hcall, rfl⟩ := Answer.wrote.inj (Prod.mk.inj hevent).2
            exact ⟨hincoming batch hcall x hx, hpruned⟩
        rcases hrows.1 with ⟨row, hrow, hkey⟩ | hcarries
        · exact (hrows.2 row hrow hkey).elim
        · exact ⟨_, rfl, hcarries.map_stored⟩
      · by_cases hpid : other = pid
        · subst hpid
          have hnow : Function.update w.processes other (some ⟨call, .written⟩) other =
              some ⟨call', phase⟩ := hother
          rw [Function.update_self, Option.some.injEq, Process.mk.injEq] at hnow
          obtain ⟨rfl, rfl⟩ := hnow
          exact .plain (fun _ _ => hheld) (fun _ => Phase.noConfusion) fun _ => Phase.noConfusion
        · have hbefore : w.processes other = some ⟨call', phase⟩ :=
            (Function.update_of_ne hpid _ _).symm.trans hother
          have hthat := h.processes _ _ _ hbefore
          -- nobody else holds the lock, and a reader awaits what it did before
          have hreader : phase ≠ .waiting → call'.locks = false := by
            intro hphase
            by_contra hlocks'
            have := hthat.locked (Bool.of_not_eq_false hlocks') hphase
            rw [hheld] at this
            exact hpid (Option.some.inj this).symm
          have hback : phase ≠ .waiting → ∀ x, Awaited call' other
              (log ++ [(.writes pid, .wrote call written.pruned)]) x →
                Awaited call' other log x := by
            intro hphase x hx
            unfold Awaited at *
            rw [hreader hphase, if_neg Bool.false_ne_true] at *
            rcases hx.of_snoc with hx | ⟨began, hevent⟩
            · exact hx
            · exact Action.noConfusion (Prod.mk.inj hevent).1
          refine ⟨hthat.locked, fun n hn =>
            ⟨Nat.le_succ_of_le (hthat.failed n hn).1, fun heq => ?_⟩,
            fun n hn x hx => hthat.failing n hn x
              (hback (by rw [hn]; exact Phase.noConfusion) x hx),
            fun rows hrows x hx =>
              hthat.loaded rows hrows x (hback (by rw [hrows]; exact Phase.noConfusion) x hx)⟩
          have hle := (hthat.failed n hn).1
          have heq' : n = w.writes + 1 := heq
          omega
    · rw [if_neg hlocks]
      exact h.refuse
  · exact h.refuse

theorem stepReturns_keeps :
    StoreInv tools (log ++ [(.returns pid, (stepReturns w pid).1)]) (stepReturns w pid).2 := by
  unfold stepReturns
  split
  · exact h.leave fun _ _ => Answer.noConfusion
  · split
    · exact h.refuse
    · exact h.leave fun _ _ => Answer.noConfusion
  · exact h.refuse

theorem storeStep_keeps (hok : undisturbed w action) :
    StoreInv tools (log ++ [(action, (storeStep tools w action).1)])
      (storeStep tools w action).2 := by
  cases action with
  | begins pid call => exact stepBegins_keeps h
  | locks pid => exact stepLocks_keeps h
  | checks pid => exact stepChecks_keeps h
  | reads pid => exact stepReads_keeps h
  | readFails pid => exact stepReadFails_keeps h hok
  | renames pid => exact stepRenames_keeps h hok
  | renameFails pid => exact stepRenameFails_keeps h
  | writes pid => exact stepWrites_keeps h
  | returns pid => exact stepReturns_keeps h
  | stops pid => exact h.leave fun _ _ => Answer.noConfusion

end Keeps

theorem storeInv_start (file : Option Content) : StoreInv tools [] (World.start file) where
  file x hx := by
    obtain ⟨past, action, batch, pruned, rest, hlog, -⟩ := hx
    simp at hlog
  processes pid call phase hprocess := by cases hprocess

theorem storeInv_run {file : Option Content}
    (h : Run (storeStep tools) undisturbed (World.start file) log w) : StoreInv tools log w :=
  h.invariant_log (storeInv_start file) fun _ _ _ hinv hok => storeStep_keeps hinv hok

theorem renamed_of_answer {content : Content}
    (h : (storeStep tools w action).1 = .renamed content) : ∃ pid call writes,
      action = .renames pid ∧ w.processes pid = some ⟨call, .failed writes⟩ ∧
        w.file = some content := by
  cases action with
  | renames pid =>
    change (stepRenames w pid).1 = _ at h
    unfold stepRenames at h
    split at h
    · rename_i call writes hprocess
      cases hfile : w.file with
      | none => rw [hfile] at h; cases h
      | some found =>
        rw [hfile] at h
        obtain rfl := Answer.renamed.inj h
        exact ⟨pid, call, writes, rfl, hprocess, rfl⟩
    · cases h
  | begins pid call =>
    change (stepBegins w pid call).1 = _ at h
    unfold stepBegins at h
    split at h <;> cases h
  | locks pid =>
    change (stepLocks w pid).1 = _ at h
    unfold stepLocks at h
    split at h <;> cases h
  | checks pid =>
    change (stepChecks w pid).1 = _ at h
    unfold stepChecks at h
    split at h
    · split at h <;> cases h
    · cases h
  | reads pid =>
    change (stepReads tools w pid).1 = _ at h
    unfold stepReads at h
    split at h
    · split at h <;> cases h
    · cases h
  | readFails pid =>
    change (stepReadFails w pid).1 = _ at h
    unfold stepReadFails at h
    split at h <;> cases h
  | renameFails pid =>
    change (stepRenameFails w pid).1 = _ at h
    unfold stepRenameFails at h
    split at h <;> cases h
  | writes pid =>
    change (stepWrites tools w pid).1 = _ at h
    unfold stepWrites at h
    split at h
    · split at h
      · split at h <;> cases h
      · cases h
    · cases h
  | returns pid =>
    change (stepReturns w pid).1 = _ at h
    unfold stepReturns at h
    split at h
    · cases h
    · split at h <;> cases h
    · cases h
  | stops pid => cases h

theorem loaded_of_answer {rows : Rows} (h : (stepReturns w pid).1 = .loaded rows) :
    ∃ call, call.locks = false ∧ w.processes pid = some ⟨call, .loaded rows⟩ := by
  unfold stepReturns at h
  split at h
  · cases h
  · rename_i call found hprocess
    split at h
    · cases h
    · rename_i hlocks
      obtain rfl := Answer.loaded.inj h
      exact ⟨call, Bool.eq_false_of_not_eq_true hlocks, hprocess⟩
  · cases h

end Steps

/-- Calls of a log move no state aside, and every load that begins after an update has written finds
its observation, or a row that took its place, as long as its key was not taken out of the file. -/
structure UpdatesKept (tools : StoreTools) (log : List Event) : Prop where
  renames : ∀ action content, (action, .renamed content) ∈ log → content.isState = false
  loads : ∀ past action batch pruned mid pid now during rows rest x,
    log = (past ++ (action, .wrote (.update batch) pruned) :: mid ++
      (.begins pid (.load now), .done) :: during) ++ (.returns pid, .loaded rows) :: rest →
    x ∈ batch.incoming → (∀ row ∈ pruned, ¬SameKey x row) →
    (∀ event ∈ mid ++ during, ¬Clears x event) → (∀ row ∈ rows.pruned, ¬SameKey x row) →
    ∃ row ∈ rows.quotes, SameKey x row ∧ x.receivedAt ≤ row.receivedAt ∧ Supersedes tools x row

/-- **No update is lost** in a run in which reading a readable file does not fail and nobody writes
between a failed reading and its rename. -/
theorem no_lost_update (tools : StoreTools) (file : Option Content) {log : List Event} {w : World}
    (h : Run (storeStep tools) undisturbed (World.start file) log w) : UpdatesKept tools log where
  renames action content hmem := by
    obtain ⟨pre, w', hpre, hok, hanswer⟩ := h.fired _ hmem
    obtain ⟨pid, call, writes, rfl, hprocess, hfile⟩ := renamed_of_answer hanswer.symm
    have hself := (storeInv_run hpre).processes pid call _ hprocess
    have hnot := (hself.failed writes rfl).2 (hok call writes hprocess)
    cases content with
    | unreadable => rfl
    | raises => rfl
    | state quotes => exact (hnot quotes hfile).elim
  loads := by
    intro past action batch pruned mid pid now during rows rest x hlog hx hpruned hclear hdropped
    rw [hlog] at h
    obtain ⟨w', hpre, -, hanswer⟩ := h.split
    obtain ⟨call, hlocks, hprocess⟩ := loaded_of_answer hanswer.symm
    have hself := (storeInv_run hpre).processes pid call _ hprocess
    have hdue : Due (past ++ (action, .wrote (.update batch) pruned) :: mid) x :=
      ⟨past, action, batch, pruned, mid, rfl, hx, hpruned,
        fun event hevent => hclear event (mem_append_left _ hevent)⟩
    have hawaited : Awaited call pid (past ++ (action, .wrote (.update batch) pruned) :: mid ++
        (.begins pid (.load now), .done) :: during) x := by
      unfold Awaited
      rw [hlocks, if_neg Bool.false_ne_true]
      exact ⟨_, .load now, during, rfl, hdue,
        fun event hevent => hclear event (mem_append_right _ hevent)⟩
    rcases hself.loaded rows rfl x hawaited with ⟨row, hrow, hkey⟩ | ⟨row, hrow, hsupersedes⟩
    · exact (hdropped row hrow hkey).elim
    · exact ⟨row, hrow, hsupersedes.key, hsupersedes.received, hsupersedes⟩

/-! ## A reader that renames away what an update wrote -/

/-- Every quality stays as it is, and days count from the first. -/
def sampleTools : StoreTools where
  reader := isoReader
  agedQuality _ quote := quote.quality
  researchExpiry time := time / 86400000000
  isdigit := Char.isDigit
  int text := if text.all Char.isDigit then some (Calendar.digitsValue text) else none

def spxIndex : Quote where
  quality := .live
  last := some 7500
  instrument := { canonicalId := "index:SPX".toList, isOption := false }
  provider := .schwab
  receivedAt := 1000000

def spxUpdate : Update where
  incoming := [spxIndex]
  now := 1000000

/-- The reader finds an unreadable file; an update moves it aside and writes; the reader renames. -/
def lateRename : List Action :=
  [.begins 0 (.load 0), .checks 0, .reads 0,
    .begins 1 (.update spxUpdate), .locks 1, .checks 1, .reads 1, .renames 1, .writes 1, .returns 1,
    .renames 0, .returns 0,
    .begins 2 (.load 2000000), .checks 2, .returns 2]

def lateLog : List Event :=
  (play (storeStep sampleTools) (World.start (some .unreadable)) lateRename).1

def lateMid : List Event := (lateLog.drop 9).take 3

def lateDuring : List Event := (lateLog.drop 13).take 1

theorem lateLog_eq : lateLog =
    (lateLog.take 8 ++ (.writes 1, .wrote (.update spxUpdate) []) :: lateMid ++
      (.begins 2 (.load 2000000), .done) :: lateDuring) ++ [(.returns 2, .loaded {})] := rfl

def Event.isWrite (event : Event) : Bool :=
  match event.2 with
  | .wrote _ _ => true
  | _ => false

theorem not_clears_of_not_write {event : Event} (h : event.isWrite = false) : ¬Clears x event := by
  refine not_clears_of_not_wrote fun call pruned hwrote => ?_
  unfold Event.isWrite at h
  rw [hwrote] at h
  cases h

theorem lateEvents_quiet : (lateMid ++ lateDuring).all (fun event => !event.isWrite) = true := rfl

/-- **A load renames away the file that an update has just written**, and the next load is empty. -/
theorem update_lost : ∃ log w,
    Run (storeStep sampleTools) anyStep (World.start (some .unreadable)) log w ∧
      ¬UpdatesKept sampleTools log := by
  refine ⟨lateLog, _, run_play (storeStep sampleTools) lateRename _, fun hkept => ?_⟩
  have hclear : ∀ event ∈ lateMid ++ lateDuring, ¬Clears spxIndex event := by
    intro event hevent
    have hquiet := all_eq_true.mp lateEvents_quiet event hevent
    exact not_clears_of_not_write (by simpa using hquiet)
  obtain ⟨row, hrow, -⟩ := hkept.loads _ _ _ _ _ _ _ _ _ _ spxIndex lateLog_eq
    (mem_singleton_self _) (fun row hrow => by cases hrow) hclear
    (fun row hrow => by cases hrow)
  cases hrow

/-- The same calls, but the reader is done before the update begins. -/
def earlyRename : List Action :=
  [.begins 0 (.load 0), .checks 0, .reads 0, .renames 0, .returns 0,
    .begins 1 (.update spxUpdate), .locks 1, .checks 1, .writes 1, .returns 1,
    .begins 2 (.load 2000000), .checks 2, .reads 2, .returns 2]

theorem earlyRename_allowed :
    Allowed (storeStep sampleTools) undisturbed (World.start (some .unreadable)) earlyRename := by
  refine ⟨trivial, trivial, trivial, ?_, trivial, trivial, trivial, trivial, trivial, trivial,
    trivial, trivial, trivial, trivial, trivial⟩
  intro call writes hprocess
  exact (Phase.failed.inj (Process.mk.inj (Option.some.inj hprocess)).2).symm

theorem no_lost_update_early : UpdatesKept sampleTools
    (play (storeStep sampleTools) (World.start (some .unreadable)) earlyRename).1 :=
  no_lost_update sampleTools (some .unreadable) (Run.play earlyRename_allowed)

end SpxSpark.Storage
