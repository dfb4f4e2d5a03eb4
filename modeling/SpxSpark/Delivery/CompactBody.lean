import SpxSpark.Delivery.Render

/-!
# CompactBody — which required fields survive the compaction

`requiredFields` lists what completeness asks for: a part of the body and the lines of it that state
the field.
-/

namespace SpxSpark.Delivery

open Domain Lib List

/-! ## What completeness asks for -/

/-- A field, by the section that states it and the lines that do. -/
structure RequiredField where
  part : OperatorSections → Text
  states : Text → Bool

/-- A field stated by a usable line with one of the markers. -/
def markedField (part : OperatorSections → Text) (markers : List String) : RequiredField where
  part
  states := isUsableLine markers

/-- The fields with markers; the sell leg only for a spread. -/
def markedFields (sections : OperatorSections) : List RequiredField :=
  [markedField (·.deskView) ["🟢 MANUAL READY", "🟢 ACT NOW"],
    markedField (·.execution) ["买入"]] ++
  (if mentionsSpread sections then [markedField (·.execution) ["卖出"]] else []) ++
  [markedField (·.execution) ["NBBO"],
    markedField (·.execution) ["限价"],
    markedField (·.execution) ["有效"],
    markedField (·.risk) ["止损", "失效"],
    markedField (·.risk) ["风险"],
    markedField (·.targets) ["目标"],
    markedField (·.targets) ["赔率", "最大收益/最大亏损"]]

def dataQualityField : RequiredField where
  part := (·.dataQuality)
  states := isDataQualityLine

def requiredFields (sections : OperatorSections) : List RequiredField :=
  markedFields sections ++ [dataQualityField]

/-- A line of the field's section states it. -/
def RequiredField.StatedIn (field : RequiredField) (sections : OperatorSections) : Prop :=
  ∃ line ∈ trimmedLines (field.part sections), field.states line = true

variable {sections : OperatorSections}

/-- **The required fields are what the function checks.** -/
theorem complete_iff : tradeReadySectionsAreComplete sections = true ↔
      ∀ field ∈ requiredFields sections, field.StatedIn sections := by
  have hall : tradeReadySectionsAreComplete sections = (requiredFields sections).all fun field =>
      (trimmedLines (field.part sections)).any field.states := by
    unfold tradeReadySectionsAreComplete requiredFields markedFields
    cases mentionsSpread sections <;>
      simp [sectionHasUsableField, markedField, dataQualityField, Bool.and_assoc]
  rw [hall, all_eq_true]
  simp [RequiredField.StatedIn]

theorem isUsableLine_unavailable (markers : List String) :
    isUsableLine markers "不可用".toList = false := by
  have h : containsText "不可用".toList "不可用".toList = true := by decide +kernel
  simp only [isUsableLine, h, Bool.not_true, Bool.false_and]

theorem markedFields_unavailable {field : RequiredField} (h : field ∈ markedFields sections) :
    field.states "不可用".toList = false := by
  have hall : (markedFields sections).all (fun field => !field.states "不可用".toList) = true := by
    unfold markedFields
    cases mentionsSpread sections <;>
      simp only [markedField, isUsableLine_unavailable, all_append, all_cons,
        all_nil, Bool.not_false, Bool.and_true, if_true, if_false, Bool.false_eq_true]
  have hfield := all_eq_true.mp hall field h
  simpa using hfield

/-! ## What the compact body shows -/

/-- How a section of the compact body is chosen. -/
structure SectionRule where
  part : OperatorSections → Text
  starts : List String
  limit : Nat

def deskViewRule : SectionRule := ⟨(·.deskView), ["🟢", "动作", "机会", "触发"], 3⟩
def executionRule : SectionRule := ⟨(·.execution), executionStarts, 8⟩
def riskRule : SectionRule := ⟨(·.risk), [], 4⟩
def targetsRule : SectionRule := ⟨(·.targets), [], 3⟩
def dataQualityRule : SectionRule := ⟨(·.dataQuality), [], 1⟩

def compactRules : List SectionRule :=
  [deskViewRule, executionRule, riskRule, targetsRule, dataQualityRule]

/-- The lines a section offers to the compact body. -/
def SectionRule.offered (rule : SectionRule) (sections : OperatorSections) : List Text :=
  candidates (rule.part sections) true

/-- A line is kept if it begins as the section asks and fewer than the limit before it do; or if it
is the first one and none does. -/
def SectionRule.Kept (rule : SectionRule) (sections : OperatorSections) (line : Text) : Prop :=
  (∃ before after, rule.offered sections = before ++ line :: after ∧
      isPreferred rule.starts line = true ∧
      (before.filter (isPreferred rule.starts)).length < rule.limit) ∨
    ((∀ other ∈ rule.offered sections, isPreferred rule.starts other = false) ∧
      (rule.offered sections).head? = some line)

def SectionRule.selected (rule : SectionRule) (sections : OperatorSections) : List Text :=
  selectedLines (rule.part sections) rule.starts rule.limit true

/-- The lines a section of the compact body consists of. -/
def SectionRule.shown (rule : SectionRule) (sections : OperatorSections) : List Text :=
  if (rule.selected sections).isEmpty then ["不可用".toList] else rule.selected sections

theorem mem_take_filter {α : Type} {p : α → Bool} {l : List α} {n : ℕ} {a : α} :
    a ∈ (l.filter p).take n ↔
      ∃ before after, l = before ++ a :: after ∧ p a = true ∧ (before.filter p).length < n := by
  induction l generalizing n with
  | nil => simp
  | cons x xs ih =>
    constructor
    · intro h
      by_cases hx : p x = true
      · rw [filter_cons_of_pos hx] at h
        cases n with
        | zero => cases h
        | succ n =>
          rcases mem_cons.mp h with rfl | h
          · exact ⟨[], xs, rfl, hx, Nat.succ_pos _⟩
          · obtain ⟨before, after, rfl, ha, hlt⟩ := ih.mp h
            refine ⟨x :: before, after, rfl, ha, ?_⟩
            rw [filter_cons_of_pos hx, length_cons]
            omega
      · rw [filter_cons_of_neg hx] at h
        obtain ⟨before, after, rfl, ha, hlt⟩ := ih.mp h
        refine ⟨x :: before, after, rfl, ha, ?_⟩
        rwa [filter_cons_of_neg hx]
    · rintro ⟨before, after, heq, ha, hlt⟩
      cases before with
      | nil =>
        obtain ⟨rfl, rfl⟩ := List.cons.inj heq
        obtain ⟨m, rfl⟩ : ∃ m, n = m + 1 := ⟨n - 1, by simp at hlt; omega⟩
        rw [filter_cons_of_pos ha, take_succ_cons]
        exact mem_cons_self
      | cons y before =>
        obtain ⟨rfl, rfl⟩ := List.cons.inj heq
        by_cases hx : p x = true
        · rw [filter_cons_of_pos hx, length_cons] at hlt
          obtain ⟨m, rfl⟩ : ∃ m, n = m + 1 := ⟨n - 1, by omega⟩
          rw [filter_cons_of_pos hx, take_succ_cons]
          exact mem_cons_of_mem _ (ih.mpr ⟨before, after, rfl, ha, by omega⟩)
        · rw [filter_cons_of_neg hx] at hlt ⊢
          exact ih.mpr ⟨before, after, rfl, ha, hlt⟩

variable {line : Text}

theorem SectionRule.mem_selected {rule : SectionRule} (hrule : rule ∈ compactRules) :
    line ∈ rule.selected sections ↔ rule.Kept sections line := by
  have hlimit : 0 < rule.limit := by
    simp only [compactRules, mem_cons, List.not_mem_nil, or_false] at hrule
    rcases hrule with rfl | rfl | rfl | rfl | rfl <;> exact Nat.succ_pos _
  have hempty : ((rule.offered sections).filter (isPreferred rule.starts)).take rule.limit = [] ↔
      ∀ other ∈ rule.offered sections, isPreferred rule.starts other = false := by
    rw [take_eq_nil_iff, filter_eq_nil_iff]
    simp [Nat.ne_of_gt hlimit]
  unfold SectionRule.selected selectedLines SectionRule.Kept
  rw [← mem_take_filter]
  change line ∈ (if (((rule.offered sections).filter (isPreferred rule.starts)).take
    rule.limit).isEmpty then (rule.offered sections).take _ else _) ↔ _
  split
  · rename_i hnone
    rw [List.isEmpty_iff] at hnone
    rw [hnone]
    have hnot := hempty.mp hnone
    constructor
    · intro hmem
      refine .inr ⟨hnot, ?_⟩
      cases hoffered : rule.offered sections with
      | nil => simp [hoffered] at hmem
      | cons first rest =>
        -- Without asked beginnings every line is preferred, so one line is taken.
        have hstarts : rule.starts.isEmpty = false := by
          have := hnot first (by simp [hoffered])
          unfold isPreferred at this
          simp only [Bool.or_eq_false_iff] at this
          exact this.1
        simp only [hoffered, hstarts, Bool.false_eq_true, if_false, take_succ_cons,
          take_zero, List.mem_singleton] at hmem
        rw [hmem, head?_cons]
    · rintro (hmem | ⟨_, hhead⟩)
      · cases hmem
      · cases hoffered : rule.offered sections with
        | nil => simp [hoffered] at hhead
        | cons first rest =>
          rw [hoffered, head?_cons, Option.some.injEq] at hhead
          subst hhead
          split
          · obtain ⟨m, hm⟩ : ∃ m, rule.limit = m + 1 := ⟨rule.limit - 1, by omega⟩
            rw [hm, take_succ_cons]
            exact mem_cons_self
          · simp
  · rename_i hsome
    rw [List.isEmpty_iff, hempty] at hsome
    constructor
    · exact Or.inl
    · rintro (hmem | ⟨hnot, _⟩)
      · exact hmem
      · exact absurd hnot hsome

variable (rule : SectionRule)

theorem SectionRule.selected_sublist (sections : OperatorSections) :
    (rule.selected sections).Sublist (rule.offered sections) := by
  unfold SectionRule.selected selectedLines
  dsimp only
  split
  · exact take_sublist _ _
  · exact (take_sublist _ _).trans filter_sublist

theorem SectionRule.shown_ne_nil (sections : OperatorSections) : rule.shown sections ≠ [] := by
  unfold SectionRule.shown
  split
  · simp
  · rename_i hselected
    simpa using hselected

theorem SectionRule.shown_line {rule : SectionRule} (h : line ∈ rule.shown sections) :
    CleanLine line ∧ line ≠ [] := by
  unfold SectionRule.shown at h
  split at h
  · rw [List.mem_singleton.mp h]
    exact ⟨⟨by decide +kernel, by decide +kernel⟩, by decide +kernel⟩
  · have hoffered := (rule.selected_sublist sections).subset h
    unfold SectionRule.offered candidates at hoffered
    obtain ⟨hmem, -⟩ := mem_filter.mp hoffered
    obtain ⟨hmem, hne⟩ := mem_filter.mp hmem
    exact ⟨clean_of_mem_trimmedLines hmem, by simpa using hne⟩

theorem SectionRule.join_shown (sections : OperatorSections) :
    joinLines (rule.shown sections) =
      selectLines (rule.part sections) rule.starts rule.limit true := by
  unfold SectionRule.shown selectLines
  change joinLines (if (rule.selected sections).isEmpty then _ else _) =
    if (rule.selected sections).isEmpty then _ else _
  split
  · simp [joinLines]
  · rfl

/-! ## The lines of the compact body -/

def deskViewHead : List Text := ["Desk View".toList]

/-- The chart links, up to the head of the next section. -/
def chartLines : List Text :=
  ["".toList, "图表".toList, ("策略风险 " ++ strategyRiskImageUrl).toList,
    ("OI墙位 " ++ openInterestImageUrl).toList, "".toList, "Execution".toList]

def riskHead : List Text := ["".toList, "Risk".toList]
def targetsHead : List Text := ["".toList, "Targets".toList]
def dataQualityHead : List Text := ["".toList, "Data Quality".toList]

/-- The lines every compact body has. -/
def fixedLines : List Text :=
  deskViewHead ++ (chartLines ++ (riskHead ++ (targetsHead ++ dataQualityHead)))

def compactLines (sections : OperatorSections) : List Text :=
  deskViewHead ++ (deskViewRule.shown sections ++ (chartLines ++
    (executionRule.shown sections ++ (riskHead ++ (riskRule.shown sections ++ (targetsHead ++
      (targetsRule.shown sections ++ (dataQualityHead ++ dataQualityRule.shown sections))))))))

theorem mem_interleaved {α : Type} {x : α} (a b c d e A B C D E : List α) :
    x ∈ a ++ (A ++ (b ++ (B ++ (c ++ (C ++ (d ++ (D ++ (e ++ E)))))))) ↔
      x ∈ a ++ (b ++ (c ++ (d ++ e))) ∨ x ∈ A ∨ x ∈ B ∨ x ∈ C ∨ x ∈ D ∨ x ∈ E := by
  simp only [mem_append]
  tauto

theorem mem_compactLines : line ∈ compactLines sections ↔
      line ∈ fixedLines ∨ ∃ rule ∈ compactRules, line ∈ rule.shown sections := by
  unfold compactLines fixedLines compactRules
  rw [mem_interleaved]
  simp

theorem joinLines_between {ls rest : List Text} (between : List Text) (hls : ls ≠ [])
    (hbetween : between ≠ []) (hrest : rest ≠ []) : joinLines (ls ++ (between ++ rest)) =
      joinLines ls ++ ('\n' :: joinLines between ++ ['\n']) ++ joinLines rest := by
  rw [joinLines_append hls (by simp [hbetween]), joinLines_append hbetween hrest]
  simp

theorem headLines_between : joinLines deskViewHead ++ ['\n'] = "Desk View\n".toList ∧
      '\n' :: joinLines chartLines ++ ['\n'] =
        "\n\n".toList ++ chartLinks ++ "\n\nExecution\n".toList ∧
      '\n' :: joinLines riskHead ++ ['\n'] = "\n\nRisk\n".toList ∧
      '\n' :: joinLines targetsHead ++ ['\n'] = "\n\nTargets\n".toList ∧
      '\n' :: joinLines dataQualityHead ++ ['\n'] = "\n\nData Quality\n".toList := by
  decide +kernel

theorem joinLines_head {rest : List Text} (hrest : rest ≠ []) :
    joinLines (deskViewHead ++ rest) = "Desk View\n".toList ++ joinLines rest := by
  have hne : deskViewHead ≠ [] := cons_ne_nil _ _
  rw [joinLines_append hne hrest, ← headLines_between.1, append_assoc, singleton_append]

/-- **The compact body is its lines.** -/
theorem compact_eq {body : Text} {compact : Text}
    (h : tryCompactTradeReadyBody body = some compact) :
    ∃ sections, operatorSections body = some sections ∧
      tradeReadySectionsAreComplete sections = true ∧
        compact = joinLines (compactLines sections) := by
  unfold tryCompactTradeReadyBody at h
  obtain ⟨sections, hsections, h⟩ := Option.bind_eq_some_iff.mp h
  split at h
  · rename_i hcomplete
    refine ⟨sections, hsections, hcomplete, ?_⟩
    have hdesk := deskViewRule.shown_ne_nil sections
    have hexecution := executionRule.shown_ne_nil sections
    have hrisk := riskRule.shown_ne_nil sections
    have htargets := targetsRule.shown_ne_nil sections
    have hquality := dataQualityRule.shown_ne_nil sections
    obtain ⟨-, hchart, hriskHead, htargetsHead, hqualityHead⟩ := headLines_between
    rw [Option.some.injEq] at h
    rw [← h, compactLines, joinLines_head (by simp [hdesk]),
      joinLines_between chartLines hdesk (cons_ne_nil _ _) (by simp [hexecution]),
      joinLines_between riskHead hexecution (cons_ne_nil _ _) (by simp [hrisk]),
      joinLines_between targetsHead hrisk (cons_ne_nil _ _) (by simp [htargets]),
      joinLines_between dataQualityHead htargets (cons_ne_nil _ _) hquality,
      hchart, hriskHead, htargetsHead, hqualityHead]
    simp only [SectionRule.join_shown, deskViewRule, executionRule, riskRule, targetsRule,
      dataQualityRule, append_assoc]
  · cases h

theorem lines_compact :
    linesFrom (joinLines (compactLines sections)) [] = compactLines sections := by
  obtain ⟨last, hlast⟩ : ∃ last, (dataQualityRule.shown sections).getLast? = some last := by
    cases hshown : (dataQualityRule.shown sections).getLast? with
    | none => exact absurd (getLast?_eq_none_iff.mp hshown) (dataQualityRule.shown_ne_nil _)
    | some last => exact ⟨last, rfl⟩
  have hmem := mem_of_getLast? hlast
  refine lines_joinLines ?_ (?_ : (compactLines sections).getLast? = some last)
    (SectionRule.shown_line hmem).2
  · intro line hline
    rcases mem_compactLines.mp hline with hfixed | ⟨rule, -, hshown⟩
    · have hall : ∀ line ∈ fixedLines, CleanLine line := by
        unfold CleanLine
        decide +kernel
      exact hall line hfixed
    · exact (SectionRule.shown_line hshown).1
  · simp [compactLines, hlast]

/-! ## Which fields survive -/

/-- The compact body still has a line of the section that states the field. -/
def RequiredField.KeptIn (field : RequiredField) (sections : OperatorSections) (compact : Text) :
    Prop :=
  ∃ line ∈ trimmedLines (field.part sections), field.states line = true ∧
    line ∈ linesFrom compact []

instance (field : RequiredField) (sections : OperatorSections) (compact : Text) :
    Decidable (field.KeptIn sections compact) :=
  decidable_of_iff ((trimmedLines (field.part sections)).any fun line =>
    field.states line && (linesFrom compact []).contains line) (by
      unfold RequiredField.KeptIn
      simp only [any_eq_true, Bool.and_eq_true, contains_iff_mem])

/-- A line that every compact body has, or that one of the sections keeps. -/
def Shown (sections : OperatorSections) (line : Text) : Prop :=
  line ∈ fixedLines ∨ ∃ rule ∈ compactRules, rule.Kept sections line

theorem mem_compact_iff (hline : line ≠ "不可用".toList) :
    line ∈ linesFrom (joinLines (compactLines sections)) [] ↔ Shown sections line := by
  rw [lines_compact, mem_compactLines]
  refine or_congr_right (exists_congr fun rule => and_congr_right fun hrule => ?_)
  rw [← SectionRule.mem_selected hrule]
  unfold SectionRule.shown
  split
  · rename_i hempty
    rw [List.isEmpty_iff] at hempty
    simp only [hempty, List.mem_singleton, List.not_mem_nil, hline]
  · rfl

theorem dataQuality_kept (hstated : dataQualityField.StatedIn sections) :
    dataQualityField.KeptIn sections (joinLines (compactLines sections)) := by
  obtain ⟨line, hline, hstates⟩ := hstated
  have hoffered : line ∈ dataQualityRule.offered sections := by
    have hquality : (!line.isEmpty && !isResearchLine line) = true := hstates
    rw [Bool.and_eq_true] at hquality
    refine mem_filter.mpr ⟨mem_filter.mpr ⟨hline, hquality.1⟩, ?_⟩
    simpa using hquality.2
  obtain ⟨first, rest, hfirst⟩ := exists_cons_of_ne_nil (ne_nil_of_mem hoffered)
  have hmem : first ∈ dataQualityRule.offered sections := by rw [hfirst]; exact mem_cons_self
  obtain ⟨hmem, hresearch⟩ := mem_filter.mp hmem
  obtain ⟨hmem, hne⟩ := mem_filter.mp hmem
  refine ⟨first, hmem, ?_, ?_⟩
  · have hresearch : isResearchLine first = false := by simpa using hresearch
    change (!first.isEmpty && !isResearchLine first) = true
    rw [hresearch, hne]
    rfl
  · rw [lines_compact, mem_compactLines]
    have hrule : dataQualityRule ∈ compactRules := by simp [compactRules]
    have hkept : first ∈ dataQualityRule.selected sections :=
      (SectionRule.mem_selected hrule).mpr (.inl ⟨[], rest, hfirst, rfl, Nat.succ_pos _⟩)
    refine .inr ⟨dataQualityRule, hrule, ?_⟩
    unfold SectionRule.shown
    rw [if_neg (by simpa using ne_nil_of_mem hkept)]
    exact hkept

/-- **Which required fields the compact body keeps.** Exactly when, for every field that is stated
by a marker, some line of its section that states it is shown; the data quality is always kept. -/
theorem compact_keeps_fields {body : Text} {compact : Text} {sections : OperatorSections}
    (hcompact : tryCompactTradeReadyBody body = some compact)
    (hsections : operatorSections body = some sections) :
    (∀ field ∈ requiredFields sections, field.KeptIn sections compact) ↔
      ∀ field ∈ markedFields sections, ∃ line ∈ trimmedLines (field.part sections),
        field.states line = true ∧ Shown sections line := by
  obtain ⟨_, hsections', hcomplete, rfl⟩ := compact_eq hcompact
  rw [hsections, Option.some.injEq] at hsections'
  subst hsections'
  have hquality := dataQuality_kept (complete_iff.mp hcomplete dataQualityField
    (mem_append_right _ (mem_singleton_self _)))
  unfold requiredFields
  rw [forall_mem_append, forall_mem_singleton, and_iff_left hquality]
  refine forall₂_congr fun field hfield => exists_congr fun line => and_congr_right fun _ => ?_
  refine and_congr_right fun hstates => mem_compact_iff ?_
  rintro rfl
  rw [markedFields_unavailable hfield] at hstates
  cases hstates

/-- A complete body, for a line that states the quotes. -/
def sampleBody (quotes : String) : Text :=
  joinLines (["## Desk View", "🟢 MANUAL READY · CALL", "机会  A17", "触发  SPX 接受 7760", "",
    "## Execution", "买入  SPXW 08-05 7760C", quotes, "限价  ≤ 21.60", "有效  剩余 8 分钟", "",
    "## Risk", "止损  SPX 跌回 7757", "风险  单张最大权利金 $2160", "",
    "## Targets", "目标  SPX 7780", "赔率  1.35:1", "",
    "## Data Quality", "Schwab fresh"].map String.toList)

/-- The quotes begin their line. -/
def orderlyBody : Text := sampleBody "NBBO  21.40 / 21.60"

def orderlySections : OperatorSections := (operatorSections orderlyBody).get (by decide +kernel)

def orderlyCompact : Text := (tryCompactTradeReadyBody orderlyBody).get (by decide +kernel)

theorem compact_keeps_fields_orderly : tryCompactTradeReadyBody orderlyBody = some orderlyCompact ∧
    ∀ field ∈ markedFields orderlySections,
      ∃ line ∈ trimmedLines (field.part orderlySections), field.states line = true ∧
        Shown orderlySections line := by
  have hcompact : tryCompactTradeReadyBody orderlyBody = some orderlyCompact :=
    (Option.some_get _).symm
  have hsections : operatorSections orderlyBody = some orderlySections := (Option.some_get _).symm
  exact ⟨hcompact, (compact_keeps_fields hcompact hsections).mp (by decide +kernel)⟩

/-- The quotes stand on a line that begins with another word. -/
def quotedBody : Text := sampleBody "报价  NBBO 21.40 / 21.60"

theorem compact_drops_quotes : validateOperatorBodySections (.ofList quotedBody) = .ok () ∧
      ∃ compact ∈ tryCompactTradeReadyBody quotedBody, ∃ sections ∈ operatorSections quotedBody,
        ¬ ∀ field ∈ requiredFields sections, field.KeptIn sections compact := by
  constructor
  · rw [validateOperatorBodySections, lines, String.toList_ofList]
    decide +kernel
  · decide +kernel

end SpxSpark.Delivery
