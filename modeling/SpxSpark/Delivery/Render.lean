import SpxSpark.Domain.OperatorNotification
import SpxSpark.Lib.Text

/-!
# Render — the compact presentation of a TRADE_READY body

The body of an operator notification has five sections. A complete one is compacted: each section
keeps a few of its lines, chosen by how they begin.
-/

namespace SpxSpark.Delivery

open Domain Lib List

/-! ## Text -/

/-- `str::to_ascii_lowercase`. -/
def toAsciiLowercase (text : Text) : Text := text.map Char.toLower

/-- `str::trim`, of a line. -/
def trimLine (line : Text) : Text :=
  ((line.dropWhile isWhitespace).reverse.dropWhile isWhitespace).reverse

/-- `section.lines().map(str::trim)`. -/
def trimmedLines (text : Text) : List Text := (linesFrom text []).map trimLine

/-- `lines.join("\n")`. -/
def joinLines (ls : List Text) : Text := List.intercalate ['\n'] ls

/-! ## Sections -/

structure OperatorSections where
  deskView : Text
  execution : Text
  risk : Text
  targets : Text
  dataQuality : Text

def OperatorSections.all (sections : OperatorSections) : List Text :=
  [sections.deskView, sections.execution, sections.risk, sections.targets, sections.dataQuality]

def operatorSections (body : Text) : Option OperatorSections := do
  let remainder ← stripPrefix "## Desk View\n".toList body
  let (deskView, remainder) ← splitOnce "\n\n## Execution\n".toList remainder
  let (execution, remainder) ← splitOnce "\n\n## Risk\n".toList remainder
  let (risk, remainder) ← splitOnce "\n\n## Targets\n".toList remainder
  let (targets, dataQuality) ← splitOnce "\n\n## Data Quality\n".toList remainder
  let sections : OperatorSections := { deskView, execution, risk, targets, dataQuality }
  if sections.all.any fun text =>
      text.all isWhitespace || containsText "\n## ".toList text then none
  else some sections

def isResearchLine (line : Text) : Bool :=
  ["HMM", "P/Q", "Gamma", "gamma", "Spring", "历史", "研究"].any fun marker =>
    containsText marker.toList line

/-! ## Required fields -/

/-- The check `section_has_usable_field` makes of one line. -/
def isUsableLine (markers : List String) (line : Text) : Bool :=
  let normalized := toAsciiLowercase line
  !containsText "不可用".toList line && !containsText "unknown".toList normalized &&
    !containsText "null".toList normalized && !containsText "n/a".toList normalized &&
    !(['-'].isSuffixOf line) &&
    markers.any fun marker => marker.toList.isPrefixOf line || containsText marker.toList line

def sectionHasUsableField (text : Text) (markers : List String) : Bool :=
  (trimmedLines text).any (isUsableLine markers)

def mentionsSpread (sections : OperatorSections) : Bool :=
  [sections.deskView, sections.execution].any fun text =>
    containsText "spread".toList (toAsciiLowercase text) || containsText "价差".toList text ||
      containsText "两腿".toList text

def isDataQualityLine (line : Text) : Bool := !line.isEmpty && !isResearchLine line

def tradeReadySectionsAreComplete (sections : OperatorSections) : Bool :=
  sectionHasUsableField sections.deskView ["🟢 MANUAL READY", "🟢 ACT NOW"] &&
    sectionHasUsableField sections.execution ["买入"] &&
    (!mentionsSpread sections || sectionHasUsableField sections.execution ["卖出"]) &&
    sectionHasUsableField sections.execution ["NBBO"] &&
    sectionHasUsableField sections.execution ["限价"] &&
    sectionHasUsableField sections.execution ["有效"] &&
    sectionHasUsableField sections.risk ["止损", "失效"] &&
    sectionHasUsableField sections.risk ["风险"] &&
    sectionHasUsableField sections.targets ["目标"] &&
    sectionHasUsableField sections.targets ["赔率", "最大收益/最大亏损"] &&
    (trimmedLines sections.dataQuality).any isDataQualityLine

/-! ## Selection -/

/-- The lines a section offers: not empty and, if asked, no research. -/
def candidates (text : Text) (filterResearch : Bool) : List Text :=
  ((trimmedLines text).filter fun line => !line.isEmpty).filter fun line =>
    !filterResearch || !isResearchLine line

def isPreferred (starts : List String) (line : Text) : Bool :=
  starts.isEmpty || starts.any fun start => start.toList.isPrefixOf line

/-- The lines `select_lines` joins. -/
def selectedLines (text : Text) (starts : List String) (limit : Nat) (filterResearch : Bool) :
    List Text :=
  let offered := candidates text filterResearch
  let preferred := (offered.filter (isPreferred starts)).take limit
  if preferred.isEmpty then offered.take (if starts.isEmpty then limit else 1) else preferred

def selectLines (text : Text) (starts : List String) (limit : Nat) (filterResearch : Bool) : Text :=
  let selected := selectedLines text starts limit filterResearch
  if selected.isEmpty then "不可用".toList else joinLines selected

def strategyRiskImageUrl : String := "https://spx.zh3nyu.com/strategy-risk/latest.png"
def openInterestImageUrl : String := "https://spx.zh3nyu.com/oi/latest.png"

def chartLinks : Text :=
  ("图表\n策略风险 " ++ strategyRiskImageUrl ++ "\nOI墙位 " ++ openInterestImageUrl).toList

def executionStarts : List String :=
  ["类型", "买入", "卖出", "NBBO", "限价", "有效", "提交", "权限"]

def tryCompactTradeReadyBody (body : Text) : Option Text := do
  let sections ← operatorSections body
  if tradeReadySectionsAreComplete sections then
    let deskView := selectLines sections.deskView ["🟢", "动作", "机会", "触发"] 3 true
    let execution := selectLines sections.execution executionStarts 8 true
    let risk := selectLines sections.risk [] 4 true
    let targets := selectLines sections.targets [] 3 true
    let dataQuality := selectLines sections.dataQuality [] 1 true
    some ("Desk View\n".toList ++ deskView ++ "\n\n".toList ++ chartLinks ++
      "\n\nExecution\n".toList ++ execution ++ "\n\nRisk\n".toList ++ risk ++
      "\n\nTargets\n".toList ++ targets ++ "\n\nData Quality\n".toList ++ dataQuality)
  else none

/-! ## Lines of a joined text -/

/-- A line `str::lines` gives back as it is. -/
def CleanLine (line : Text) : Prop := '\n' ∉ line ∧ line.getLast? ≠ some '\r'

variable {line : Text}

theorem linesFrom_read (hline : '\n' ∉ line) (rest read : Text) :
    linesFrom (line ++ rest) read = linesFrom rest (line.reverse ++ read) := by
  induction line generalizing read with
  | nil => rfl
  | cons c cs ih =>
    rw [mem_cons, not_or] at hline
    rw [cons_append, linesFrom, if_neg (Ne.symm hline.1), ih hline.2, reverse_cons,
      append_assoc, singleton_append]

theorem stripCr_clean (hline : line.getLast? ≠ some '\r') :
    stripCr line.reverse = line.reverse := by
  rw [← head?_reverse] at hline
  unfold stripCr
  split
  · rename_i rest heq
    rw [heq] at hline
    exact absurd rfl hline
  · rfl

theorem linesFrom_line (hline : CleanLine line) (rest : Text) :
    linesFrom (line ++ '\n' :: rest) [] = line :: linesFrom rest [] := by
  rw [linesFrom_read hline.1, append_nil, linesFrom, if_pos rfl, stripCr_clean hline.2,
    reverse_reverse]

theorem linesFrom_last (hline : CleanLine line) (hne : line ≠ []) : linesFrom line [] = [line] := by
  have hread := linesFrom_read hline.1 [] []
  rw [append_nil, append_nil] at hread
  rw [hread]
  obtain ⟨c, cs, hcs⟩ := exists_cons_of_ne_nil (mt reverse_eq_nil_iff.mp hne)
  rw [hcs, linesFrom, ← hcs, reverse_reverse]
  simp

theorem joinLines_cons {ls : List Text} (hne : ls ≠ []) :
    joinLines (line :: ls) = line ++ '\n' :: joinLines ls := by
  obtain ⟨next, rest, rfl⟩ := exists_cons_of_ne_nil hne
  simp [joinLines, intercalate_cons_cons]

theorem joinLines_append {ls ls' : List Text} (hls : ls ≠ []) (hls' : ls' ≠ []) :
    joinLines (ls ++ ls') = joinLines ls ++ '\n' :: joinLines ls' := by
  induction ls with
  | nil => exact absurd rfl hls
  | cons line rest ih =>
    rcases eq_or_ne rest [] with rfl | hrest
    · rw [singleton_append, joinLines_cons hls']
      simp [joinLines]
    · rw [cons_append, joinLines_cons (by simp [hrest]), ih hrest, joinLines_cons hrest,
        append_assoc, cons_append]

/-- **Joined lines are read back**, if the last one is not empty. -/
theorem lines_joinLines {ls : List Text} (hclean : ∀ line ∈ ls, CleanLine line) {last : Text}
    (hlast : ls.getLast? = some last) (hne : last ≠ []) : linesFrom (joinLines ls) [] = ls := by
  induction ls with
  | nil => cases hlast
  | cons line rest ih =>
    rcases eq_or_ne rest [] with rfl | hrest
    · cases hlast
      simpa [joinLines] using linesFrom_last (hclean _ mem_cons_self) hne
    · rw [getLast?_cons_of_ne_nil hrest] at hlast
      rw [joinLines_cons hrest, linesFrom_line (hclean _ mem_cons_self),
        ih (fun l hl => hclean l (mem_cons_of_mem _ hl)) hlast]

theorem newline_not_mem_linesFrom {text read : Text} (hread : '\n' ∉ read)
    (hline : line ∈ linesFrom text read) : '\n' ∉ line := by
  induction text generalizing read with
  | nil =>
    cases read with
    | nil => cases hline
    | cons c cs =>
      rw [linesFrom, mem_singleton] at hline
      · rwa [hline, mem_reverse]
      · simp
  | cons c cs ih =>
    rw [linesFrom] at hline
    split at hline
    · rcases mem_cons.mp hline with rfl | hline
      · rw [mem_reverse]
        unfold stripCr
        split
        · exact fun h => hread (mem_cons_of_mem _ h)
        · exact hread
      · exact ih not_mem_nil hline
    · rename_i hc
      refine ih ?_ hline
      rw [mem_cons, not_or]
      exact ⟨Ne.symm hc, hread⟩

theorem getLast?_trimLine {c : Char} (h : (trimLine line).getLast? = some c) :
    isWhitespace c = false := by
  rw [trimLine, getLast?_reverse] at h
  have hkept := head?_dropWhile_not isWhitespace (line.dropWhile isWhitespace).reverse
  rwa [h] at hkept

theorem clean_of_mem_trimmedLines {text : Text} (h : line ∈ trimmedLines text) :
    CleanLine line := by
  obtain ⟨read, hread, rfl⟩ := mem_map.mp h
  constructor
  · intro hmem
    refine newline_not_mem_linesFrom not_mem_nil hread ?_
    have hright := (dropWhile_sublist _).subset (mem_reverse.mp hmem)
    exact (dropWhile_sublist _).subset (mem_reverse.mp hright)
  · intro hlast
    exact absurd (getLast?_trimLine hlast) (by decide)

end SpxSpark.Delivery
