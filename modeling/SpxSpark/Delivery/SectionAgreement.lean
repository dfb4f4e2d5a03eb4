import SpxSpark.Delivery.CompactBody
import SpxSpark.Lib.Lines

/-!
# SectionAgreement — two readings of the five sections

The validator goes through the lines and counts headings; the renderer cuts the text at the headings
it expects.
-/

namespace SpxSpark.Delivery

open Domain Lib List

/-- The validator's test for a heading. -/
def isHeading (line : Text) : Bool := ['#', '#', ' '].isPrefixOf line

/-! ## The validator -/

theorem scan_index {remaining : List Text} {start state : Nat × Bool}
    (h : remaining.foldlM scanSectionLine start = .ok state) :
    state.1 = start.1 + remaining.countP isHeading := by
  induction remaining generalizing start with
  | nil =>
    cases h
    rfl
  | cons line rest ih =>
    rw [foldlM_cons, bind_ok] at h
    obtain ⟨next, hnext, hrest⟩ := h
    rw [ih hrest]
    unfold scanSectionLine at hnext
    split at hnext
    · rename_i hhead
      obtain ⟨-, hnext⟩ := require_bind_ok.mp hnext
      obtain ⟨-, hnext⟩ := require_bind_ok.mp hnext
      cases hnext
      have hcount := countP_cons_of_pos (p := isHeading) (l := rest) hhead
      omega
    · rename_i hhead
      have hcount := countP_cons_of_neg (p := isHeading) (l := rest) hhead
      rw [hcount]
      split at hnext
      · cases hnext
        rfl
      · obtain ⟨-, hnext⟩ := require_bind_ok.mp hnext
        cases hnext
        rfl

theorem countP_of_validated {body : String} (h : validateOperatorBodySections body = .ok ()) :
    (lines body).countP isHeading = 5 := by
  unfold validateOperatorBodySections at h
  obtain ⟨state, hscan, hend⟩ := bind_ok.mp h
  have hindex := scan_index hscan
  have hfive := (require_ok.mp hend).1
  rw [hindex, Nat.zero_add] at hfive
  exact hfive

/-! ## The renderer -/

theorem linesFrom_newline (before after line : Text) : linesFrom (before ++ '\n' :: after) line =
      linesFrom (before ++ ['\n']) line ++ linesFrom after [] := by
  induction before generalizing line with
  | nil => rfl
  | cons c rest ih =>
    rw [cons_append, cons_append, linesFrom, linesFrom]
    split
    · rw [ih, cons_append]
    · exact ih _

theorem operatorSections_text {body : Text} {sections : OperatorSections}
    (h : operatorSections body = some sections) :
    body = "## Desk View\n".toList ++ (sections.deskView ++ "\n\n## Execution\n".toList ++
      (sections.execution ++ "\n\n## Risk\n".toList ++ (sections.risk ++
        "\n\n## Targets\n".toList ++ (sections.targets ++ "\n\n## Data Quality\n".toList ++
          sections.dataQuality)))) := by
  unfold operatorSections at h
  obtain ⟨remainder, hdesk, h⟩ := Option.bind_eq_some_iff.mp h
  obtain ⟨⟨deskView, _⟩, hexecution, h⟩ := Option.bind_eq_some_iff.mp h
  obtain ⟨⟨execution, _⟩, hrisk, h⟩ := Option.bind_eq_some_iff.mp h
  obtain ⟨⟨risk, _⟩, htargets, h⟩ := Option.bind_eq_some_iff.mp h
  obtain ⟨⟨targets, dataQuality⟩, hquality, h⟩ := Option.bind_eq_some_iff.mp h
  dsimp only at h
  split at h
  · cases h
  · cases h
    rw [stripPrefix_eq_some.mp hdesk, splitOnce_eq_some hexecution, splitOnce_eq_some hrisk,
      splitOnce_eq_some htargets, splitOnce_eq_some hquality]

theorem linesFrom_heading (separator heading : Text)
    (h : separator = "\n\n".toList ++ heading ++ ['\n'])
    (hheading : linesFrom (heading ++ ['\n']) [] = [heading]) (part rest : Text) :
    linesFrom (part ++ separator ++ rest) [] =
      linesFrom (part ++ "\n\n".toList) [] ++ heading :: linesFrom rest [] := by
  have hparts : part ++ separator ++ rest =
      (part ++ ['\n']) ++ '\n' :: (heading ++ '\n' :: rest) := by
    rw [h]
    simp
  rw [hparts, linesFrom_newline, linesFrom_newline heading, hheading, append_assoc]
  rfl

/-- The lines of the body: each section's under its heading, with the blank line that closes it. -/
def sectionLines (sections : OperatorSections) : List (Text × List Text) :=
  [("## Desk View".toList, linesFrom (sections.deskView ++ "\n\n".toList) []),
    ("## Execution".toList, linesFrom (sections.execution ++ "\n\n".toList) []),
    ("## Risk".toList, linesFrom (sections.risk ++ "\n\n".toList) []),
    ("## Targets".toList, linesFrom (sections.targets ++ "\n\n".toList) []),
    ("## Data Quality".toList, linesFrom sections.dataQuality [])]

theorem sectionLines_headings (sections : OperatorSections) :
    ∀ entry ∈ sectionLines sections, isHeading entry.1 = true := by
  simp only [sectionLines, forall_mem_cons, not_mem_nil, false_imp_iff, implies_true,
    and_true]
  decide

theorem lines_of_operatorSections {body : String} {sections : OperatorSections}
    (h : operatorSections body.toList = some sections) :
    lines body = headed (sectionLines sections) := by
  have hdesk : ∀ rest : Text, linesFrom ("## Desk View\n".toList ++ rest) [] =
      "## Desk View".toList :: linesFrom rest [] := fun _ => rfl
  unfold lines
  rw [operatorSections_text h, hdesk,
    linesFrom_heading "\n\n## Execution\n".toList "## Execution".toList rfl rfl,
    linesFrom_heading "\n\n## Risk\n".toList "## Risk".toList rfl rfl,
    linesFrom_heading "\n\n## Targets\n".toList "## Targets".toList rfl rfl,
    linesFrom_heading "\n\n## Data Quality\n".toList "## Data Quality".toList rfl rfl]
  simp [headed, sectionLines]

/-- **Both read the same sections.** In a body that the validator accepts, the sections the renderer
cuts out are those between the validator's headings: they are the five of them in order, every other
line of the body is in exactly one section, and what is before, between and in the sections is the
whole text. -/
theorem operator_sections_agree {body : String} {sections : OperatorSections}
    (hvalid : validateOperatorBodySections body = .ok ())
    (hsections : operatorSections body.toList = some sections) :
    (lines body).filter isHeading = operatorBodySections.map String.toList ∧
      (lines body).splitOnP isHeading = [] ::
        [linesFrom (sections.deskView ++ "\n\n".toList) [],
          linesFrom (sections.execution ++ "\n\n".toList) [],
          linesFrom (sections.risk ++ "\n\n".toList) [],
          linesFrom (sections.targets ++ "\n\n".toList) [],
          linesFrom sections.dataQuality []] ∧
      body.toList = "## Desk View\n".toList ++ (sections.deskView ++ "\n\n## Execution\n".toList ++
        (sections.execution ++ "\n\n## Risk\n".toList ++ (sections.risk ++
          "\n\n## Targets\n".toList ++ (sections.targets ++ "\n\n## Data Quality\n".toList ++
            sections.dataQuality)))) := by
  have hlines := lines_of_operatorSections hsections
  have hheads := sectionLines_headings sections
  have hcount := countP_of_validated hvalid
  rw [hlines] at hcount
  have hparts := parts_of_countP hheads hcount.le
  refine ⟨?_, ?_, operatorSections_text hsections⟩
  · rw [hlines, filter_headed hheads hparts]
    rfl
  · have hsplit := splitOnP_headed hheads hparts [] fun _ h => nomatch h
    rw [nil_append] at hsplit
    rw [hlines, hsplit]
    rfl

theorem operator_sections_orderly : (lines (.ofList orderlyBody)).filter isHeading =
    operatorBodySections.map String.toList := by
  have hvalid : validateOperatorBodySections (.ofList orderlyBody) = .ok () := by
    rw [validateOperatorBodySections, lines, String.toList_ofList]
    decide +kernel
  have hsections : operatorSections (String.ofList orderlyBody).toList = some orderlySections := by
    rw [String.toList_ofList]
    exact (Option.some_get _).symm
  exact (operator_sections_agree hvalid hsections).1

end SpxSpark.Delivery
