import WorkerAdvisor.Proofs.Report.Urgency
import WorkerAdvisor.Proofs.Text.Lines
import WorkerAdvisor.Proofs.Text.Normal
import WorkerAdvisor.Text.Occurs

/-!
What a report shows, down to the last character.

`layout` puts the texts of findings that are sorted by urgency one after the other. The block of a finding is its number
and its title, and its description in the next line; before it stands the end of a line or the heading of its group. The
lines of a report are the layout of its findings with an empty line behind it (`intercalate_lines`). That line is cut off,
and with it the line ends in which the last description ends, but nothing else (`render_toList_eq_layout`).

So a report keeps all its texts exactly if the last description does not end in a line end (`texts_kept_iff`). If it does,
there is no other way to find the blocks in the report one after the other: a block begins with digits and a full stop,
and since there is no full stop between two blocks, none can begin before its own place (`length_le_of_numbered`).
-/

set_option autoImplicit false

namespace WorkerAdvisor.Report

variable {findings earlier members : List Finding} {size : Severity → Nat} {severity : Severity}

/-! ### The layout -/

/-- The number of a finding: one more than the findings of its severity before it. -/
def number (earlier : List Finding) (finding : Finding) : Nat := (group finding.severity earlier).length + 1

/-- A finding as it is shown, with its number. -/
def block (number : Nat) (finding : Finding) : List Char :=
  (toString number ++ ". " ++ finding.title ++ "\n" ++ descriptionIndent ++ finding.description).toList

def heading (severity : Severity) (size : Nat) : String := "## " ++ severity.label ++ " (" ++ toString size ++ ")"

/-- What stands before the block of a finding: the end of a line, and before the first of a group its heading between
empty lines. -/
def lead (size : Severity → Nat) (earlier : List Finding) (finding : Finding) : List Char :=
  if (group finding.severity earlier).isEmpty then
    ("\n\n" ++ heading finding.severity (size finding.severity) ++ "\n\n").toList
  else ['\n']

/-- A finding of a report: what stands before its block, and the block. -/
structure Piece where
  lead : List Char
  block : List Char

/-- The pieces of findings that stand behind some earlier ones. -/
def pieces (size : Severity → Nat) (earlier : List Finding) : List Finding → List Piece
  | [] => []
  | finding :: findings =>
    ⟨lead size earlier finding, block (number earlier finding) finding⟩ :: pieces size (earlier ++ [finding]) findings

/-- The text of pieces. -/
def text (pieces : List Piece) : List Char := pieces.flatMap fun piece ↦ piece.lead ++ piece.block

def groupSize (findings : List Finding) (severity : Severity) : Nat := (group severity findings).length

/-- The layout of findings that are sorted by urgency. -/
def layout (findings : List Finding) : List Char :=
  (header findings.length).toList ++ text (pieces (groupSize findings) [] findings)

/-- The blocks of findings that are sorted by urgency. -/
def blocks (findings : List Finding) : List (List Char) := (pieces (groupSize findings) [] findings).map Piece.block

/-- The pieces of findings that come one after the other, where the first ones stand before the second ones. -/
theorem pieces_append (size : Severity → Nat) (earlier first second : List Finding) :
    pieces size earlier (first ++ second) = pieces size earlier first ++ pieces size (earlier ++ first) second := by
  induction first generalizing earlier with
  | nil => simp [pieces]
  | cons finding first ih => simp [pieces, ih]

theorem text_append (first second : List Piece) : text (first ++ second) = text first ++ text second :=
  List.flatMap_append

/-! ### The lines of a report -/

def chars (lines : List String) : List (List Char) := lines.map String.toList

/-- The characters of lines, each behind the end of a line. -/
def behindEnds (lines : List String) : List Char := (chars lines).flatMap ('\n' :: ·)

theorem behindEnds_append (first second : List String) :
    behindEnds (first ++ second) = behindEnds first ++ behindEnds second := by
  simp [behindEnds, chars]

/-- The lines of a finding are its block behind the end of a line. -/
theorem behindEnds_findingLines (number : Nat) (finding : Finding) :
    behindEnds (findingLines number finding) = '\n' :: block number finding := by
  simp [behindEnds, chars, findingLines, block]

/-- The findings of a group behind the first of them. -/
theorem text_pieces_of_group_ne_nil (size : Severity → Nat) (hearlier : group severity earlier ≠ [])
    (hmembers : ∀ finding ∈ members, finding.severity = severity) :
    text (pieces size earlier members) = behindEnds (numberedLines ((group severity earlier).length + 1) members) := by
  induction members generalizing earlier with
  | nil => rfl
  | cons finding members ih =>
    obtain rfl : finding.severity = severity := hmembers finding (by simp)
    have hgroup : group finding.severity (earlier ++ [finding]) = group finding.severity earlier ++ [finding] := by
      rw [group_append, group_cons_self]
      rfl
    have hsome : group finding.severity (earlier ++ [finding]) ≠ [] := by simp [hgroup]
    have hrest := ih hsome fun other hother ↦ hmembers other (by simp [hother])
    rw [hgroup, List.length_append, List.length_singleton] at hrest
    have hlead : lead size earlier finding = ['\n'] := if_neg (by simpa using hearlier)
    rw [numberedLines, behindEnds_append, behindEnds_findingLines, ← hrest, pieces, text, List.flatMap_cons, hlead,
      number, List.singleton_append, text]

/-- The lines of a group, and an empty line before them. -/
theorem behindEnds_groupLines (hearlier : group severity earlier = [])
    (hmembers : ∀ finding ∈ members, finding.severity = severity) (hsize : size severity = members.length) :
    '\n' :: behindEnds (groupLines severity members) = text (pieces size earlier members) ++ ['\n'] := by
  cases members with
  | nil => rfl
  | cons finding members =>
    obtain rfl : finding.severity = severity := hmembers finding (by simp)
    have hgroup : group finding.severity (earlier ++ [finding]) = [finding] := by
      rw [group_append, hearlier, group_cons_self]
      rfl
    have hsome : group finding.severity (earlier ++ [finding]) ≠ [] := by simp [hgroup]
    have hothers : ∀ other ∈ members, other.severity = finding.severity :=
      fun other hother ↦ hmembers other (by simp [hother])
    have hrest := text_pieces_of_group_ne_nil size hsome hothers
    rw [hgroup, List.length_singleton] at hrest
    have hlead : lead size earlier finding =
        ("\n\n" ++ heading finding.severity (finding :: members).length ++ "\n\n").toList := by
      rw [lead, hearlier, hsize]
      rfl
    have hnumber : number earlier finding = 1 := by rw [number, hearlier]; rfl
    rw [groupLines, if_neg (by simp), numberedLines, behindEnds_append, behindEnds_append, behindEnds_append,
      behindEnds_findingLines, pieces, text, List.flatMap_cons, ← text, hrest, hlead, hnumber]
    simp [behindEnds, chars, heading]

/-- The lines of groups, and an empty line before them. -/
theorem behindEnds_groups (findings : List Finding) {severities : List Severity} (hdistinct : severities.Nodup)
    (hearlier : ∀ severity ∈ severities, group severity earlier = []) :
    '\n' :: behindEnds (severities.flatMap fun severity ↦ groupLines severity (group severity findings)) =
      text (pieces (groupSize findings) earlier (severities.flatMap fun severity ↦ group severity findings)) ++
        ['\n'] := by
  induction severities generalizing earlier with
  | nil => rfl
  | cons severity severities ih =>
    obtain ⟨hother, hdistinct⟩ := List.nodup_cons.mp hdistinct
    have hsize : groupSize findings severity = (group severity findings).length := rfl
    have hgroup := behindEnds_groupLines (hearlier severity (by simp))
      (fun finding hfinding ↦ (mem_group.mp hfinding).2) hsize
    have hlater : ∀ other ∈ severities, group other (earlier ++ group severity findings) = [] := by
      intro other hmem
      have hne : other ≠ severity := fun heq ↦ hother (heq ▸ hmem)
      rw [group_append, hearlier other (by simp [hmem]), group_group, if_neg hne, List.nil_append]
    have hrest := ih hdistinct hlater
    rw [List.flatMap_cons, List.flatMap_cons, behindEnds_append, pieces_append, text_append, ← List.cons_append,
      hgroup, List.append_assoc, List.append_assoc, ← hrest]
    rfl

/-- The lines of a report are the layout of its findings and an empty line. -/
theorem intercalate_lines (findings : List Finding) :
    ['\n'].intercalate (chars (lines findings)) = layout (byUrgency findings) ++ ['\n'] := by
  have hsize : groupSize (byUrgency findings) = groupSize findings := by
    funext severity
    rw [groupSize, groupSize, group_byUrgency]
  have hlength : (byUrgency findings).length = findings.length := by rw [byUrgency_eq_groups, length_groups]
  have hdistinct : Severity.all.Nodup := by decide
  have hgroups := behindEnds_groups findings hdistinct fun severity _ ↦ (rfl : group severity [] = [])
  rw [layout, hsize, hlength, byUrgency_eq_groups, groups, List.append_assoc, ← hgroups, lines, chars, List.cons_append,
    List.cons_append, List.map_cons, Text.intercalate_cons_eq_flatMap, List.map_cons, List.flatMap_cons]
  rfl

/-- A report with findings is the layout without the line ends that it ends in. -/
theorem render_toList_eq_dropEndWhile (hsome : findings ≠ []) :
    (render findings).toList = Text.dropEndWhile (· == '\n') (layout (byUrgency findings)) := by
  have hjoined : (String.intercalate "\n" (lines findings)).toList = layout (byUrgency findings) ++ ['\n'] := by
    rw [String.toList_intercalate, ← intercalate_lines]
    rfl
  rw [render, if_neg (by simpa using hsome), trimEnd, String.toList_ofList, hjoined, Text.dropEndWhile_eq_rdropWhile,
    List.rdropWhile_concat_pos _ _ _ (by rfl)]
  rfl

example : render [⟨"a", .info, "", "2", none⟩, ⟨"b", .error, "t", "1\n", none⟩] =
    "Found 2 issue(s) that may affect Workers compatibility:\n\n## 🚫 ERROR (1)\n\n1. t\n   1\n\n\n" ++
      "## ℹ️ INFO (1)\n\n1. \n   2" := by decide +kernel

/-! ### The end of a report -/

/-- The description ends in the end of a line. -/
def EndsInLineEnd (finding : Finding) : Prop := finding.description.toList.getLast? = some '\n'

instance : DecidablePred EndsInLineEnd := fun finding ↦
  inferInstanceAs (Decidable (finding.description.toList.getLast? = some '\n'))

/-- A finding without the line ends that its description ends in. -/
def trimmed (finding : Finding) : Finding := { finding with description := trimEnd finding.description }

/-- A description is kept exactly if it does not end in the end of a line. -/
theorem trimEnd_eq_self_iff {finding : Finding} :
    trimEnd finding.description = finding.description ↔ ¬ EndsInLineEnd finding := by
  rw [← String.toList_inj, trimEnd, String.toList_ofList, Text.dropEndWhile_eq_rdropWhile,
    List.rdropWhile_eq_self_iff, EndsInLineEnd]
  constructor
  · intro hkept hlast
    obtain ⟨front, hfront⟩ := List.getLast?_eq_some_iff.mp hlast
    exact hkept (by simp [hfront]) (by simp [hfront])
  · intro hkept hsome hlast
    exact hkept (by rw [List.getLast?_eq_some_getLast hsome, beq_iff_eq.mp hlast])

/-- The description is the end of a block, behind a space that is never cut off. -/
theorem block_eq (number : Nat) (finding : Finding) (description : String) :
    block number { finding with description } =
      (toString number ++ ". " ++ finding.title ++ "\n  ").toList ++ [' '] ++ description.toList := by
  simp [block, descriptionIndent]

/-- The block of the last finding is the end of a layout, and what stands before it does not depend on the description. -/
theorem layout_concat (front : List Finding) (last : Finding) (description : String) :
    layout (front ++ [{ last with description }]) =
      (header (front.length + 1)).toList ++ (text (pieces (groupSize (front ++ [last])) [] front) ++
        (lead (groupSize (front ++ [last])) front last ++ block (number front last) { last with description })) := by
  have hsize : groupSize (front ++ [{ last with description }]) = groupSize (front ++ [last]) := by
    funext severity
    by_cases hlast : last.severity = severity <;> simp [groupSize, group, hlast]
  rw [layout, hsize, pieces_append, text_append, List.length_append, List.length_singleton]
  simp [pieces, text, lead, number]

/-- Trimming the last finding changes the layout exactly if its description ends in the end of a line. -/
theorem layout_concat_eq_iff {front : List Finding} {last : Finding} :
    layout (front ++ [trimmed last]) = layout (front ++ [last]) ↔ ¬ EndsInLineEnd last := by
  rw [trimmed, layout_concat, layout_concat front last last.description, List.append_cancel_left_eq,
    List.append_cancel_left_eq, List.append_cancel_left_eq, block_eq, block_eq, List.append_cancel_left_eq,
    String.toList_inj, trimEnd_eq_self_iff]

/-- A block is longer than what is left of it. -/
theorem length_block_trimmed_lt {finding : Finding} (hend : EndsInLineEnd finding) (number : Nat) :
    (block number (trimmed finding)).length < (block number finding).length := by
  have hbegins : (trimEnd finding.description).toList <+: finding.description.toList := by
    rw [trimEnd, String.toList_ofList]
    exact Text.dropEndWhile_prefix_self _ _
  have hlength : (trimEnd finding.description).toList.length < finding.description.toList.length := by
    refine Nat.lt_of_le_of_ne hbegins.length_le fun heq ↦ ?_
    exact trimEnd_eq_self_iff.mp (String.toList_inj.mp (hbegins.eq_of_length heq)) hend
  rw [trimmed, block_eq, block_eq number finding finding.description]
  simp only [List.length_append]
  omega

/-- All that a report with findings loses are the line ends that the last description ends in. -/
theorem render_toList_eq_layout {front : List Finding} {last : Finding}
    (hsorted : byUrgency findings = front ++ [last]) :
    (render findings).toList = layout (front ++ [trimmed last]) := by
  have hsome : findings ≠ [] := by
    rintro rfl
    simp [byUrgency] at hsorted
  have hspace : Text.dropEndWhile (· == '\n') [' '] = [' '] := by decide
  rw [render_toList_eq_dropEndWhile hsome, hsorted, trimmed, layout_concat front last last.description, layout_concat,
    block_eq, block_eq]
  simp only [← List.append_assoc]
  rw [Text.dropEndWhile_append_of_kept (by simp) hspace, trimEnd, String.toList_ofList]

/-- Of some findings one comes last. -/
theorem exists_byUrgency_eq_concat (hsome : findings ≠ []) :
    ∃ front last, byUrgency findings = front ++ [last] := by
  have hsorted : byUrgency findings ≠ [] := by
    rw [← List.length_pos_iff, byUrgency_eq_groups, length_groups]
    exact List.length_pos_iff.mpr hsome
  exact ⟨_, _, (List.dropLast_concat_getLast hsorted).symm⟩

/-- The report is the layout exactly if the last description does not end in the end of a line. -/
theorem render_toList_eq_layout_iff {front : List Finding} {last : Finding}
    (hsorted : byUrgency findings = front ++ [last]) :
    (render findings).toList = layout (byUrgency findings) ↔ ¬ EndsInLineEnd last := by
  rw [render_toList_eq_layout hsorted, hsorted, layout_concat_eq_iff]

/-! ### Blocks in a text -/

/-- Texts stand in a text one after the other, in their order and without overlaps. -/
def StandInOrder : List (List Char) → List Char → Prop
  | [], _ => True
  | block :: blocks, content => ∃ before after, content = before ++ block ++ after ∧ StandInOrder blocks after

/-- Texts that stand in the end of a text stand in the text. -/
theorem StandInOrder.mono {blocks : List (List Char)} {content longer : List Char}
    (hstand : StandInOrder blocks content) (hsuffix : content <:+ longer) : StandInOrder blocks longer := by
  cases blocks with
  | nil => trivial
  | cons block blocks =>
    obtain ⟨before, after, rfl, hrest⟩ := hstand
    obtain ⟨front, rfl⟩ := hsuffix
    exact ⟨front ++ before, after, by simp, hrest⟩

/-- Blocks stand in the text that is made of them. -/
theorem standInOrder_text (pieces : List Piece) (front : List Char) :
    StandInOrder (pieces.map Piece.block) (front ++ text pieces) := by
  induction pieces generalizing front with
  | nil => trivial
  | cons piece pieces ih =>
    refine ⟨front ++ piece.lead, text pieces, by simp [text], ?_⟩
    simpa using ih []

/-- A text that begins with digits and a full stop. -/
inductive IsNumbered : List Char → Prop
  | intro {digits rest : List Char} : (∀ c ∈ digits, c.isDigit = true) → IsNumbered (digits ++ '.' :: rest)

/-- A text without full stops that ends in the end of a line. -/
inductive IsLead : List Char → Prop
  | intro {front : List Char} : '.' ∉ front → IsLead (front ++ ['\n'])

/-- More text without full stops may stand before a lead. -/
theorem IsLead.append {front lead : List Char} (hfront : '.' ∉ front) (hlead : IsLead lead) :
    IsLead (front ++ lead) := by
  obtain @⟨inner, hinner⟩ := hlead
  rw [← List.append_assoc]
  exact .intro (by simp [hfront, hinner])

/-- A numbered text does not begin before the end of a lead. If it did, the digits would go on up to the end of the lead,
which is no digit. -/
theorem length_le_of_numbered {lead content before numbered after : List Char} (hlead : IsLead lead)
    (hnumbered : IsNumbered numbered) (hsplit : lead ++ content = before ++ numbered ++ after) :
    lead.length ≤ before.length := by
  obtain @⟨front, hfront⟩ := hlead
  obtain @⟨digits, rest, hdigits⟩ := hnumbered
  have hjoined : (front ++ ['\n']) ++ content = before ++ (digits ++ '.' :: (rest ++ after)) := by simpa using hsplit
  rcases List.append_eq_append_iff.mp hjoined with ⟨more, hbefore, -⟩ | ⟨inner, hinner, hcontent⟩
  · rw [hbefore]
    exact (List.prefix_append _ more).length_le
  · cases inner using List.reverseRecOn with
    | nil => simp [hinner]
    | append_singleton inner c =>
      obtain ⟨hfrontInner, rfl⟩ : front = before ++ inner ∧ '\n' = c := by simpa [← List.append_assoc] using hinner
      have hstop : '.' ∉ inner ++ ['\n'] := by
        simp only [hfrontInner, List.mem_append, not_or] at hfront
        simp [hfront.2]
      obtain ⟨more, hmore, -⟩ := exists_rest_of_append_eq hcontent.symm hstop
      exact absurd (hdigits '\n' (by simp [hmore])) (by decide)

/-- Numbered blocks of which the last one is cut off do not stand in a text one after the other. -/
theorem not_standInOrder {pieces : List Piece} {front lead block content : List Char} (hfront : '.' ∉ front)
    (hpieces : ∀ piece ∈ pieces, IsLead piece.lead ∧ IsNumbered piece.block) (hlead : IsLead lead)
    (hblock : IsNumbered block) (hshorter : content.length < block.length) :
    ¬ StandInOrder (pieces.map Piece.block ++ [block]) (front ++ (text pieces ++ (lead ++ content))) := by
  induction pieces generalizing front with
  | nil =>
    rintro ⟨before, after, hsplit, -⟩
    have hwhole : (front ++ lead) ++ content = before ++ block ++ after := by simpa [text] using hsplit
    have hplace := length_le_of_numbered (hlead.append hfront) hblock hwhole
    have hlength := congrArg List.length hwhole
    simp only [List.length_append] at hlength hplace
    omega
  | cons piece pieces ih =>
    rintro ⟨before, after, hsplit, hrest⟩
    obtain ⟨hpiece, hnumbered⟩ := hpieces piece (by simp)
    let remaining := text pieces ++ (lead ++ content)
    have hwhole : (front ++ piece.lead) ++ (piece.block ++ remaining) = before ++ piece.block ++ after := by
      simpa [text, remaining] using hsplit
    have hplace := length_le_of_numbered (hpiece.append hfront) hnumbered hwhole
    -- The rest of the search begins behind its own block at the earliest, so that nothing before it is of use.
    have hsuffix : after <:+ remaining := by
      have hlength := congrArg List.length hwhole
      simp only [List.length_append] at hlength hplace
      have hremaining : remaining <:+ before ++ piece.block ++ after := by
        rw [← hwhole, ← List.append_assoc]
        exact List.suffix_append _ _
      exact List.suffix_of_suffix_length_le (List.suffix_append _ _) hremaining (by omega)
    have hnil : '.' ∉ ([] : List Char) := List.not_mem_nil
    exact ih hnil (fun other hother ↦ hpieces other (by simp [hother])) (hrest.mono hsuffix)

/-! ### The blocks of a report -/

theorem isDigit_of_mem_toDigits {number : Nat} {c : Char} (hmem : c ∈ Nat.toDigits 10 number) : c.isDigit = true :=
  Nat.isDigit_of_mem_toDigits (by decide) (by decide) hmem

theorem not_mem_toDigits {c : Char} (hc : c.isDigit = false) (number : Nat) : c ∉ Nat.toDigits 10 number := by
  intro hmem
  rw [isDigit_of_mem_toDigits hmem] at hc
  cases hc

theorem stop_not_mem_header (count : Nat) : '.' ∉ (header count).toList := by
  have hnumber : '.' ∉ Nat.toDigits 10 count := not_mem_toDigits (by decide) count
  simp [header, hnumber]

/-- What stands before a block has no full stop in it, and a line ends with it. -/
theorem isLead_lead (size : Severity → Nat) (earlier : List Finding) (finding : Finding) :
    IsLead (lead size earlier finding) := by
  unfold lead
  split
  · have hnumber : '.' ∉ Nat.toDigits 10 (size finding.severity) := not_mem_toDigits (by decide) _
    have hlabel : '.' ∉ finding.severity.label.toList := by cases finding.severity <;> decide +kernel
    have hfront : '.' ∉ ("\n\n" ++ heading finding.severity (size finding.severity) ++ "\n").toList := by
      simp [heading, hnumber, hlabel]
    simpa using IsLead.intro hfront
  · have hend : IsLead ([] ++ ['\n']) := .intro List.not_mem_nil
    exact hend

/-- A block begins with its number and a full stop. -/
theorem isNumbered_block (number : Nat) (finding : Finding) : IsNumbered (block number finding) := by
  have hnumbered : IsNumbered (Nat.toDigits 10 number ++
      '.' :: (' ' :: (finding.title ++ "\n   " ++ finding.description).toList)) :=
    .intro fun c ↦ isDigit_of_mem_toDigits
  simpa [block, descriptionIndent] using hnumbered

theorem isLead_and_isNumbered_of_mem {piece : Piece} (hmem : piece ∈ pieces size earlier findings) :
    IsLead piece.lead ∧ IsNumbered piece.block := by
  induction findings generalizing earlier with
  | nil => cases hmem
  | cons finding findings ih =>
    rcases List.mem_cons.mp hmem with rfl | hrest
    · dsimp only
      exact ⟨isLead_lead size earlier finding, isNumbered_block (number earlier finding) finding⟩
    · exact ih hrest

/-- A report with findings is the layout of its findings, sorted by urgency, of which the last has lost the line ends that
its description ends in. So it is the layout of the findings themselves exactly if that description does not end in a line
end; and otherwise it does not even have the blocks of the findings in it one after the other. -/
theorem texts_kept_iff (hsome : findings ≠ []) :
    ∃ front last, byUrgency findings = front ++ [last] ∧
      (render findings).toList = layout (front ++ [trimmed last]) ∧
      ((render findings).toList = layout (byUrgency findings) ↔ ¬ EndsInLineEnd last) ∧
      (StandInOrder (blocks (byUrgency findings)) (render findings).toList ↔ ¬ EndsInLineEnd last) := by
  obtain ⟨front, last, hsorted⟩ := exists_byUrgency_eq_concat hsome
  have hreport := render_toList_eq_layout hsorted
  have hkept := render_toList_eq_layout_iff hsorted
  refine ⟨front, last, hsorted, hreport, hkept, fun hstand hend ↦ ?_, fun hend ↦ ?_⟩
  · have hblocks : blocks (front ++ [last]) =
        (pieces (groupSize (front ++ [last])) [] front).map Piece.block ++ [block (number front last) last] := by
      simp [blocks, pieces_append, pieces]
    rw [hreport, hsorted, hblocks, trimmed, layout_concat] at hstand
    exact not_standInOrder (stop_not_mem_header _) (fun _ ↦ isLead_and_isNumbered_of_mem) (isLead_lead _ _ _)
      (isNumbered_block _ _) (length_block_trimmed_lt hend _) hstand
  · rw [hkept.mpr hend]
    exact standInOrder_text _ _

/-- The line ends of all findings are kept but those at the end of the last description. -/
theorem inner_line_ends_kept :
    let findings : List Finding := [⟨"a", .info, "\n", "x\ny", none⟩, ⟨"b", .error, "1. t", "d\n\n", none⟩]
    findings ≠ [] ∧ (render findings).toList = layout (byUrgency findings) ∧
      StandInOrder (blocks (byUrgency findings)) (render findings).toList := by
  intro findings
  have hsome : findings ≠ [] := by simp [findings]
  obtain ⟨front, last, hsorted, -, hkept, hblocks⟩ := texts_kept_iff hsome
  obtain rfl : ⟨"a", .info, "\n", "x\ny", none⟩ = last := by
    rw [byUrgency_eq_groups] at hsorted
    have hlast : (groups findings).getLast? = some last := by simp [hsorted]
    exact Option.some.inj hlast
  have hend : ¬ EndsInLineEnd ⟨"a", .info, "\n", "x\ny", none⟩ := by decide
  exact ⟨hsome, hkept.mpr hend, hblocks.mpr hend⟩

/-- A description that ends in a line end is cut off in the report on that finding alone. -/
theorem last_line_end_lost :
    let finding : Finding := ⟨"a", .error, "t", "d\n", none⟩
    ¬ StandInOrder (blocks (byUrgency [finding])) (render [finding]).toList := by
  intro finding
  rw [byUrgency_eq_groups]
  rintro ⟨before, after, hsplit, -⟩
  have hoccurs : Text.occursIn (block 1 finding) (render [finding]).toList = true :=
    Text.occursIn_iff.mpr ⟨before, after, hsplit.symm⟩
  exact absurd hoccurs (by decide +kernel)

end WorkerAdvisor.Report
