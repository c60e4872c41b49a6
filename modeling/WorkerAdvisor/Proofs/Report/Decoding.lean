import WorkerAdvisor.Proofs.Analysis
import WorkerAdvisor.Proofs.Report.Layout
import WorkerAdvisor.Proofs.Text.Utf8

/-!
A report can be read back.

`decode` reads a report line by line: a heading begins with a number sign, a title with a digit and a description
with a space, so that texts that look like headings or numbered titles do not mislead it. If no title and no
description holds a line end, it gives back the severities, titles and descriptions of the findings, sorted by
urgency (`decode_render`). Such findings have the same report only if they have the same contents in each group
(`group_content_of_render_eq`), and two sources have the same report by the default catalog exactly if the same
rules apply to them (`render_default_eq_iff`).
-/

set_option autoImplicit false

namespace WorkerAdvisor.Report

/-! ### The decoder -/

def headingStart (severity : Severity) : List Char := ("## " ++ severity.label ++ " (").toList

/-- The severity of the group that a line is the heading of. -/
def headingSeverity? (line : List Char) : Option Severity :=
  Severity.all.find? fun severity ↦ (headingStart severity).isPrefixOf line

def titleOf (line : List Char) : String := String.ofList ((line.dropWhile Char.isDigit).drop 2)

def descriptionOf (line : List Char) : String := String.ofList (line.drop 3)

/-- What the lines of a report show, given the severity of the group that they begin in. -/
def decodeLines (current : Severity) : List (List Char) → List (Severity × String × String)
  | [] => []
  | [] :: lines => decodeLines current lines
  | ('#' :: rest) :: lines => decodeLines ((headingSeverity? ('#' :: rest)).getD current) lines
  | title :: description :: lines => (current, titleOf title, descriptionOf description) :: decodeLines current lines
  | [_] => []

/-- What a report shows of the findings. The first line only counts them. -/
def decode (report : String) : List (Severity × String × String) :=
  if report = allClear then []
  else decodeLines .critical (((report.toList ++ ['\n']).splitOn '\n').drop 1)

/-! ### Lines -/

/-- A finding whose title and description have no line ends. -/
def IsOneLine (finding : Finding) : Prop :=
  '\n' ∉ finding.title.toList ∧ '\n' ∉ finding.description.toList

theorem newline_not_mem_numberedLines {findings : List Finding} (hlines : ∀ finding ∈ findings, IsOneLine finding)
    (number : Nat) : ∀ line ∈ numberedLines number findings, '\n' ∉ line.toList := by
  induction findings generalizing number with
  | nil => simp [numberedLines]
  | cons finding findings ih =>
    obtain ⟨htitle, hdescription⟩ := hlines finding (by simp)
    have hnumber : '\n' ∉ Nat.toDigits 10 number := not_mem_toDigits (by decide) number
    have hrest := ih (fun other hother ↦ hlines other (by simp [hother])) (number + 1)
    simp only [numberedLines, findingLines, List.cons_append, List.nil_append, List.mem_cons]
    rintro line (rfl | rfl | hmem)
    · simp [htitle, hnumber]
    · simp [descriptionIndent, hdescription]
    · exact hrest line hmem

theorem newline_not_mem_label (severity : Severity) : '\n' ∉ severity.label.toList := by
  cases severity <;> decide +kernel

/-- The lines of a report on findings of one line are lines. -/
theorem newline_not_mem_lines {findings : List Finding} (hlines : ∀ finding ∈ findings, IsOneLine finding) :
    ∀ line ∈ lines findings, '\n' ∉ line.toList := by
  intro line hmem
  simp only [lines, List.mem_append, List.mem_flatMap] at hmem
  rcases hmem with hheader | ⟨severity, -, hgroup⟩
  · have hnumber : '\n' ∉ Nat.toDigits 10 findings.length := not_mem_toDigits (by decide) _
    simp only [List.mem_cons, List.not_mem_nil, or_false] at hheader
    rcases hheader with rfl | rfl
    · simp [header, hnumber]
    · simp
  · have hmembers : ∀ finding ∈ group severity findings, IsOneLine finding :=
      fun finding hfinding ↦ hlines finding (mem_group.mp hfinding).1
    unfold groupLines at hgroup
    split at hgroup
    · cases hgroup
    · have hnumber : '\n' ∉ Nat.toDigits 10 (group severity findings).length := not_mem_toDigits (by decide) _
      have hlabel := newline_not_mem_label severity
      simp only [List.cons_append, List.nil_append, List.mem_cons, List.mem_append, List.not_mem_nil,
        or_false] at hgroup
      rcases hgroup with rfl | rfl | hline | rfl
      · simp [hnumber, hlabel]
      · simp
      · exact newline_not_mem_numberedLines hmembers 1 line hline
      · simp

/-! ### Reading lines -/

/-- A line with a number and the line behind it are decoded as a finding of the group that is read. -/
theorem decodeLines_pair (current : Severity) {c : Char} (hc : c ≠ '#') (title description : List Char)
    (lines : List (List Char)) :
    decodeLines current ((c :: title) :: description :: lines) =
      (current, titleOf (c :: title), descriptionOf description) :: decodeLines current lines := by
  rw [decodeLines]
  · simp
  · simpa using hc

/-- The number before a title begins with a digit, so that the line is neither empty nor a heading. -/
theorem decodeLines_finding (current : Severity) (number : Nat) (finding : Finding) (rest : List (List Char)) :
    decodeLines current (chars (findingLines number finding) ++ rest) =
      (current, finding.title, finding.description) :: decodeLines current rest := by
  have hdigits : ∀ c ∈ Nat.toDigits 10 number, c.isDigit = true := fun c ↦ isDigit_of_mem_toDigits
  have htitle : titleOf (Nat.toDigits 10 number ++ '.' :: ' ' :: finding.title.toList) = finding.title := by
    rw [titleOf, List.dropWhile_append_of_pos hdigits, List.dropWhile_cons_of_neg (by decide)]
    simp
  have hdescription : descriptionOf (' ' :: ' ' :: ' ' :: finding.description.toList) = finding.description := by
    simp [descriptionOf]
  cases hnumber : Nat.toDigits 10 number with
  | nil => exact absurd hnumber Nat.toDigits_ne_nil
  | cons digit digits =>
    have hdigit : digit ≠ '#' := by
      rintro rfl
      exact absurd (hdigits '#' (by simp [hnumber])) (by decide)
    rw [hnumber] at htitle
    have hlines : chars (findingLines number finding) =
        [digit :: (digits ++ '.' :: ' ' :: finding.title.toList),
          ' ' :: ' ' :: ' ' :: finding.description.toList] := by
      simp [chars, findingLines, descriptionIndent, hnumber]
    rw [hlines]
    simp only [List.cons_append, List.nil_append] at htitle ⊢
    rw [decodeLines_pair current hdigit, htitle, hdescription]

/-- The lines of numbered findings are decoded as the findings. -/
theorem decodeLines_numberedLines (current : Severity) (number : Nat) (findings : List Finding)
    (rest : List (List Char)) :
    decodeLines current (chars (numberedLines number findings) ++ rest) =
      findings.map (fun finding ↦ (current, finding.title, finding.description)) ++ decodeLines current rest := by
  induction findings generalizing number with
  | nil => rfl
  | cons finding findings ih =>
    simp only [numberedLines, chars, List.map_append, List.append_assoc]
    rw [← chars, ← chars, decodeLines_finding, ih]
    rfl

/-- The severity of a group is read from its heading. -/
theorem headingSeverity?_heading (severity : Severity) (rest : List Char) :
    headingSeverity? (headingStart severity ++ rest) = some severity := by
  cases severity <;> rfl

theorem decodeLines_heading (current severity : Severity) (rest : List Char) (lines : List (List Char)) :
    decodeLines current ((headingStart severity ++ rest) :: lines) = decodeLines severity lines := by
  have hheading := headingSeverity?_heading severity rest
  obtain ⟨more, hmore⟩ : ∃ more, headingStart severity = '#' :: more :=
    ⟨(headingStart severity).tail, by cases severity <;> rfl⟩
  rw [hmore] at hheading ⊢
  simp only [List.cons_append, decodeLines] at hheading ⊢
  rw [hheading, Option.getD_some]

/-- The lines of a group show its findings, and leave the decoder in some group. -/
theorem decodeLines_groupLines (current severity : Severity) (members : List Finding) :
    ∃ next, ∀ rest, decodeLines current (chars (groupLines severity members) ++ rest) =
      members.map (fun finding ↦ (severity, finding.title, finding.description)) ++ decodeLines next rest := by
  cases members with
  | nil => exact ⟨current, fun rest ↦ rfl⟩
  | cons finding findings =>
    refine ⟨severity, fun rest ↦ ?_⟩
    have hlines : chars (groupLines severity (finding :: findings)) =
        (headingStart severity ++ (toString (finding :: findings).length ++ ")").toList) :: [] ::
          (chars (numberedLines 1 (finding :: findings)) ++ [[]]) := by
      simp [groupLines, chars, headingStart]
    rw [hlines]
    simp only [List.cons_append, List.append_assoc, List.nil_append]
    rw [decodeLines_heading, decodeLines, decodeLines_numberedLines, decodeLines]

/-- The lines of groups show their findings. -/
theorem decodeLines_groups (current : Severity) (severities : List Severity) (findings : List Finding) :
    decodeLines current (chars (severities.flatMap fun severity ↦ groupLines severity (group severity findings))) =
      (severities.flatMap fun severity ↦ group severity findings).map Finding.content := by
  induction severities generalizing current with
  | nil => rfl
  | cons severity severities ih =>
    obtain ⟨next, hgroup⟩ := decodeLines_groupLines current severity (group severity findings)
    have hcontent : (group severity findings).map (fun finding ↦ (severity, finding.title, finding.description)) =
        (group severity findings).map Finding.content :=
      List.map_congr_left fun finding hmem ↦ by rw [Finding.content, (mem_group.mp hmem).2]
    rw [List.flatMap_cons, List.flatMap_cons, chars, List.map_append, List.map_append]
    rw [← chars, ← chars, hgroup, hcontent, ih]

/-! ### The end of a report -/

/-- A report with findings is its lines, the last of which, an empty one, is cut off with the line end before it. -/
theorem render_toList {findings : List Finding} (hsome : findings ≠ [])
    (hlines : ∀ finding ∈ findings, IsOneLine finding) :
    (render findings).toList ++ ['\n'] = ['\n'].intercalate (chars (lines findings)) := by
  obtain ⟨front, last, hsorted⟩ := exists_byUrgency_eq_concat hsome
  have hmem : last ∈ byUrgency findings := by simp [hsorted]
  have hend : ¬ EndsInLineEnd last := fun hend ↦ (hlines last (List.mem_mergeSort.mp hmem)).2 (List.mem_of_getLast? hend)
  rw [intercalate_lines, (render_toList_eq_layout_iff hsorted).mpr hend]

/-! ### Reading reports back -/

theorem starts_of_literal (c : Char) (cs : List Char) : ∃ rest, (String.ofList (c :: cs)).toList = c :: rest :=
  ⟨cs, String.toList_ofList⟩

theorem starts_append {first : String} {c : Char} (hstarts : ∃ rest, first.toList = c :: rest) (second : String) :
    ∃ rest, (first ++ second).toList = c :: rest := by
  obtain ⟨rest, hfirst⟩ := hstarts
  exact ⟨rest ++ second.toList, by rw [String.toList_append, hfirst, List.cons_append]⟩

/-- A report on findings is not the one on none. -/
theorem render_ne_allClear {findings : List Finding} (hsome : findings ≠ [])
    (hlines : ∀ finding ∈ findings, IsOneLine finding) : render findings ≠ allClear := by
  intro hclear
  have hlist := render_toList hsome hlines
  obtain ⟨rest, hmark⟩ : ∃ rest, allClear.toList = '✅' :: rest :=
    starts_append (starts_append (starts_append (starts_append (starts_of_literal _ _) _) _) _) _
  rw [hclear, hmark] at hlist
  have hreport : (['\n'].intercalate (chars (lines findings))).head? = some 'F' := by
    simp [lines, chars, header]
  rw [← hlist] at hreport
  exact absurd hreport (by simp)

/-- What a report shows is the findings, sorted by urgency, if their texts have no line ends. -/
theorem decode_render {findings : List Finding} (hlines : ∀ finding ∈ findings, IsOneLine finding) :
    decode (render findings) = (byUrgency findings).map Finding.content := by
  by_cases hsome : findings = []
  · subst hsome
    simp [render, decode, byUrgency]
  · rw [decode, if_neg (render_ne_allClear hsome hlines), render_toList hsome hlines, List.splitOn_intercalate,
      byUrgency_eq_groups]
    · exact decodeLines_groups .critical Severity.all findings
    · intro line hmem
      obtain ⟨content, hcontent, rfl⟩ := List.mem_map.mp hmem
      exact newline_not_mem_lines hlines content hcontent
    · simp [lines, chars]

/-- Findings with the same report have the same contents in each group, if their texts have no line ends. -/
theorem group_content_of_render_eq {first second : List Finding}
    (hfirst : ∀ finding ∈ first, IsOneLine finding) (hsecond : ∀ finding ∈ second, IsOneLine finding)
    (hrender : render first = render second) (severity : Severity) :
    (group severity first).map Finding.content = (group severity second).map Finding.content := by
  have hsorted : (byUrgency first).map Finding.content = (byUrgency second).map Finding.content := by
    rw [← decode_render hfirst, ← decode_render hsecond, hrender]
  have hgroup : ∀ findings : List Finding, (group severity findings).map Finding.content =
      ((byUrgency findings).map Finding.content).filter fun content ↦ content.1 = severity := by
    intro findings
    rw [← group_byUrgency, group, List.filter_map]
    rfl
  rw [hgroup first, hgroup second, hsorted]

/-! ### Reports on sources -/

/-- Selections from a list of elements with different keys are equal if the same keys occur in them. -/
theorem filter_eq_of_keys {α κ : Type} {key : α → κ} {all : List α} (hkeys : (all.map key).Nodup)
    {first second : α → Bool}
    (hsame : ∀ k, k ∈ (all.filter first).map key ↔ k ∈ (all.filter second).map key) :
    all.filter first = all.filter second := by
  refine List.filter_congr fun element hmem ↦ Bool.eq_iff_iff.mpr ?_
  rw [← key_mem_filter_iff hkeys first hmem, ← key_mem_filter_iff hkeys second hmem, hsame]

/-- No two rules of the catalog have the same title. -/
theorem nodup_default_titles : (Catalog.default.map (·.title)).Nodup := by decide +kernel

/-- A line end is a byte of its own in the encoding of a text, which is quicker to look through than the text. -/
theorem newline_not_mem_of_bytes {content : String}
    (hbytes : (content.toUTF8.data.toList.all fun byte ↦ byte != 10) = true) : '\n' ∉ content.toList := by
  intro hmem
  have hbyte : (10 : UInt8) ∈ content.toList.flatMap String.utf8EncodeChar :=
    List.mem_flatMap.mpr ⟨'\n', hmem, by decide⟩
  rw [Text.toList_toUTF8] at hbytes
  simpa using List.all_eq_true.mp hbytes _ hbyte

/-- The findings by the catalog have titles and descriptions of one line. -/
theorem isOneLine_default {code : String} :
    ∀ finding ∈ Analysis.findings Catalog.default code, IsOneLine finding := by
  have hrules : ∀ rule ∈ Catalog.default, (rule.title.toUTF8.data.toList.all fun byte ↦ byte != 10) = true ∧
      (rule.description.toUTF8.data.toList.all fun byte ↦ byte != 10) = true := by
    decide +kernel
  intro finding hmem
  obtain ⟨rule, hrule, rfl⟩ := List.mem_map.mp hmem
  obtain ⟨htitle, hdescription⟩ := hrules rule (List.mem_filter.mp hrule).1
  exact ⟨newline_not_mem_of_bytes htitle, newline_not_mem_of_bytes hdescription⟩

/-- Sources with the same report have findings with the same titles. -/
theorem title_mem_of_render_eq {first second : List Finding}
    (hfirst : ∀ finding ∈ first, IsOneLine finding) (hsecond : ∀ finding ∈ second, IsOneLine finding)
    (hrender : render first = render second) (title : String) (htitle : title ∈ first.map (·.title)) :
    title ∈ second.map (·.title) := by
  obtain ⟨finding, hmem, rfl⟩ := List.mem_map.mp htitle
  have hcontent : finding.content ∈ (group finding.severity first).map Finding.content :=
    List.mem_map_of_mem (mem_group.mpr ⟨hmem, rfl⟩)
  rw [group_content_of_render_eq hfirst hsecond hrender] at hcontent
  obtain ⟨other, hother, heq⟩ := List.mem_map.mp hcontent
  have hsame : other.title = finding.title := congrArg (·.2.1) heq
  exact List.mem_map.mpr ⟨other, (mem_group.mp hother).1, hsame⟩

/-- Two sources have the same report by the default catalog exactly if the same rules apply to them. -/
theorem render_default_eq_iff (first second : String) :
    render (Analysis.findings Catalog.default first) = render (Analysis.findings Catalog.default second) ↔
      (Analysis.findings Catalog.default first).map (·.ruleId) =
        (Analysis.findings Catalog.default second).map (·.ruleId) := by
  constructor
  · intro hrender
    have hrules : Catalog.default.filter (·.trigger first) = Catalog.default.filter (·.trigger second) := by
      apply filter_eq_of_keys nodup_default_titles
      intro title
      have hforth := title_mem_of_render_eq isOneLine_default isOneLine_default hrender title
      have hback := title_mem_of_render_eq isOneLine_default isOneLine_default hrender.symm title
      simp only [Analysis.findings, List.map_map] at hforth hback
      exact ⟨hforth, hback⟩
    rw [Analysis.findings, Analysis.findings, hrules]
  · intro hids
    have hrules : Catalog.default.filter (·.trigger first) = Catalog.default.filter (·.trigger second) := by
      apply filter_eq_of_keys Catalog.nodup_ids
      intro id
      simp only [Analysis.findings, List.map_map] at hids
      exact iff_of_eq (congrArg (id ∈ ·) hids)
    rw [Analysis.findings, Analysis.findings, hrules]

/-- A report depends on the findings of each severity alone, and it loses nothing of their contents.

Sorting by urgency leaves the report as it is, and so does any change of order that changes no group. If no text
has a line end in it, the decoder gives back the contents of the findings sorted by urgency, and two reports are
equal exactly if the contents of each group are. Two sources have the same report by the default catalog exactly
if the same rules apply to them. -/
theorem report_determines_contents :
    (∀ findings, render (byUrgency findings) = render findings) ∧
      (∀ first second, (∀ severity, group severity first = group severity second) → render first = render second) ∧
      (∀ findings, (∀ finding ∈ findings, IsOneLine finding) →
        decode (render findings) = (byUrgency findings).map Finding.content) ∧
      decode allClear = [] ∧
      (∀ first second, (∀ finding ∈ first, IsOneLine finding) → (∀ finding ∈ second, IsOneLine finding) →
        (render first = render second ↔ ∀ severity,
          (group severity first).map Finding.content = (group severity second).map Finding.content)) ∧
      ∀ first second,
        render (Analysis.findings Catalog.default first) = render (Analysis.findings Catalog.default second) ↔
          (Analysis.findings Catalog.default first).map (·.ruleId) =
            (Analysis.findings Catalog.default second).map (·.ruleId) := by
  refine ⟨render_byUrgency, fun first second hgroup ↦ ?_, fun findings ↦ decode_render, ?_, ?_,
    render_default_eq_iff⟩
  · exact render_congr fun severity ↦ by rw [hgroup]
  · rw [decode, if_pos rfl]
  · exact fun first second hfirst hsecond ↦ ⟨group_content_of_render_eq hfirst hsecond, render_congr⟩

end WorkerAdvisor.Report
