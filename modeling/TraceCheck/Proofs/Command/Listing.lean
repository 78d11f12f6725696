import TraceCheck.Proofs.Command.Report
import TraceCheck.Proofs.Text.Lines

/-!
# Lists of diagnostics

In HTML and in Markdown a report is a list with one line for each diagnostic, the errors in
front of the remarks.  What stands in a line in front of the message is the program's own.
The message has no line feed, and in HTML no character that could end an attribute or begin
or end an element, so no rule can add a line or markup of its own.
-/

namespace TraceCheck

open TraceCheck.Redaction TraceCheck.Rendering TraceCheck.Text

/-! ## Texts of lines -/

/-- A text consists of lines: each has a line feed at its end, none has a control character,
and read line by line the text has these lines and no others. -/
structure ConsistsOf (text : String) (lines : List String) : Prop where
  ended : text.toList = lines.flatMap (·.toList ++ ['\n'])
  visible : ∀ line ∈ lines, Visible line.toList
  listed : Text.lines text.toList = lines.map String.toList

theorem Text.Visible.not_mem {line : List Char} (h : Visible line) {c : Char}
    (hc : isUnsafe c = true) : c ∉ line := by
  intro hmem
  rw [h c hmem] at hc
  cases hc

theorem Text.lines_flatMap {lines : List (List Char)} (h : ∀ line ∈ lines, Visible line) :
    Text.lines (lines.flatMap (· ++ ['\n'])) = lines := by
  induction lines with
  | nil => rfl
  | cons line lines ih =>
      obtain ⟨hline, hlines⟩ := List.forall_mem_cons.mp h
      have hreturn : line.getLast? ≠ some '\r' := fun hlast =>
        hline.not_mem (by decide) (List.mem_of_getLast? hlast)
      rw [List.flatMap_cons, List.append_assoc, List.singleton_append,
        lines_append_feed (hline.not_mem (by decide)), dropReturn_of_getLast? hreturn,
        List.reverse_reverse, ih hlines]

theorem consistsOf {text : String} {lines : List String}
    (hended : text.toList = lines.flatMap (·.toList ++ ['\n']))
    (hvisible : ∀ line ∈ lines, Visible line.toList) : ConsistsOf text lines where
  ended := hended
  visible := hvisible
  listed := by
    rw [hended, ← List.flatMap_map String.toList (· ++ ['\n'])]
    exact lines_flatMap (List.forall_mem_map.mpr hvisible)

/-! ## Reports -/

namespace ReportFormat

variable (source : String) (v : Verdict) (most : Nat)

/-- A page: a line for each diagnostic between the lines that begin and end a list. -/
theorem report_html_rendered :
    html.report source (v.rendered .html most) =
      ["<ul class=\"diagnostics\">"] ++
        (v.errors ++ v.warnings).map (fun d =>
          "  <li class=\"" ++ d.level.name ++ "\" data-line=\"" ++ toString d.line ++
            "\" data-column=\"" ++ toString d.column ++ "\">" ++
              Surface.html.renderMessage most d.message ++ "</li>") ++
        ["</ul>"] := by
  have hreport : html.report source (v.rendered .html most) =
      ["<ul class=\"diagnostics\">"] ++ (v.rendered .html most).diagnostics.map html.item ++
        ["</ul>"] := rfl
  rw [hreport, diagnostics_rendered, List.map_map, Verdict.diagnostics]
  simp only [Function.comp_def, item, Diagnostic.rendered]

/-- A report in Markdown: a line for each diagnostic. -/
theorem report_markdown_rendered :
    markdown.report source (v.rendered .markdown most) =
      (v.errors ++ v.warnings).map fun d =>
        "- **" ++ d.level.name ++ "** (" ++ toString d.line ++ ":" ++ toString d.column ++
          "): " ++ Surface.markdown.renderMessage most d.message := by
  have hreport : markdown.report source (v.rendered .markdown most) =
      (v.rendered .markdown most).diagnostics.map markdown.item := rfl
  rw [hreport, diagnostics_rendered, List.map_map, Verdict.diagnostics]
  simp only [Function.comp_def, item, Diagnostic.rendered]

end ReportFormat

/-- A report that is a list consists of the lines that it is made of. -/
theorem consistsOf_checkCommand (format : ReportFormat) (hjson : format ≠ .json)
    (htext : format ≠ .text) (config : Config) (source : String) :
    ConsistsOf (checkCommand config format source).output
      (format.report source
        ((check config.limits source).rendered format.surface config.limits.maxMessageLength)) := by
  have hlines := (format.forall_lines_iff hjson (isVisible_check config.limits source) source
    config.limits.maxMessageLength).mpr fun heq => absurd heq htext
  have hreport := format.toList_report source
    ((check config.limits source).rendered format.surface config.limits.maxMessageLength)
  cases format with
  | text => exact absurd rfl htext
  | json => exact absurd rfl hjson
  | html =>
      refine consistsOf ?_ fun line hline => (hlines _ (List.mem_map_of_mem hline)).visible
      exact hreport.trans (List.flatMap_map _ _ _)
  | markdown =>
      refine consistsOf ?_ fun line hline => (hlines _ (List.mem_map_of_mem hline)).visible
      exact hreport.trans (List.flatMap_map _ _ _)

theorem checkCommand_code_eq_zero_iff (config : Config) (format : ReportFormat) (source : String) :
    (checkCommand config format source).code = 0 ↔
      (check config.limits source).isValid = true := by
  unfold checkCommand
  dsimp only
  split
  · next hvalid => exact iff_of_true rfl hvalid
  · next hinvalid => exact iff_of_false Nat.one_ne_zero hinvalid

/-- No message on a page has a character of markup. -/
theorem Surface.not_mem_renderMessage_html (most : Nat) (message : String) :
    ∀ c ∈ (Surface.html.renderMessage most message).toList, c ∉ ['<', '>', '"', '\''] := by
  intro c hc hmem
  have hshown : (Surface.html.renderMessage most message).toList =
      (truncate (redact message) most).toList.flatMap Escape.htmlChar :=
    String.toList_ofList.trans
      (flatMap_renderPiece_eq (List.all_iff_forall_prop.mp (by decide)) _)
  rw [hshown] at hc
  exact (encodesHtml _).inert c hc (List.mem_append_left ['/'] hmem)

/-- A page about a rule has a line that begins a list, a line for each diagnostic and a line
that ends the list; a report in Markdown has a line for each diagnostic.  The program writes
all of a line but the message, and no message has a line feed or, on a page, a character of
markup.  The command succeeds exactly for valid rules. -/
theorem checkCommand_lists (config : Config) (source : String) :
    let v := check config.limits source
    let page := checkCommand config .html source
    let list := checkCommand config .markdown source
    let shown (s : Surface) (d : Diagnostic) : String :=
      s.renderMessage config.limits.maxMessageLength d.message
    ConsistsOf page.output
        (["<ul class=\"diagnostics\">"] ++
          (v.errors ++ v.warnings).map (fun d =>
            "  <li class=\"" ++ d.level.name ++ "\" data-line=\"" ++ toString d.line ++
              "\" data-column=\"" ++ toString d.column ++ "\">" ++ shown .html d ++ "</li>") ++
          ["</ul>"]) ∧
      (∀ d, ∀ c ∈ (shown .html d).toList, c ∉ ['<', '>', '"', '\'']) ∧
      ConsistsOf list.output
        ((v.errors ++ v.warnings).map fun d =>
          "- **" ++ d.level.name ++ "** (" ++ toString d.line ++ ":" ++ toString d.column ++
            "): " ++ shown .markdown d) ∧
      (page.code = 0 ↔ v.isValid = true) ∧ (list.code = 0 ↔ v.isValid = true) := by
  intro v page list shown
  have hpage := consistsOf_checkCommand .html (by decide) (by decide) config source
  have hlist := consistsOf_checkCommand .markdown (by decide) (by decide) config source
  rw [ReportFormat.surface, ReportFormat.report_html_rendered] at hpage
  rw [ReportFormat.surface, ReportFormat.report_markdown_rendered] at hlist
  exact ⟨hpage, fun d => Surface.not_mem_renderMessage_html _ d.message, hlist,
    checkCommand_code_eq_zero_iff config .html source,
    checkCommand_code_eq_zero_iff config .markdown source⟩

end TraceCheck
