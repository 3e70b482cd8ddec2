import TagAudit.Dashboard.Charts
import TagAudit.Proofs.Dashboard.Legible
import TagAudit.Proofs.Json.Embedded

namespace TagAudit

open Text

namespace Page

theorem mem_linesOf {line : String} {depth : Nat} {e : Element} {pieces : List Element} (member : e ∈ pieces)
    (inside : line ∈ e.lines depth) : line ∈ Element.linesOf depth pieces := by
  induction pieces with
  | nil => exact absurd member List.not_mem_nil
  | cons piece rest ih =>
    rw [Element.linesOf, List.mem_append]
    rcases List.mem_cons.mp member with rfl | later
    · exact Or.inl inside
    · exact Or.inr (ih later)

theorem mem_lines_block {line first last : String} {depth : Nat} {inner : List Element}
    (inside : line ∈ Element.linesOf (depth + 1) inner) : line ∈ (Element.block first inner last).lines depth := by
  rw [Element.lines]
  exact List.mem_append_left _ (List.mem_cons_of_mem _ inside)

theorem exists_intercalate {part separator : String} {parts : List String} (member : part ∈ parts) :
    ∃ before behind, separator.intercalate parts = before ++ part ++ behind := by
  induction parts with
  | nil => exact absurd member List.not_mem_nil
  | cons first rest ih =>
    cases rest with
    | nil =>
      obtain rfl := List.mem_singleton.mp member
      exact ⟨"", "", by simp⟩
    | cons next rest =>
      rw [String.intercalate_cons_cons]
      rcases List.mem_cons.mp member with rfl | later
      · exact ⟨"", separator ++ separator.intercalate (next :: rest), by simp [String.append_assoc]⟩
      · obtain ⟨before, behind, whole⟩ := ih later
        exact ⟨first ++ separator ++ before, behind, by rw [whole]; simp [String.append_assoc]⟩

/-- A line is written as it is, behind blanks. -/
theorem exists_inset {text : String} {depth deep behind : Nat} {pieces : List Element}
    (inside : indent deep text ∈ Element.linesOf depth pieces) :
    ∃ before after, inset depth behind pieces = before ++ text ++ after := by
  have member : indent deep text ∈ "" :: Element.linesOf depth pieces ++ [indent behind ""] :=
    List.mem_append_left _ (List.mem_cons_of_mem _ inside)
  obtain ⟨before, after, whole⟩ : ∃ before after, "\n".intercalate _ = before ++ indent deep text ++ after :=
    exists_intercalate member
  refine ⟨before ++ String.ofList (List.replicate (4 * deep) ' '), after, ?_⟩
  rw [inset, whole, indent]
  simp [String.append_assoc]

end Page

namespace Dashboard

open Page

variable {d : Dashboard}

/-- The report stands in the page as the value of a constant. -/
theorem exists_page (d : Dashboard) (charts : Charts) (now : Moment) :
    ∃ before behind, d.page charts now = before ++ "const data = " ++ d.report.prettyAscii ++ ";" ++ behind := by
  have data : indent 3 ("const data = " ++ d.report.prettyAscii ++ ";") ∈ (d.script charts).lines 1 := by
    simp [script, wrap, Element.lines, Element.linesOf]
  have inBody : indent 3 ("const data = " ++ d.report.prettyAscii ++ ";") ∈
      (wrap "body" [] [d.content now, .blank, d.script charts]).lines 0 :=
    mem_lines_block (mem_linesOf (by simp) data)
  obtain ⟨before, behind, whole⟩ : ∃ before behind, d.page charts now =
      before ++ ("const data = " ++ d.report.prettyAscii ++ ";") ++ behind :=
    exists_inset (mem_linesOf (by simp) inBody)
  exact ⟨before, behind, by rw [whole]; simp [String.append_assoc]⟩

end Dashboard

namespace Json

theorem mem_stringsOfItems {items : List Json} {value : Json} {s : String} (member : value ∈ items)
    (inside : s ∈ value.strings) : s ∈ stringsOfItems items := by
  induction items with
  | nil => exact absurd member List.not_mem_nil
  | cons first rest ih =>
    rw [stringsOfItems, List.mem_append]
    rcases List.mem_cons.mp member with rfl | later
    · exact Or.inl inside
    · exact Or.inr (ih later)

theorem mem_stringsOfFields {fields : List (String × Json)} {key : String} {value : Json} {s : String}
    (member : (key, value) ∈ fields) (inside : s ∈ value.strings) : s ∈ stringsOfFields fields := by
  induction fields with
  | nil => exact absurd member List.not_mem_nil
  | cons first rest ih =>
    obtain ⟨k, v⟩ := first
    rw [stringsOfFields, List.cons_append, List.mem_cons, List.mem_append]
    rcases List.mem_cons.mp member with same | later
    · cases same
      exact Or.inr (Or.inl inside)
    · exact Or.inr (Or.inr (ih later))

end Json

namespace Report

variable {r : Report} {s : String}

/-- A report repeats the name of the container and those of its unused entities. -/
theorem name_mem_strings (named : r.container.info.name = .str s) : s ∈ r.toJson.strings := by
  have ofContainer : s ∈ r.container.info.toJson.strings :=
    Json.mem_stringsOfFields List.mem_cons_self (named ▸ List.mem_singleton_self s)
  exact Json.mem_stringsOfFields (List.mem_append_right _ List.mem_cons_self) ofContainer

theorem unused_mem_strings {row : String × List Entity} {e : Entity} (known : row ∈ r.container.unused)
    (unused : e ∈ row.2) (named : e.rawName = .str s) : s ∈ r.toJson.strings := by
  have ofRow : s ∈ (namesJson row.2).strings :=
    Json.mem_stringsOfItems (List.mem_map_of_mem unused) (named ▸ List.mem_singleton_self s)
  have ofUnused : s ∈ (Json.obj (r.container.unused.map fun row => (row.1, namesJson row.2))).strings :=
    Json.mem_stringsOfFields (List.mem_map_of_mem known) ofRow
  exact Json.mem_stringsOfFields
    (List.mem_append_right _ (List.mem_cons_of_mem _ (List.mem_cons_of_mem _ List.mem_cons_self))) ofUnused

end Report

namespace Container

/-- The page of a dashboard holds its report as it is written down, and this ends the script in which it
stands exactly if one of its texts does so, as the names of the container and of its unused entities may. -/
theorem dashboard_endsScript_iff (c : Container) (config : RulesConfig) (moment : Moment) :
    let report := (Report.ofContainer c config moment).toJson
    ((∃ d, Dashboard.ofReport report = .ok d) ↔ c.NamesDuplicates) ∧
    (∀ d charts now, Dashboard.ofReport report = .ok d → ∃ before behind,
      d.page charts now = before ++ "const data = " ++ report.prettyAscii ++ ";" ++ behind) ∧
    (EndsScript report.prettyAscii ↔ ∃ s ∈ report.strings, EndsScript s) ∧
    ∀ s, c.info.name = .str s ∨ (∃ row ∈ c.unused, ∃ e ∈ row.2, e.rawName = .str s) → s ∈ report.strings := by
  intro report
  refine ⟨(Dashboard.ofReport_needs c config moment).returns_iff, fun d charts now made => ?_,
    Json.endsScript_indented_iff 0 report, fun s named => ?_⟩
  · rw [← Dashboard.report_of_ofReport made]
    exact d.exists_page charts now
  · rcases named with ofContainer | ⟨row, known, e, unused, ofEntity⟩
    · exact Report.name_mem_strings ofContainer
    · exact Report.unused_mem_strings known unused ofEntity

/-- A container of this name without entities. -/
def titled (name : String) : Container where
  document := [("containerVersion", .obj [("container", .obj [("name", .str name)])])]
  version := [("container", .obj [("name", .str name)])]
  includePaused := true
  source := none
  version_eq := rfl

/-- The case of the letters does not matter. -/
theorem titled_endsScript :
    let report := (Report.ofContainer (titled "</SCRIPT>") .default ⟨2024, 1, 15, 12, 30, 45, 0⟩).toJson
    ∃ d before behind, Dashboard.ofReport report = .ok d ∧
      d.page d.figures.charts ⟨2024, 1, 15, 12, 31, 0, 0⟩ =
        before ++ "const data = " ++ report.prettyAscii ++ ";" ++ behind ∧ EndsScript report.prettyAscii := by
  intro report
  obtain ⟨shown, embedded, ends, names⟩ :=
    dashboard_endsScript_iff (titled "</SCRIPT>") .default ⟨2024, 1, 15, 12, 30, 45, 0⟩
  have named : (titled "</SCRIPT>").NamesDuplicates := by
    intro kind row grouped
    cases kind <;> cases grouped
  obtain ⟨d, made⟩ := shown.mpr named
  obtain ⟨before, behind, page⟩ := embedded d d.figures.charts ⟨2024, 1, 15, 12, 31, 0, 0⟩ made
  exact ⟨d, before, behind, made, page, ends.mpr ⟨"</SCRIPT>", names _ (Or.inl rfl), by decide⟩⟩

/-- A container with a tag that nothing fires and whose name ends a script. -/
def closingTag : Container where
  document := [("containerVersion", .obj [("tag", .arr [.obj [("tagId", "1"), ("name", "</script>")]])])]
  version := [("tag", .arr [.obj [("tagId", "1"), ("name", "</script>")]])]
  includePaused := true
  source := none
  version_eq := rfl

/-- The dashboard of the container is made, and the data in its script ends the script. -/
theorem closingTag_endsScript :
    let report := (Report.ofContainer closingTag .default ⟨2024, 1, 15, 12, 30, 45, 0⟩).toJson
    ∃ d before behind, Dashboard.ofReport report = .ok d ∧
      d.page d.figures.charts ⟨2024, 1, 15, 12, 31, 0, 0⟩ =
        before ++ "const data = " ++ report.prettyAscii ++ ";" ++ behind ∧ EndsScript report.prettyAscii := by
  intro report
  have named : closingTag.NamesDuplicates := by
    intro kind row grouped
    cases kind <;> cases grouped
  obtain ⟨d, made⟩ := (Dashboard.ofReport_needs closingTag .default ⟨2024, 1, 15, 12, 30, 45, 0⟩).returns named
  obtain ⟨before, behind, page⟩ := d.exists_page d.figures.charts ⟨2024, 1, 15, 12, 31, 0, 0⟩
  rw [Dashboard.report_of_ofReport made] at page
  have unused : closingTag.unusedTags = [⟨[("tagId", "1"), ("name", "</script>")]⟩] := rfl
  have known : ("tags", closingTag.unusedTags) ∈ closingTag.unused := List.mem_cons_self
  have within : "</script>" ∈ report.strings :=
    Report.unused_mem_strings known (unused ▸ List.mem_singleton_self _) rfl
  exact ⟨d, before, behind, made, page, (Json.endsScript_indented_iff 0 report).mpr ⟨_, within, by decide⟩⟩

end Container

end TagAudit
