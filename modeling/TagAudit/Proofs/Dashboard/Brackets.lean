import Mathlib.Algebra.GroupWithZero.Nat
import TagAudit.Proofs.Dashboard.Order

namespace TagAudit

namespace Text

variable {c : Char}

/-- How often a character occurs in a text. -/
def occurrences (c : Char) (s : String) : Nat := s.toList.count c

/-- The characters at both ends of a tag. -/
def IsBracket (c : Char) : Prop := c = '<' ∨ c = '>'

/-- A text in which no tag starts or ends. -/
def Untagged (s : String) : Prop := '<' ∉ s.toList ∧ '>' ∉ s.toList

instance (s : String) : Decidable (Untagged s) := inferInstanceAs (Decidable (_ ∧ _))

theorem Untagged.occurrences_eq_zero {s : String} (untagged : Untagged s) (bracket : IsBracket c) :
    occurrences c s = 0 := by
  rcases bracket with rfl | rfl
  · exact List.count_eq_zero.mpr untagged.1
  · exact List.count_eq_zero.mpr untagged.2

theorem occurrences_append (c : Char) (s t : String) :
    occurrences c (s ++ t) = occurrences c s + occurrences c t := by
  rw [occurrences, String.toList_append, List.count_append, occurrences, occurrences]

theorem occurrences_join (c : Char) (parts : List String) :
    occurrences c (String.join parts) = (parts.map (occurrences c)).sum := by
  rw [occurrences, String.toList_join, List.count_flatMap]
  rfl

/-- A separator that does not have the character adds nothing. -/
theorem occurrences_intercalate {separator : String} (absent : occurrences c separator = 0) (parts : List String) :
    occurrences c (separator.intercalate parts) = (parts.map (occurrences c)).sum := by
  induction parts with
  | nil => rfl
  | cons part rest ih =>
    cases rest with
    | nil => simp
    | cons next further =>
      rw [String.intercalate_cons_cons, occurrences_append, occurrences_append, absent, ih, Nat.add_zero]
      exact List.sum_cons.symm

/-- Nothing that is escaped starts or ends a tag. -/
theorem untagged_escapeMarkup (s : String) : Untagged (escapeMarkup s) := by
  rw [Untagged, escapeMarkup, String.toList_ofList]
  simp only [List.mem_flatMap, not_exists, not_and]
  exact ⟨fun c _ => (escapeMarkupChar_no_angle c).1, fun c _ => (escapeMarkupChar_no_angle c).2⟩

end Text

theorem Numeral.untagged_ofInt (n : Int) : Text.Untagged (ofInt n) := by
  have digits (k : Nat) (c : Char) (noDigit : c.isDigit = false) : c ∉ ofNat k := fun member =>
    Bool.false_ne_true (noDigit.symm.trans (Nat.isDigit_of_mem_toDigits (by decide) (by decide) member))
  rw [Text.Untagged, ofInt, String.toList_ofList]
  split
  · simp [digits]
  · exact ⟨digits _ _ (by decide), digits _ _ (by decide)⟩

namespace Page

open Text

variable {c : Char}

namespace Element

mutual

/-- How often a character occurs in the texts of a piece. -/
def occurrences (c : Char) : Element → Nat
  | line text => Text.occurrences c text
  | blank => 0
  | block first inner last => Text.occurrences c first + occurrencesIn c inner + Text.occurrences c last

def occurrencesIn (c : Char) : List Element → Nat
  | [] => 0
  | e :: rest => occurrences c e + occurrencesIn c rest

end

end Element

theorem occurrences_indent (solid : c ≠ ' ') (depth : Nat) (text : String) :
    occurrences c (indent depth text) = occurrences c text := by
  have blanks : occurrences c (String.ofList (List.replicate (4 * depth) ' ')) = 0 := by
    rw [occurrences, String.toList_ofList, List.count_eq_zero, List.mem_replicate]
    exact fun blank => solid blank.2
  rw [indent, occurrences_append, blanks, Nat.zero_add]

mutual

/-- Indentation only adds blanks. -/
theorem sum_lines (solid : c ≠ ' ') (depth : Nat) : ∀ e : Element,
    ((e.lines depth).map (occurrences c)).sum = e.occurrences c
  | .line text => by
    rw [Element.lines, List.map_singleton, List.sum_singleton, occurrences_indent solid, Element.occurrences]
  | .blank => rfl
  | .block first inner last => by
    rw [Element.lines, List.map_append, List.sum_append, List.map_cons, List.sum_cons,
      sum_linesOf solid (depth + 1) inner, List.map_singleton, List.sum_singleton, occurrences_indent solid,
      occurrences_indent solid, Element.occurrences]

theorem sum_linesOf (solid : c ≠ ' ') (depth : Nat) : ∀ pieces : List Element,
    ((Element.linesOf depth pieces).map (occurrences c)).sum = Element.occurrencesIn c pieces
  | [] => rfl
  | e :: rest => by
    rw [Element.linesOf, List.map_append, List.sum_append, sum_lines solid depth e, sum_linesOf solid depth rest,
      Element.occurrencesIn]

end

/-- A piece that stands inside another one adds its own texts and nothing else. -/
theorem occurrences_inset (solid : c ≠ ' ') (sameLine : c ≠ '\n') (depth behind : Nat) (inner : List Element) :
    occurrences c (inset depth behind inner) = Element.occurrencesIn c inner := by
  have separator : occurrences c "\n" = 0 := List.count_eq_zero.mpr (by simpa using sameLine)
  have start : occurrences c "" = 0 := rfl
  rw [inset, occurrences_intercalate separator, List.map_append, List.sum_append, List.map_cons, List.sum_cons, start,
    sum_linesOf solid, List.map_singleton, List.sum_singleton, occurrences_indent solid, start, Nat.zero_add,
    Nat.add_zero]

/-- Attributes in which no tag starts or ends. -/
def Untagged (attributes : Attributes) : Prop := ∀ a ∈ attributes, Text.Untagged a.1 ∧ Text.Untagged a.2

instance (attributes : Attributes) : Decidable (Untagged attributes) :=
  inferInstanceAs (Decidable (∀ a ∈ attributes, _))

section

variable (bracket : IsBracket c) {name : String} {attributes : Attributes}
include bracket

theorem Untagged.occurrences_render (untagged : Untagged attributes) : occurrences c attributes.render = 0 := by
  rw [Attributes.render, occurrences_join, List.sum_eq_zero_iff_forall_eq_nat, List.map_map, List.forall_mem_map]
  intro a member
  have blank : occurrences c " " = 0 := Text.Untagged.occurrences_eq_zero (by decide) bracket
  have equals : occurrences c "=\"" = 0 := Text.Untagged.occurrences_eq_zero (by decide) bracket
  have quote : occurrences c "\"" = 0 := Text.Untagged.occurrences_eq_zero (by decide) bracket
  obtain ⟨key, value⟩ := untagged a member
  simp only [Function.comp_apply, occurrences_append, blank, equals, quote, key.occurrences_eq_zero bracket,
    value.occurrences_eq_zero bracket]

/-- A tag has one bracket at each end. -/
theorem occurrences_startTag (plain : Text.Untagged name) (untagged : Untagged attributes) :
    occurrences c (startTag name attributes) = 1 := by
  have ends : occurrences c "<" + occurrences c ">" = 1 := by
    rcases bracket with rfl | rfl <;> decide
  rw [startTag, occurrences_append, occurrences_append, occurrences_append, plain.occurrences_eq_zero bracket,
    untagged.occurrences_render bracket]
  exact ends

theorem occurrences_endTag (plain : Text.Untagged name) : occurrences c (endTag name) = 1 := by
  have ends : occurrences c "</" + occurrences c ">" = 1 := by
    rcases bracket with rfl | rfl <;> decide
  rw [endTag, occurrences_append, occurrences_append, plain.occurrences_eq_zero bracket]
  exact ends

theorem occurrences_around (plain : Text.Untagged name) (untagged : Untagged attributes) (text : String) :
    occurrences c (around name attributes text) = occurrences c text + 2 := by
  rw [around, occurrences_append, occurrences_append, occurrences_startTag bracket plain untagged,
    occurrences_endTag bracket plain]
  omega

theorem occurrences_inline (plain : Text.Untagged name) (untagged : Untagged attributes) (text : String) :
    (inline name attributes text).occurrences c = occurrences c text + 2 :=
  occurrences_around bracket plain untagged text

theorem occurrences_wrap (plain : Text.Untagged name) (untagged : Untagged attributes) (inner : List Element) :
    (wrap name attributes inner).occurrences c = Element.occurrencesIn c inner + 2 := by
  rw [wrap, Element.occurrences, occurrences_startTag bracket plain untagged, occurrences_endTag bracket plain]
  omega

end

end Page

namespace IssueRow

open Page Text

variable {c : Char} {r : IssueRow}

/-- The severity is one of the known ones, and the category is a text. -/
structure Classified (r : IssueRow) : Prop where
  severity : ∃ s ∈ severities, r.cell .severity = .str s
  category : (r.cell .category).isText = true

theorem Classified.keyed (classified : r.Classified) : r.Keyed := by
  obtain ⟨s, _, isSeverity⟩ := classified.severity
  exact ⟨by rw [isSeverity]; rfl, classified.category⟩

theorem untagged_styleClass (r : IssueRow) : Page.Untagged (classed r.styleClass) := by
  unfold styleClass
  split
  · decide
  · split <;> decide

theorem Classified.untagged_severity (classified : r.Classified) : Text.Untagged (r.cell .severity).text := by
  have known : ∀ s ∈ severities, Text.Untagged s := by decide
  obtain ⟨s, member, isSeverity⟩ := classified.severity
  rw [isSeverity]
  exact known s member

/-- What a row says has no influence on its tags. -/
theorem occurrences_render (bracket : IsBracket c) (classified : r.Classified) : occurrences c r.render = 17 := by
  have solid : c ≠ ' ' ∧ c ≠ '\n' := by rcases bracket with rfl | rfl <;> decide
  have shown (column : IssueColumn) : occurrences c (r.text column) = 0 :=
    (untagged_escapeMarkup _).occurrences_eq_zero bracket
  have cell (text : String) : (inline "td" [] text).occurrences c = occurrences c text + 2 :=
    occurrences_inline bracket (by decide) (by decide) text
  have strong (text : String) : occurrences c (around "strong" [] text) = occurrences c text + 2 :=
    occurrences_around bracket (by decide) (by decide) text
  have small (text : String) : occurrences c (around "small" (classed "text-muted") text) = occurrences c text + 2 :=
    occurrences_around bracket (by decide) (by decide) text
  have lineBreak : occurrences c "<br>" = 1 := by rcases bracket with rfl | rfl <;> decide
  rw [render, occurrences_inset solid.1 solid.2, Element.occurrencesIn, Element.occurrencesIn,
    occurrences_wrap bracket (by decide) r.untagged_styleClass]
  simp only [Element.occurrencesIn, cell, strong, small, lineBreak, occurrences_append, shown,
    classified.untagged_severity.occurrences_eq_zero bracket]

theorem occurrences_tableHead (bracket : IsBracket c) : occurrences c tableHead = 16 := by
  have solid : c ≠ ' ' := by rcases bracket with rfl | rfl <;> decide
  have separator : occurrences c "\n" = 0 := Text.Untagged.occurrences_eq_zero (by decide) bracket
  have header (text : String) : (inline "th" [] text).occurrences c = occurrences c text + 2 :=
    occurrences_inline bracket (by decide) (by decide) text
  have plain (text : String) (known : text ∈ ["Severity", "Category", "Entity", "Issue", "Action"]) :
      occurrences c text = 0 := by
    refine Text.Untagged.occurrences_eq_zero ?_ bracket
    revert text
    decide
  have tableBody : occurrences c "<tbody>" = 1 := by rcases bracket with rfl | rfl <;> decide
  have start : occurrences c "" = 0 := rfl
  unfold tableHead
  rw [occurrences_intercalate separator]
  simp only [List.map_append, List.sum_append, List.map_cons, List.map_nil, List.sum_cons, List.sum_nil,
    sum_linesOf solid, occurrences_indent solid, Element.occurrencesIn, Element.occurrences, header, start, tableBody,
    occurrences_startTag bracket (by decide : Text.Untagged "table")
      (by decide : Page.Untagged (classed "table table-striped table-hover")),
    occurrences_wrap bracket (by decide : Text.Untagged "thead") (by decide : Page.Untagged []),
    occurrences_wrap bracket (by decide : Text.Untagged "tr") (by decide : Page.Untagged [])]
  simp [plain]

/-- The number of brackets of one kind in a table of so many issues that shows no more rows than the limit. -/
def bracketCount (issues limit : Nat) : Nat :=
  16 + 17 * min limit issues + 2 + if limit < issues then 2 else 0

theorem occurrences_table (bracket : IsBracket c) {rows : List IssueRow} (classified : ∀ r ∈ rows, r.Classified)
    (limit : Nat) : occurrences c (table rows limit) = bracketCount rows.length limit := by
  have shown : upTo (limit : Int) rows = rows.take limit := by
    rw [upTo, if_neg (by omega), Int.toNat_natCast]
  have each : ((rows.take limit).map render).map (occurrences c) = List.replicate (min limit rows.length) 17 := by
    have alike : ∀ count ∈ ((rows.take limit).map render).map (occurrences c), count = 17 := by
      simp only [List.forall_mem_map]
      exact fun r member => occurrences_render bracket (classified r (List.mem_of_mem_take member))
    rw [List.eq_replicate_of_mem alike, List.length_map, List.length_map, List.length_take]
  have ends : occurrences c "</tbody></table>" = 2 := by rcases bracket with rfl | rfl <;> decide
  have left (count : Int) : occurrences c (around "p" (classed "text-muted")
      ("... and " ++ Numeral.ofInt count ++ " more issues in the JSON report")) = 2 := by
    have before : Text.Untagged "... and " := by decide
    have behind : Text.Untagged " more issues in the JSON report" := by decide
    rw [occurrences_around bracket (by decide) (by decide), occurrences_append, occurrences_append,
      before.occurrences_eq_zero bracket, (Numeral.untagged_ofInt count).occurrences_eq_zero bracket,
      behind.occurrences_eq_zero bracket]
  rw [table, occurrences_append, occurrences_append, occurrences_append, occurrences_tableHead bracket, ends,
    occurrences_join, shown, each, List.sum_replicate_nat, Nat.mul_comm, bracketCount]
  by_cases more : limit < rows.length
  · rw [if_pos (Int.ofNat_lt.mpr more), if_pos more, left]
  · rw [if_neg (mt Int.ofNat_lt.mp more), if_neg more]
    rfl

theorem Classified.shown (classified : r.Classified) {convert : Conversion} (lawful : Column.Lawful convert)
    (rows : List IssueRow) : (shown convert rows r).Classified := by
  obtain ⟨s, known, isSeverity⟩ := classified.severity
  have text : (r.cell .severity).isText = true := classified.keyed.1
  constructor
  · exact ⟨s, known, by rw [shown_cell_of_isText lawful text, isSeverity]⟩
  · rw [shown_cell_of_isText lawful classified.category]
    exact classified.category

theorem exists_table {report : Json} {issues : List Entity} (lists : report.ListsIssues issues)
    (classified : ∀ e ∈ issues, (ofEntity e).Classified) (limit : Nat) : ∃ rows, ofReport report = .ok rows ∧
      ∀ c, IsBracket c → occurrences c (table rows limit) = bracketCount issues.length limit := by
  have made := inFrame_eq Column.convert_lawful lists fun e member => (classified e member).keyed
  refine ⟨_, made, fun c bracket => ?_⟩
  rw [occurrences_table bracket, List.length_mergeSort, stored_eq_map, List.length_map, List.length_map]
  intro r member
  rw [List.mem_mergeSort, stored_eq_map, List.map_map] at member
  obtain ⟨e, listed, rfl⟩ := List.mem_map.mp member
  exact (classified e listed).shown Column.convert_lawful _

/-- The tables of two reports with equally many issues have equally many brackets of either kind, whatever the issues
say. -/
theorem table_brackets_eq {report other : Json} {issues others : List Entity} (lists : report.ListsIssues issues)
    (listsOthers : other.ListsIssues others) (classified : ∀ e ∈ issues, (ofEntity e).Classified)
    (classifiedOthers : ∀ e ∈ others, (ofEntity e).Classified) (equallyMany : issues.length = others.length)
    {limit : Int} (nonneg : 0 ≤ limit) :
    ∃ rows otherRows, ofReport report = .ok rows ∧ ofReport other = .ok otherRows ∧ ∀ c, IsBracket c →
      occurrences c (table rows limit) = bracketCount issues.length limit.toNat ∧
      occurrences c (table otherRows limit) = occurrences c (table rows limit) := by
  obtain ⟨limit, rfl⟩ := Int.eq_ofNat_of_zero_le nonneg
  obtain ⟨rows, made, count⟩ := exists_table lists classified limit
  obtain ⟨otherRows, alsoMade, otherCount⟩ := exists_table listsOthers classifiedOthers limit
  refine ⟨rows, otherRows, made, alsoMade, fun c bracket => ⟨count c bracket, ?_⟩⟩
  rw [otherCount c bracket, count c bracket, equallyMany]

/-- An issue that says the same in all columns with free text. -/
def repeating (severity text : String) : Entity :=
  ⟨[("severity", .str severity), ("category", .str text), ("entityName", .str text), ("title", .str text),
    ("message", .str text), ("action", .str text)]⟩

theorem repeating_classified {severity : String} (known : severity ∈ severities) (text : String) :
    ∀ e ∈ [repeating severity text], (ofEntity e).Classified := by
  intro e member
  rw [List.mem_singleton.mp member]
  exact ⟨⟨severity, known, rfl⟩, rfl⟩

/-- What would start a script in each column adds no tag. -/
theorem script_adds_no_tag : ∃ rows otherRows,
    ofReport (.obj [("issues", .arr ([repeating "high" "<script>alert(1)</script>"].map Entity.toJson))]) = .ok rows ∧
    ofReport (.obj [("issues", .arr ([repeating "low" ""].map Entity.toJson))]) = .ok otherRows ∧ ∀ c, IsBracket c →
      occurrences c (table rows 100) = 35 ∧ occurrences c (table otherRows 100) = 35 := by
  obtain ⟨rows, otherRows, made, alsoMade, count⟩ := table_brackets_eq (listsIssues_of_arr _) (listsIssues_of_arr _)
    (repeating_classified (by decide : "high" ∈ severities) "<script>alert(1)</script>")
    (repeating_classified (by decide : "low" ∈ severities) "") rfl (by decide : (0 : Int) ≤ 100)
  refine ⟨rows, otherRows, made, alsoMade, fun c bracket => ?_⟩
  obtain ⟨here, there⟩ := count c bracket
  exact ⟨here, there.trans here⟩

end IssueRow

end TagAudit
