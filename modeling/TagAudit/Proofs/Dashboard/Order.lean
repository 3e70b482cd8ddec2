import Mathlib.Data.List.Nodup
import Mathlib.Data.Prod.Lex
import Mathlib.Data.String.Basic
import TagAudit.Dashboard.Issues
import TagAudit.Entity

namespace TagAudit

/-- Stable sorting arranges the numbered members of a list; those that compare as equal keep their numbers in
order. -/
theorem exists_arrangement {α : Type} {le : α → α → Bool}
    (trans : ∀ a b c, le a b = true → le b c = true → le a c = true)
    (total : ∀ a b, (le a b || le b a) = true) (xs : List α) : ∃ order : List (α × Nat), order.Perm xs.zipIdx ∧
      xs.mergeSort le = order.map (·.1) ∧
      order.Pairwise fun a b => le a.1 b.1 = true ∧ (le b.1 a.1 = true → a.2 < b.2) := by
  have perm := List.mergeSort_perm xs.zipIdx (List.zipIdxLE le)
  have numbered : ((xs.zipIdx.mergeSort (List.zipIdxLE le)).map (·.2)).Nodup := by
    rw [(perm.map _).nodup_iff, List.zipIdx_map_snd]
    exact List.nodup_range'
  have sorted := List.pairwise_mergeSort (List.zipIdxLE_trans trans) (List.zipIdxLE_total total) xs.zipIdx
  refine ⟨_, perm, List.mergeSort_zipIdx.symm, (sorted.and (List.pairwise_map.mp numbered)).imp ?_⟩
  rintro a b ⟨before, apart⟩
  unfold List.zipIdxLE at before
  split at before
  · rename_i first
    refine ⟨first, fun back => ?_⟩
    rw [if_pos back, decide_eq_true_iff] at before
    omega
  · cases before

/-- The issues that a report lists. -/
def Json.ListsIssues (report : Json) (issues : List Entity) : Prop :=
  ∃ listed, report.getFieldOr "issues" (.arr []) = .ok listed ∧ listed.elements = .ok (issues.map Entity.toJson)

namespace Column

/-- What is known of how a data frame stores the cells of a column. -/
structure Lawful (convert : Conversion) : Prop where
  /-- Texts, truth values, lists and objects are stored as they are. -/
  kept : ∀ column v, isNumeric v = false → convert column v = v
  /-- The types for numbers are for columns of numbers and gaps alone. -/
  kept_beside : ∀ column v other, isNumber v = true → other ∈ column → isNumeric other = false →
    convert column v = v
  /-- What is changed is stored as a floating-point number; for a gap this is the one that is no number. -/
  cast : ∀ column v, convert column v = v ∨ convert column v = toFloat v

/-- A cell is kept, unless it is a gap or one of numbers and gaps alone. -/
theorem Lawful.cases {convert : Conversion} (lawful : Lawful convert) (column : List Json) (v : Json) :
    convert column v = v ∨ convert column v = toFloat v ∧
      (v.isNull = true ∨ isNumber v = true ∧ ∀ other ∈ column, isNumeric other = true) := by
  by_cases gap : v.isNull = true
  · exact (lawful.cast column v).imp_right fun cast => ⟨cast, Or.inl gap⟩
  by_cases number : isNumber v = true
  · by_cases numbers : ∀ other ∈ column, isNumeric other = true
    · exact (lawful.cast column v).imp_right fun cast => ⟨cast, Or.inr ⟨number, numbers⟩⟩
    · simp only [not_forall, exists_prop] at numbers
      obtain ⟨other, member, noNumber⟩ := numbers
      exact Or.inl (lawful.kept_beside column v other number member (Bool.eq_false_iff.mpr noNumber))
  · have noNumber : isNumeric v = false := by
      rw [isNumeric, Bool.eq_false_iff.mpr number, Bool.eq_false_iff.mpr gap, Bool.or_false]
    exact Or.inl (lawful.kept column v noNumber)

theorem isFloating_of_other {column : List Json} {other : Json} (member : other ∈ column)
    (noNumber : isNumeric other = false) : isFloating column = false := by
  have mixed : column.all isNumeric = false := by
    refine Bool.eq_false_iff.mpr fun all => ?_
    exact Bool.false_ne_true (noNumber.symm.trans (List.all_eq_true.mp all other member))
  rw [isFloating, mixed, Bool.false_and, Bool.false_and, Bool.false_and]

theorem toFloat_of_other {v : Json} (noNumber : isNumeric v = false) : toFloat v = v := by
  cases v with
  | int => cases noNumber
  | null => cases noNumber
  | _ => rfl

theorem convert_lawful : Lawful convert where
  kept column v noNumber := by
    unfold convert
    split
    · exact toFloat_of_other noNumber
    · rfl
  kept_beside column v other _ member noNumber := by
    rw [convert, isFloating_of_other member noNumber]
    rfl
  cast column v := by
    unfold convert
    split
    · exact Or.inr rfl
    · exact Or.inl rfl

end Column

namespace IssueRow

variable {convert : Conversion} {rows : List IssueRow} {r s : IssueRow}

/-- The row of an issue. What the issue lacks is filled in as the columns say. -/
def ofEntity (issue : Entity) : IssueRow := ⟨fun c => issue.getOr c.field c.default⟩

/-- Severity and category are texts. -/
def Keyed (r : IssueRow) : Prop := (r.cell .severity).isText = true ∧ (r.cell .category).isText = true

/-- A row as it is stored among others. -/
def shown (convert : Conversion) (rows : List IssueRow) (r : IssueRow) : IssueRow :=
  ⟨fun c => convert (rows.map (·.cell c)) (r.cell c)⟩

def category (r : IssueRow) : String := (r.cell .category).textOrEmpty

/-- Of two rows with their positions in a report, the more severe one comes first, then the one of the first category,
and then the one that is listed first. -/
def Precedes (a b : IssueRow × Nat) : Prop :=
  a.1.rank < b.1.rank ∨ a.1.rank = b.1.rank ∧
    (a.1.category < b.1.category ∨ a.1.category = b.1.category ∧ a.2 < b.2)

instance (a b : IssueRow × Nat) : Decidable (Precedes a b) := inferInstanceAs (Decidable (_ ∨ _))

theorem Precedes.asymm {a b : IssueRow × Nat} (before : Precedes a b) : ¬Precedes b a := by
  intro behind
  rcases before with severe | ⟨sameRank, before⟩
  · rcases behind with other | ⟨same, _⟩
    · omega
    · omega
  · rcases behind with other | ⟨_, behind⟩
    · omega
    · rcases before with first | ⟨sameCategory, listed⟩
      · rcases behind with second | ⟨same, _⟩
        · exact lt_asymm first second
        · exact absurd same first.ne'
      · rcases behind with second | ⟨_, later⟩
        · exact absurd sameCategory second.ne'
        · omega

/-- The rows of a report can be put into one order only. -/
theorem eq_of_arranged {order other : List (IssueRow × Nat)} (perm : order.Perm other)
    (arranged : order.Pairwise Precedes) (alsoArranged : other.Pairwise Precedes) : order = other :=
  perm.eq_of_pairwise (fun _ _ _ _ before behind => absurd behind before.asymm) arranged alsoArranged

theorem stored_eq_map (convert : Conversion) (rows : List IssueRow) :
    stored convert rows = rows.map (shown convert rows) := by
  have column (c : IssueColumn) : (IssueColumn.all.map fun c => (c, rows.map (·.cell c))).lookup c =
      some (rows.map (·.cell c)) := by
    cases c <;> rfl
  refine List.map_congr_left fun r _ => ?_
  simp only [shown, column, Option.getD_some]

theorem shown_cell_of_isText (lawful : Column.Lawful convert) {c : IssueColumn} (text : (r.cell c).isText = true) :
    (shown convert rows r).cell c = r.cell c := by
  obtain ⟨s, isText⟩ := Json.exists_of_isText text
  exact lawful.kept _ _ (by rw [isText]; rfl)

theorem Keyed.rank_shown (keyed : r.Keyed) (lawful : Column.Lawful convert) :
    (shown convert rows r).rank = r.rank := by
  rw [rank, shown_cell_of_isText lawful keyed.1, rank]

theorem Keyed.category_shown (keyed : r.Keyed) (lawful : Column.Lawful convert) :
    (shown convert rows r).category = r.category := by
  rw [category, shown_cell_of_isText lawful keyed.2, category]

theorem Keyed.shown (keyed : r.Keyed) (lawful : Column.Lawful convert) (rows : List IssueRow) :
    (shown convert rows r).Keyed := by
  rw [Keyed, shown_cell_of_isText lawful keyed.1, shown_cell_of_isText lawful keyed.2]
  exact keyed

theorem Keyed.checkKeys (keyed : r.Keyed) : ∃ done, r.checkKeys = .ok done := by
  obtain ⟨severity, isSeverity⟩ := Json.exists_of_isText keyed.1
  obtain ⟨category, isCategory⟩ := Json.exists_of_isText keyed.2
  refine ⟨(), ?_⟩
  rw [IssueRow.checkKeys, isSeverity, isCategory]
  rfl

/-- Issues are put into a table if their severities and categories are texts. -/
theorem inFrame_eq (lawful : Column.Lawful convert) {report : Json} {issues : List Entity}
    (lists : report.ListsIssues issues) (keyed : ∀ e ∈ issues, (ofEntity e).Keyed) :
    inFrame convert report = .ok ((stored convert (issues.map ofEntity)).mergeSort before) := by
  obtain ⟨listed, found, elements⟩ := lists
  have read : (issues.map Entity.toJson).mapM ofIssue = .ok (issues.map ofEntity) := by
    rw [List.mapM_map]
    exact List.mapM_pure
  have stillKeyed : ∀ r ∈ stored convert (issues.map ofEntity), r.Keyed := by
    rw [stored_eq_map]
    exact List.forall_mem_map.mpr fun r member => (List.forall_mem_map.mpr keyed r member).shown lawful _
  obtain ⟨done, checked⟩ := exists_mapM fun r member => (stillKeyed r member).checkKeys
  rw [inFrame, found, ok_bind, elements, ok_bind, read, ok_bind]
  dsimp only
  rw [checked]
  rfl

/-- What rows are sorted by. -/
def sortKey (r : IssueRow) : Nat ×ₗ String := toLex (r.rank, r.category)

theorem Keyed.before_eq (keyed : r.Keyed) (other : s.Keyed) : before r s = decide (r.sortKey ≤ s.sortKey) := by
  obtain ⟨first, isFirst⟩ := Json.exists_of_isText keyed.2
  obtain ⟨second, isSecond⟩ := Json.exists_of_isText other.2
  have compared : categoryBefore (.str first) (.str second) = decide (first ≤ second) := rfl
  rw [before, isFirst, isSecond, compared, Bool.eq_iff_iff, decide_eq_true_iff, sortKey, sortKey,
    Prod.Lex.toLex_le_toLex]
  simp [category, isFirst, isSecond, Json.textOrEmpty]

theorem precedes_of_sortKey {a b : IssueRow × Nat} (ordered : a.1.sortKey ≤ b.1.sortKey)
    (stable : b.1.sortKey ≤ a.1.sortKey → a.2 < b.2) : Precedes a b := by
  rcases ordered.lt_or_eq with less | same
  · exact (Prod.Lex.toLex_lt_toLex.mp less).imp_right (And.imp_right Or.inl)
  · obtain ⟨sameRank, sameCategory⟩ := Prod.mk.inj (toLex_inj.mp same)
    exact Or.inr ⟨sameRank, Or.inr ⟨sameCategory, stable same.ge⟩⟩

/-- Rows with texts as severities and categories are sorted stably by rank and category. -/
theorem exists_order (lawful : Column.Lawful convert) (keyed : ∀ r ∈ rows, r.Keyed) :
    ∃ order : List (IssueRow × Nat), order.Perm rows.zipIdx ∧
      (stored convert rows).mergeSort before = order.map (fun p => shown convert rows p.1) ∧
      order.Pairwise Precedes := by
  have trans (a b c : IssueRow) (first : decide (a.sortKey ≤ b.sortKey) = true)
      (second : decide (b.sortKey ≤ c.sortKey) = true) : decide (a.sortKey ≤ c.sortKey) = true :=
    decide_eq_true ((of_decide_eq_true first).trans (of_decide_eq_true second))
  have total (a b : IssueRow) : (decide (a.sortKey ≤ b.sortKey) || decide (b.sortKey ≤ a.sortKey)) = true := by
    simpa using le_total a.sortKey b.sortKey
  obtain ⟨order, perm, sorted, arranged⟩ := exists_arrangement trans total rows
  refine ⟨order, perm, ?_, arranged.imp fun {a b} compared => ?_⟩
  · rw [stored_eq_map, ← List.map_mergeSort (r := fun a b => decide (a.sortKey ≤ b.sortKey)), sorted, List.map_map]
    · rfl
    · intro a isA b isB
      rw [((keyed a isA).shown lawful _).before_eq ((keyed b isB).shown lawful _), sortKey, sortKey, sortKey, sortKey,
        (keyed a isA).rank_shown lawful, (keyed a isA).category_shown lawful, (keyed b isB).rank_shown lawful,
        (keyed b isB).category_shown lawful]
  · exact precedes_of_sortKey (of_decide_eq_true compared.1) fun back => compared.2 (decide_eq_true back)

/-- Each issue of a report becomes one row. The rows are in the order of the severities, with unknown ones at the end,
then of the categories, and then of the report. Their cells are those of the issues: only a number in a column of
numbers and gaps may be stored as a floating-point number, and a gap as what is no number. -/
theorem inFrame_arranged (lawful : Column.Lawful convert) {report : Json} {issues : List Entity}
    (lists : report.ListsIssues issues) (keyed : ∀ e ∈ issues, (ofEntity e).Keyed) :
    ∃ order : List (IssueRow × Nat),
      inFrame convert report = .ok (order.map fun p => shown convert (issues.map ofEntity) p.1) ∧
      order.Perm (issues.map ofEntity).zipIdx ∧ order.Pairwise Precedes ∧
      ∀ r c, (shown convert (issues.map ofEntity) r).cell c = r.cell c ∨
        (shown convert (issues.map ofEntity) r).cell c = Column.toFloat (r.cell c) ∧
        ((r.cell c).isNull = true ∨ Column.isNumber (r.cell c) = true ∧
          ∀ e ∈ issues, Column.isNumeric ((ofEntity e).cell c) = true) := by
  obtain ⟨order, perm, sorted, arranged⟩ := exists_order lawful (List.forall_mem_map.mpr keyed)
  rw [inFrame_eq lawful lists keyed, sorted]
  refine ⟨order, rfl, perm, arranged, fun r c => (lawful.cases _ (r.cell c)).imp_right ?_⟩
  refine And.imp_right (Or.imp_right (And.imp_right fun numbers e member => ?_))
  exact numbers _ (List.mem_map_of_mem (List.mem_map_of_mem member))

/-- An issue with a severity and a title. -/
def titled (severity title : Json) : Entity := ⟨[("severity", severity), ("category", "cleanup"), ("title", title)]⟩

theorem titled_keyed (severity : String) (title : Json) : (ofEntity (titled (.str severity) title)).Keyed :=
  ⟨rfl, rfl⟩

theorem listsIssues_of_arr (issues : List Entity) :
    (Json.obj [("issues", .arr (issues.map Entity.toJson))]).ListsIssues issues :=
  ⟨_, rfl, rfl⟩

/-- An unknown severity comes last, and issues that compare as equal stay as they are listed. -/
theorem tied_arranged : ∃ rows, ofReport (.obj [("issues", .arr ([titled "odd" "Odd", titled "critical" "Critical",
      titled "low" "First", titled "low" "Second"].map Entity.toJson))]) = .ok rows ∧
    rows.map (·.cell .title) = [.str "Critical", .str "First", .str "Second", .str "Odd"] := by
  have keyed : ∀ e ∈ [titled "odd" "Odd", titled "critical" "Critical", titled "low" "First", titled "low" "Second"],
      (ofEntity e).Keyed := by
    simp only [List.forall_mem_cons]
    exact ⟨titled_keyed _ _, titled_keyed _ _, titled_keyed _ _, titled_keyed _ _, fun _ member => nomatch member⟩
  obtain ⟨order, made, perm, arranged, _⟩ := inFrame_arranged Column.convert_lawful (listsIssues_of_arr _) keyed
  let sorted : List (IssueRow × Nat) := [(ofEntity (titled "critical" "Critical"), 1),
    (ofEntity (titled "low" "First"), 2), (ofEntity (titled "low" "Second"), 3)]
  let last : List (IssueRow × Nat) := [(ofEntity (titled "odd" "Odd"), 0)]
  have rotated : order.Perm (sorted ++ last) := perm.trans (List.perm_append_comm : (last ++ sorted).Perm _)
  rw [eq_of_arranged rotated arranged (by decide)] at made
  exact ⟨_, made, rfl⟩

/-- The table of two issues with numbers as titles does not have the title of the first one: it is no floating-point
number, but the second title is one. -/
theorem roundedTitle_lost :
    let issues := [titled "low" (.int 9007199254740993), titled "low" (.float 0.5)]
    let report := Json.obj [("issues", .arr (issues.map Entity.toJson))]
    report.ListsIssues issues ∧ (∀ e ∈ issues, (ofEntity e).Keyed) ∧
      ∃ rows, ofReport report = .ok rows ∧ ¬rows.Perm (issues.map ofEntity) := by
  intro issues report
  have keyed : ∀ e ∈ issues, (ofEntity e).Keyed := by
    simp only [issues, List.forall_mem_cons]
    exact ⟨titled_keyed _ _, titled_keyed _ _, fun _ member => nomatch member⟩
  have made := inFrame_eq Column.convert_lawful (listsIssues_of_arr issues) keyed
  refine ⟨listsIssues_of_arr issues, keyed, _, made, fun same => ?_⟩
  have titles : (stored Column.convert (issues.map ofEntity)).map (·.cell .title) =
      [.float (Float.ofInt 9007199254740993), .float 0.5] := rfl
  have kept := ((List.mergeSort_perm _ _).symm.trans same).map (·.cell .title)
  rw [titles] at kept
  have inside : Json.int 9007199254740993 ∈ [Json.float (Float.ofInt 9007199254740993), .float 0.5] :=
    kept.mem_iff.mpr List.mem_cons_self
  simp at inside

end IssueRow

end TagAudit
