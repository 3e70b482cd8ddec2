import TagAudit.Command.Audit
import TagAudit.Command.Disk
import TagAudit.Proofs.Command.CopyIndicator

namespace TagAudit

namespace Path

theorem slash_not_mem_fileName (path : String) : '/' ∉ (fileName path).toList := by
  rw [fileName, String.toList_ofList, List.mem_reverse]
  exact fun member => absurd (List.mem_takeWhile_imp member) (by decide)

/-- A name stands behind the last slash of any path that it is joined to. -/
theorem fileName_join {name : String} (plain : '/' ∉ name.toList) (directory : String) :
    fileName (join directory name) = name := by
  have behind {front : List Char} (closed : front.reverse.takeWhile (· != '/') = []) :
      fileName (String.ofList (front ++ name.toList)) = name := by
    have inside : ∀ c ∈ name.toList.reverse, (c != '/') = true := fun c member =>
      bne_iff_ne.mpr fun same => plain (same ▸ List.mem_reverse.mp member)
    rw [fileName, String.toList_ofList, List.reverse_append, List.takeWhile_append_of_pos inside, closed,
      List.append_nil, List.reverse_reverse, String.ofList_toList]
  have joined (front : String) : String.ofList (front.toList ++ name.toList) = front ++ name := by
    rw [← String.toList_append, String.ofList_toList]
  have unrooted : Text.startsWith name "/" = false := by
    rw [Text.startsWith, ← Bool.not_eq_true, List.isPrefixOf_iff_prefix]
    exact fun starts => plain (starts.subset List.mem_cons_self)
  rw [join, unrooted, if_neg Bool.false_ne_true]
  split
  · rename_i ends
    rw [← joined]
    refine behind ?_
    rcases Bool.or_eq_true_iff.mp ends with none | slash
    · rw [String.isEmpty_iff.mp none]
      rfl
    · obtain ⟨rest, same⟩ := List.isSuffixOf_iff_suffix.mp slash
      rw [← same, List.reverse_append]
      exact List.takeWhile_cons_of_neg (by decide)
  · have whole := joined (directory ++ "/")
    rw [← whole]
    refine behind ?_
    rw [String.toList_append, List.reverse_append]
    exact List.takeWhile_cons_of_neg (by decide)

end Path

namespace FileName

theorem dropIndicators_sublist (s : List Char) : (dropIndicators s).Sublist s := by
  induction s using piecewise with
  | nil => exact List.Sublist.refl []
  | indicator i rest indicates ih =>
    rw [dropIndicators_append indicates]
    exact ih.trans (List.sublist_append_right i rest)
  | single c rest absent ih =>
    rw [dropIndicators_cons absent]
    exact ih.cons_cons c

theorem thin_sublist (mark : Char) (s : List Char) : (thin mark s).Sublist s := by
  induction s with
  | nil => exact List.Sublist.refl []
  | cons c rest ih =>
    rw [thin]
    split
    · exact ih.cons c
    · exact ih.cons_cons c

theorem trim_sublist (s : List Char) : (Text.trim s).Sublist s := by
  have start (s : List Char) : (Text.trimStart s).Sublist s := (List.dropWhile_suffix _).sublist
  have ended := (start (Text.trimStart s).reverse).reverse
  rw [List.reverse_reverse] at ended
  exact ended.trans (start s)

/-- A clean name has only characters of the name, in their order. -/
theorem clean_sublist (name : String) : (clean name).toList.Sublist name.toList := by
  rw [clean, String.toList_ofList, squeeze_eq_thin, closeDots_eq_thin]
  exact (thin_sublist _ _).trans ((trim_sublist _).trans ((thin_sublist _ _).trans (dropIndicators_sublist _)))

end FileName

namespace Program

theorem runOn_printAll {α : Type} (lines : List String) (next : Program α) (d : Disk) :
    (printAll lines >>= fun _ => next).runOn d =
      ⟨(next.runOn d).result, (next.runOn d).disk, lines ++ (next.runOn d).output, (next.runOn d).complaints⟩ := by
  induction lines with
  | nil => rfl
  | cons line rest ih =>
    have first : (printAll (line :: rest) >>= fun _ => next) = say line (printAll rest >>= fun _ => next) := rfl
    rw [first, runOn, ih]
    rfl

theorem runOn_lookAt {α : Type} (path : String) (next : Entry → Program α) (d : Disk) :
    (lookAt path >>= next).runOn d = (next (d.look path)).runOn d := rfl

end Program

namespace Audit

open FileName

/-- The path that is proposed for a copy. -/
def suggestion (path : String) : String := Path.join (Path.parent path) (clean (Path.fileName path))

/-- The path passes without a word. -/
def Accepts (path : String) : Prop := ∀ d, (refuseCopy path).runOn d = ⟨.ok (), d, [], []⟩

/-- The run ends with status 1 and proposes a name and a path instead. -/
def Rejects (path name proposed : String) : Prop :=
  ∀ d : Disk, ∃ lines, (refuseCopy path).runOn d = ⟨.error 1, d, lines, []⟩ ∧
    "    1. Rename the file to: " ++ name ∈ lines ∧
    ("    mv \"" ++ path ++ "\" \"" ++ proposed ++ "\"" ∈ lines ∨
      "    python " ++ Help.programName ++ " \"" ++ proposed ++ "\"" ∈ lines)

theorem rejects_of_isCopy {path : String} (copy : IsCopy (Path.fileName path).toList) :
    Rejects path (clean (Path.fileName path)) (suggestion path) := by
  intro d
  unfold refuseCopy
  dsimp only
  cases found : indicator? (Path.fileName path).toList with
  | none => exact absurd copy (indicator?_eq_none_iff.mp found)
  | some indicator =>
    dsimp only
    rw [Program.runOn_printAll, Program.runOn_lookAt]
    -- What is said last depends on whether something stands at the proposed path.
    split
    · rw [Program.runOn_printAll]
      refine ⟨_, rfl, ?_, Or.inr ?_⟩
      · simp
      · simp [suggestion]
    · rw [Program.runOn_printAll]
      refine ⟨_, rfl, ?_, Or.inl ?_⟩
      · simp
      · simp [suggestion]

theorem accepts_iff {path : String} : Accepts path ↔ ¬IsCopy (Path.fileName path).toList := by
  constructor
  · intro accepts copy
    obtain ⟨lines, run, _⟩ := rejects_of_isCopy copy (.empty [])
    cases (accepts _).symm.trans run
  · intro original d
    rw [refuseCopy, indicator?_eq_none_iff.mpr original]
    rfl

/-- A copy is refused and another name proposed for it, which has no copy indicator, and so is accepted, exactly if
the indicators of the name hid none. -/
theorem suggestion_accepted_iff {path : String} (copy : IsCopy (Path.fileName path).toList) :
    Rejects path (clean (Path.fileName path)) (suggestion path) ∧
    (¬IsCopy (clean (Path.fileName path)).toList ↔ ¬HidesIndicator (Path.fileName path).toList) ∧
    (Accepts (suggestion path) ↔ ¬HidesIndicator (Path.fileName path).toList) := by
  have plain : '/' ∉ (clean (Path.fileName path)).toList := fun member =>
    Path.slash_not_mem_fileName path ((clean_sublist _).subset member)
  refine ⟨rejects_of_isCopy copy, not_congr (isCopy_clean_iff _), ?_⟩
  rw [accepts_iff, suggestion, Path.fileName_join plain, isCopy_clean_iff]

theorem export_suggested : IsCopy (Path.fileName "in/export (1).json").toList ∧
    Rejects "in/export (1).json" "export.json" "in/export.json" ∧ Accepts "in/export.json" := by
  have copy : IsCopy (Path.fileName "in/export (1).json").toList := by decide
  have cleaned : clean (Path.fileName "in/export (1).json") = "export.json" := by decide
  have proposed : suggestion "in/export (1).json" = "in/export.json" := by decide
  have single : ¬HidesIndicator (Path.fileName "in/export (1).json").toList := by
    rw [← isCopy_clean_iff]
    decide
  obtain ⟨rejected, _, accepted⟩ := suggestion_accepted_iff copy
  rw [cleaned, proposed] at rejected
  rw [proposed] at accepted
  exact ⟨copy, rejected, accepted.mpr single⟩

/-- Without its indicator the number in parentheses is an indicator itself. -/
theorem numberedNumber_refused : IsCopy (Path.fileName "export ((1)2).json").toList ∧
    clean (Path.fileName "export ((1)2).json") = "export (2).json" ∧
    IsCopy (clean (Path.fileName "export ((1)2).json")).toList ∧ ¬Accepts (suggestion "export ((1)2).json") := by
  have proposed : suggestion "export ((1)2).json" = "export (2).json" := by decide
  refine ⟨by decide, by decide, by decide, ?_⟩
  rw [proposed, accepts_iff]
  decide

end Audit

end TagAudit
