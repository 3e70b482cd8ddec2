import TagAudit.Proofs.Text.Plain

namespace TagAudit.Text

/-- A text without the underscores at its ends. -/
def trimUnderscores (s : List Char) : List Char := (s.dropWhile (· == '_')).rdropWhile (· == '_')

theorem trimUnderscores_isInfix (s : List Char) : trimUnderscores s <:+: s :=
  (List.rdropWhile_prefix _ _).isInfix.trans (List.dropWhile_suffix _).isInfix

theorem head?_trimUnderscores (s : List Char) : (trimUnderscores s).head? ≠ some '_' := by
  intro first
  obtain ⟨rest, shape⟩ := List.head?_eq_some_iff.mp first
  obtain ⟨behind, whole⟩ := List.rdropWhile_prefix (· == '_') (s.dropWhile (· == '_'))
  have start := List.head?_dropWhile_not (· == '_') s
  rw [trimUnderscores] at shape
  rw [← whole, shape] at start
  cases start

theorem getLast?_trimUnderscores (s : List Char) : (trimUnderscores s).getLast? ≠ some '_' := by
  intro last
  have nonempty : trimUnderscores s ≠ [] := by
    intro none
    rw [none] at last
    cases last
  rw [List.getLast?_eq_some_getLast nonempty] at last
  exact List.rdropWhile_last_not _ _ nonempty (beq_iff_eq.mpr (Option.some.inj last))

/-- What separates the words of an event. -/
def separatesWords (c : Char) : Bool := isBlank c || c == '_'

theorem separatesWords_def : separatesWords = fun c => isBlank c || c == '_' := rfl

/-- The characters of the lower case of a text that are plain or separate words. -/
def keptOf (text : String) : List Char := (lower text).toList.filter fun c => isPlain c || separatesWords c

/-- The four passes over a text: other characters than plain ones and separators of its lower case are left out, runs
of blanks become underscores, runs of underscores become one, and none is left at the ends. -/
def passes (text : String) : List Char := trimUnderscores (collapse (· == '_') (collapse isBlank (keptOf text)))

theorem blocks_passes (text : String) :
    blocks separatesWords (passes text) = blocks separatesWords (keptOf text) := by
  have blank (c : Char) (ofKind : isBlank c = true) : separatesWords c = true := by simp [separatesWords, ofKind]
  have underscore (c : Char) (ofKind : (c == '_') = true) : separatesWords c = true := by
    simp [separatesWords, ofKind]
  rw [passes, trimUnderscores, blocks_rdropWhile underscore, blocks_dropWhile underscore, blocks,
    blocksFrom_collapse underscore rfl, blocksFrom_collapse blank rfl, blocks]

theorem eq_underscore_of_mem_passes {text : String} {c : Char} (member : c ∈ passes text)
    (separates : separatesWords c = true) : c = '_' := by
  rcases mem_collapse ((trimUnderscores_isInfix _).subset member) with here | ⟨inside, other⟩
  · exact here
  · rcases mem_collapse inside with here | ⟨_, solid⟩
    · exact here
    · simp [separatesWords, solid, other] at separates

/-- The passes leave the plain blocks of a text, joined by single underscores. -/
theorem passes_eq (text : String) : passes text = ("_".intercalate (plainBlocks separatesWords text)).toList := by
  have collapsed : ¬ ['_', '_'] <:+: collapse (· == '_') (collapse isBlank (keptOf text)) := collapse_single rfl _
  have single : ¬ ['_', '_'] <:+: passes text := fun inside => collapsed (inside.trans (trimUnderscores_isInfix _))
  have made : ['_'].intercalate (blocks separatesWords (passes text)) = passes text :=
    intercalate_blocks (fun _ => eq_underscore_of_mem_passes) single (head?_trimUnderscores _)
      (getLast?_trimUnderscores _)
  have parts : (plainBlocks separatesWords text).map String.toList = blocks separatesWords (keptOf text) := by
    rw [plainBlocks, List.map_map]
    exact (List.map_congr_left fun part _ => String.toList_ofList).trans (List.map_id _)
  rw [← made, blocks_passes, String.toList_intercalate, parts]
  rfl

theorem slug_of_no_words {text : String} (none : passes text = []) (default : String) :
    slug default text = default := by
  have empty : ("_".intercalate (plainBlocks separatesWords text)).isEmpty = true := by
    rw [String.isEmpty_iff, ← String.toList_eq_nil_iff, ← passes_eq, none]
  rw [slug, ← separatesWords_def, if_pos empty]

theorem slug_of_words {text : String} (begun : passes text ≠ []) (default : String) :
    slug default text = "_".intercalate (plainBlocks separatesWords text) := by
  have nonempty : ¬("_".intercalate (plainBlocks separatesWords text)).isEmpty = true := by
    rwa [String.isEmpty_iff, ← String.toList_eq_nil_iff, ← passes_eq]
  rw [slug, ← separatesWords_def, if_neg nonempty]

/-- A slug is what the passes leave, or the default if they leave nothing. -/
theorem slug_eq_passes (default text : String) :
    slug default text = if passes text = [] then default else String.ofList (passes text) := by
  split
  · rename_i none
    exact slug_of_no_words none default
  · rename_i begun
    rw [slug_of_words begun, passes_eq, String.ofList_toList]

/-- A word of lower-case ASCII letters and digits. -/
def IsWord (word : String) : Prop := word ≠ "" ∧ ∀ c ∈ word.toList, isPlain c = true

instance (word : String) : Decidable (IsWord word) :=
  decidable_of_iff (word ≠ "" ∧ word.toList.all isPlain = true) (and_congr_right' List.all_eq_true)

/-- One or more words, joined by single underscores. -/
def IsSlug (s : String) : Prop :=
  ∃ words : List String, words ≠ [] ∧ (∀ word ∈ words, IsWord word) ∧ s = "_".intercalate words

theorem isWord_of_mem_plainBlocks {isSeparator : Char → Bool} {text word : String}
    (member : word ∈ plainBlocks isSeparator text) : IsWord word := by
  refine ⟨?_, fun c => isPlain_of_mem_plainBlocks member⟩
  obtain ⟨block, isBlock, rfl⟩ := List.mem_map.mp member
  exact fun none => ne_nil_of_mem_blocksFrom isBlock (String.ofList_eq_empty_iff.mp none)

theorem isSlug_slug {default : String} (isSlug : IsSlug default) (text : String) : IsSlug (slug default text) := by
  by_cases begun : passes text = []
  · rwa [slug_of_no_words begun]
  · refine ⟨plainBlocks separatesWords text, fun none => begun ?_, fun word => isWord_of_mem_plainBlocks,
      slug_of_words begun default⟩
    rw [passes_eq, none]
    rfl

theorem isPlain_iff {c : Char} :
    isPlain c = true ↔ 97 ≤ c.toNat ∧ c.toNat ≤ 122 ∨ 48 ≤ c.toNat ∧ c.toNat ≤ 57 := by
  have lower : c.isLower = (decide (97 ≤ c.val) && decide (c.val ≤ 122)) := rfl
  have digit : c.isDigit = (decide (48 ≤ c.val) && decide (c.val ≤ 57)) := rfl
  rw [isPlain, lower, digit]
  simp [UInt32.le_iff_toNat_le]

theorem solid_of_isPlain {c : Char} (plain : isPlain c = true) : separatesWords c = false := by
  have range := isPlain_iff.mp plain
  have ne : c ≠ '_' := by
    rintro rfl
    cases plain
  have solid : isBlank c = false := by
    rw [isBlank, if_pos (by omega)]
    simp only [Bool.or_eq_false_iff, Bool.and_eq_false_iff, decide_eq_false_iff_not]
    omega
  simp [separatesWords, solid, ne]

/-- Plain characters and underscores have no other lower case. -/
theorem lowerIn_eq_self {c : Char} (plain : isPlain c = true ∨ c = '_') (before after : List Char) :
    lowerIn before c after = [c] := by
  rcases plain with plain | rfl
  · have range := isPlain_iff.mp plain
    have ne : c ≠ 'Σ' := by
      rintro rfl
      cases plain
    have small : ¬('A'.val ≤ c.val ∧ c.val ≤ 'Z'.val) := by
      simp only [UInt32.le_iff_toNat_le, Char.toNat_val, Char.reduceToNat]
      omega
    have same : c.toLower = c := dif_neg small
    rw [lowerIn, if_neg ne, lowerChar, if_pos (by omega), same]
  · rfl

theorem lowerFrom_eq_self {s : List Char} (plain : ∀ c ∈ s, isPlain c = true ∨ c = '_') (before : List Char) :
    lowerFrom before s = s := by
  induction s generalizing before with
  | nil => rfl
  | cons c rest ih =>
    rw [lowerFrom, lowerIn_eq_self (plain c List.mem_cons_self),
      ih fun d member => plain d (List.mem_cons_of_mem c member)]
    rfl

theorem IsSlug.plain {s : String} (isSlug : IsSlug s) : ∀ c ∈ s.toList, isPlain c = true ∨ c = '_' := by
  obtain ⟨words, _, proper, rfl⟩ := isSlug
  intro c member
  rcases mem_intercalate member with between | ⟨word, among, inside⟩
  · exact Or.inr (List.mem_singleton.mp between)
  · exact Or.inl ((proper word among).2 c inside)

theorem keptOf_of_isSlug {s : String} (isSlug : IsSlug s) : keptOf s = s.toList := by
  have lowered : (lower s).toList = s.toList := by
    rw [lower, String.toList_ofList, lowerFrom_eq_self isSlug.plain]
  rw [keptOf, lowered, List.filter_eq_self]
  intro c member
  rcases isSlug.plain c member with plain | rfl
  · rw [plain, Bool.true_or]
  · rfl

/-- The words of a slug are its plain blocks. -/
theorem plainBlocks_intercalate {words : List String} (begun : words ≠ []) (proper : ∀ word ∈ words, IsWord word) :
    plainBlocks separatesWords ("_".intercalate words) = words := by
  have kept : keptOf ("_".intercalate words) = ['_'].intercalate (words.map String.toList) := by
    rw [keptOf_of_isSlug ⟨words, begun, proper, rfl⟩, String.toList_intercalate]
    rfl
  have apart : ∀ part ∈ words.map String.toList, part ≠ [] ∧ ∀ c ∈ part, separatesWords c = false := by
    rw [List.forall_mem_map]
    intro word member
    obtain ⟨nonempty, plain⟩ := proper word member
    exact ⟨fun none => nonempty (String.toList_eq_nil_iff.mp none), fun c inside =>
      solid_of_isPlain (plain c inside)⟩
  have parts : plainBlocks separatesWords ("_".intercalate words) =
      (blocks separatesWords (keptOf ("_".intercalate words))).map String.ofList := rfl
  rw [parts, kept, blocks_intercalate rfl apart, List.map_map]
  exact (List.map_congr_left fun word _ => String.ofList_toList).trans (List.map_id _)

/-- A slug is left as it is. -/
theorem slug_of_isSlug {s : String} (isSlug : IsSlug s) (default : String) : slug default s = s := by
  obtain ⟨words, begun, proper, rfl⟩ := isSlug
  have same := plainBlocks_intercalate begun proper
  have left : passes ("_".intercalate words) ≠ [] := by
    rw [passes_eq, same, Ne, String.toList_eq_nil_iff]
    intro none
    rw [none] at same
    exact begun same.symm
  rw [slug_of_words left, same]

/-- The name of an event that has none is a slug. -/
theorem isSlug_unknown : IsSlug "unknown_event" := ⟨["unknown", "event"], by decide, by decide, rfl⟩

/-- What four passes leave of a text is in normal form: words of lower-case ASCII letters and digits, joined by single
underscores, with none at an end. The slug of a slug is the slug. -/
theorem slug_normal (text : String) :
    slug "unknown_event" text = (if passes text = [] then "unknown_event" else String.ofList (passes text)) ∧
    IsSlug (slug "unknown_event" text) ∧
    (slug "unknown_event" text).toList.head? ≠ some '_' ∧ (slug "unknown_event" text).toList.getLast? ≠ some '_' ∧
    slug "unknown_event" (slug "unknown_event" text) = slug "unknown_event" text := by
  have normal := isSlug_slug isSlug_unknown text
  refine ⟨slug_eq_passes _ text, normal, ?_, ?_, slug_of_isSlug normal _⟩
  · rw [slug_eq_passes]
    split
    · decide
    · rw [String.toList_ofList]
      exact head?_trimUnderscores _
  · rw [slug_eq_passes]
    split
    · decide
    · rw [String.toList_ofList]
      exact getLast?_trimUnderscores _

/-- Letters outside ASCII are left out, and so is the dot that the lower case of the first one has. -/
example : slug "unknown_event" "_İstanbul –\t_ Straße  7!" = "istanbul_strae_7" := by decide

end TagAudit.Text
