import TagAudit.Proofs.Server.Credentials
import TagAudit.Proofs.Text.Plain

namespace TagAudit.Server

/-- What is left to be filled in for the values that cannot be copied, in the words of the first request for each
value. -/
def asked (rs : List Request) : List String :=
  (rs.filterMap (·.value.text?)).filterMap fun text =>
    if text.isEmpty || isConcrete text then none else (rs.find? (·.value.isStr text)).map (·.what)

/-- A text that is not empty, but cannot be copied as it is. -/
def Deferred (text : String) : Prop := text ≠ "" ∧ isConcrete text = false

theorem mem_asked {rs : List Request} {what : String} : what ∈ asked rs ↔
    ∃ text r, Deferred text ∧ rs.find? (·.value.isStr text) = some r ∧ r.what = what := by
  simp only [asked, List.mem_filterMap]
  constructor
  · rintro ⟨text, _, made⟩
    split at made
    · cases made
    · rename_i deferred
      obtain ⟨r, first, ofFirst⟩ := Option.map_eq_some_iff.mp made
      exact ⟨text, r, by simpa [Deferred] using deferred, first, ofFirst⟩
  · rintro ⟨text, r, ⟨nonempty, unknown⟩, first, rfl⟩
    have hit := List.find?_some first
    have value : r.value = .str text := Json.isStr_iff.mp hit
    refine ⟨text, ⟨r, List.mem_of_find?_eq_some first, by rw [value]; rfl⟩, ?_⟩
    simp [nonempty, unknown, first]

theorem find?_concat_eq_some_iff {rs : List Request} {r first : Request} {text : String} :
    (rs ++ [r]).find? (·.value.isStr text) = some first ↔ rs.find? (·.value.isStr text) = some first ∨
      (∀ other ∈ rs, other.value ≠ .str text) ∧ r.value = .str text ∧ r = first := by
  rw [List.find?_append, Option.or_eq_some_iff, List.find?_eq_none, List.find?_singleton]
  simp only [Json.isStr_iff, Option.ite_none_right_eq_some, Option.some.injEq]

theorem mem_asked_concat {rs : List Request} {r : Request} {what : String} : what ∈ asked (rs ++ [r]) ↔
    what ∈ asked rs ∨ ∃ text, Deferred text ∧ (∀ other ∈ rs, other.value ≠ .str text) ∧ r.value = .str text ∧
      r.what = what := by
  simp only [mem_asked, find?_concat_eq_some_iff]
  constructor
  · rintro ⟨text, first, deferred, old | ⟨fresh, value, rfl⟩, ofFirst⟩
    · exact Or.inl ⟨text, first, deferred, old, ofFirst⟩
    · exact Or.inr ⟨text, deferred, fresh, value, ofFirst⟩
  · rintro (⟨text, first, deferred, old, ofFirst⟩ | ⟨text, deferred, fresh, value, ofFirst⟩)
    · exact ⟨text, first, deferred, Or.inl old, ofFirst⟩
    · exact ⟨text, r, deferred, Or.inr ⟨fresh, value, rfl⟩, ofFirst⟩

theorem request_of_mem_asked {tags : List Entity} {what : String} (asks : what ∈ asked (tags.flatMap requests)) :
    ∃ tag ∈ tags, ∃ r ∈ requests tag, r.what = what ∧ ∃ text, r.value = .str text ∧ Deferred text := by
  obtain ⟨text, r, deferred, first, ofFirst⟩ := mem_asked.mp asks
  obtain ⟨tag, isTag, isRequest⟩ := List.mem_flatMap.mp (List.mem_of_find?_eq_some first)
  have hit := List.find?_some first
  exact ⟨tag, isTag, r, isRequest, ofFirst, text, Json.isStr_iff.mp hit, deferred⟩

theorem references_of_concrete {text : String} (concrete : isConcrete text = true) : Text.references text = [] := by
  rw [isConcrete, Bool.and_eq_true, Bool.not_eq_true'] at concrete
  exact Text.references_of_plain (by simpa using concrete.2)

theorem references_placeholder (what : String) : Text.references (placeholder what) = Text.references what :=
  Text.references_within (by decide) (by decide) (by decide) what

/-- A name with a number behind it can be referenced if the name can. -/
theorem NamedAfter.referable {base name : String} (named : NamedAfter base name)
    (referable : Text.Referable base.toList) : Text.Referable name.toList := by
  obtain rfl | ⟨number, rfl⟩ := named
  · exact referable
  · have spelled : (Draft.numberedName base number).toList = base.toList ++ ' ' :: Nat.toDigits 10 number := by
      simp [Draft.numberedName, Numeral.ofInt_natCast, Numeral.ofNat]
    have digit : ∀ c ∈ Nat.toDigits 10 number, c.isDigit = true := fun c member =>
      Nat.isDigit_of_mem_toDigits (by decide) (by decide) member
    have nonempty : Nat.toDigits 10 number ≠ [] := Nat.toDigits_ne_nil
    have ends : (' ' :: Nat.toDigits 10 number).getLast? = some ((Nat.toDigits 10 number).getLast nonempty) := by
      rw [List.getLast?_cons, List.getLast?_eq_some_getLast nonempty]
      rfl
    rw [spelled]
    refine referable.append ends (Text.isBlank_of_isDigit (digit _ (List.getLast_mem nonempty))) ?_
    rintro (_ | ⟨_, closing⟩)
    exact absurd (digit _ closing) (by decide)

theorem conversionLabelName_referable (tag : Entity) : Text.Referable (Draft.conversionLabelName tag).toList := by
  let plain := " ".intercalate (Text.plainBlocks Text.isBlank tag.name)
  let default := if tag.type.isStr "adsct" then "remarketing" else "conversion"
  let title := if plain.isEmpty then default else plain
  have shape : (Draft.conversionLabelName tag).toList =
      (constantName "google ads").toList ++ (' ' :: title.toList ++ " conversion label".toList) := by
    simp [Draft.conversionLabelName, constantName, title, plain, default]
  have unclosed : '\x7d' ∉ title.toList := by
    unfold title
    split
    · unfold default
      split <;> decide
    · intro closing
      rcases Text.mem_intercalate closing with between | ⟨block, member, inside⟩
      · exact absurd between (by decide)
      · exact absurd (Text.isPlain_of_mem_plainBlocks member inside) (by decide)
  have start : Text.Referable (constantName "google ads").toList := by decide
  have ends : (' ' :: title.toList ++ " conversion label".toList).getLast? = some 'l' := by
    rw [List.getLast?_append]
    rfl
  rw [shape]
  refine start.append ends (by decide) ?_
  simp [unclosed]

/-- What a tag asks for: an identifier of GA4, one of Google Ads, or a conversion label. -/
theorem requests_cases {tag : Entity} {r : Request} (member : r ∈ requests tag) :
    r = ⟨measurementName, "GA4 Measurement ID, z.B. G-XXXXXXXXXX", Draft.measurementId tag⟩ ∨
      r = ⟨constantName "google ads conversion id", "Google Ads Conversion ID, z.B. AW-123456789",
        tag.parameterValue "conversionId"⟩ ∨
      tag.type.isOneOf ["awct", "adsct"] = true ∧ r = ⟨Draft.conversionLabelName tag,
        "Conversion Label fuer " ++ if tag.name.isEmpty then "Tag" else tag.name,
        tag.parameterValue "conversionLabel"⟩ := by
  unfold requests at member
  split at member
  · exact Or.inl (List.mem_singleton.mp member)
  · exact Or.inl (List.mem_singleton.mp member)
  · rename_i type
    simp only [List.mem_cons, List.not_mem_nil, or_false] at member
    exact Or.inr (member.imp_right fun isLabel => ⟨by rw [type]; decide, isLabel⟩)
  · rename_i type
    simp only [List.mem_cons, List.not_mem_nil, or_false] at member
    exact Or.inr (member.imp_right fun isLabel => ⟨by rw [type]; decide, isLabel⟩)
  · cases member

theorem requests_referable {tag : Entity} {r : Request} (member : r ∈ requests tag) :
    Text.Referable r.base.toList := by
  have measurement : Text.Referable measurementName.toList := by decide
  have conversionId : Text.Referable (constantName "google ads conversion id").toList := by decide
  rcases requests_cases member with rfl | rfl | ⟨_, rfl⟩
  · exact measurement
  · exact conversionId
  · exact conversionLabelName_referable tag

theorem credentials_plain : ∀ v ∈ templateVendors, ∀ c ∈ v.credentials,
    Text.Referable (constantName c.name).toList ∧ Text.references (placeholder c.title) = [] := by
  decide +kernel

namespace Draft

variable {rs : List Request} {d : Draft}

/-- The constants of a draft after some requests: each can be referenced by its name, and holds no references
unless its value is left to be filled in. -/
structure Filled (rs : List Request) (d : Draft) : Prop where
  referable : ∀ c ∈ d.constants, Text.Referable c.name.toList
  plain : ∀ c ∈ d.constants, Text.references c.value = [] ∨ ∃ what ∈ asked rs, c.value = placeholder what
  waiting : ∀ what ∈ asked rs, ∃ c ∈ d.constants, c.value = placeholder what
  known_iff : ∀ text, text ≠ "" → ((d.constantOf.lookup text).isSome = true ↔ ∃ r ∈ rs, r.value = .str text)

theorem Filled.ensureConstant (filled : Filled rs d) {name value : String} (referable : Text.Referable name.toList)
    (plain : Text.references value = []) : Filled rs (d.ensureConstant name value) := by
  unfold Draft.ensureConstant
  split
  · exact filled
  · refine ⟨?_, ?_, ?_, filled.known_iff⟩
    · refine List.forall_mem_append.mpr ⟨filled.referable, ?_⟩
      simpa using referable
    · refine List.forall_mem_append.mpr ⟨filled.plain, ?_⟩
      simpa using Or.inl plain
    · intro what asks
      obtain ⟨c, member, waits⟩ := filled.waiting what asks
      exact ⟨c, List.mem_append_left _ member, waits⟩

/-- A request for a value that is no text, or has a constant, changes nothing. -/
theorem Filled.repeated (filled : Filled rs d) {r : Request}
    (known : ∀ text, text ≠ "" → r.value = .str text → ∃ other ∈ rs, other.value = .str text) :
    Filled (rs ++ [r]) d := by
  have same (what : String) : what ∈ asked (rs ++ [r]) ↔ what ∈ asked rs := by
    rw [mem_asked_concat, or_iff_left]
    rintro ⟨text, deferred, fresh, value, _⟩
    obtain ⟨other, member, old⟩ := known text deferred.1 value
    exact fresh other member old
  refine ⟨filled.referable, ?_, ?_, ?_⟩
  · simp only [same]
    exact filled.plain
  · simp only [same]
    exact filled.waiting
  · intro text nonempty
    rw [filled.known_iff text nonempty]
    constructor
    · rintro ⟨other, member, value⟩
      exact ⟨other, List.mem_append_left _ member, value⟩
    · rintro ⟨other, member, value⟩
      rcases List.mem_append.mp member with old | new
      · exact ⟨other, old, value⟩
      · obtain rfl := List.mem_singleton.mp new
        exact known text nonempty value

/-- The first request for a value makes its constant. -/
theorem Filled.first (filled : Filled rs d) {r : Request} (referable : Text.Referable r.base.toList) {text : String}
    (value : r.value = .str text) (nonempty : text ≠ "") (fresh : ∀ other ∈ rs, other.value ≠ .str text) :
    Filled (rs ++ [r]) { d.addConstant (d.freeName r.base) (if isConcrete text then text else placeholder r.what) with
      constantOf := d.constantOf ++ [(text, d.freeName r.base)] } where
  referable := by
    refine List.forall_mem_append.mpr ⟨filled.referable, ?_⟩
    simpa using (d.freeName_namedAfter r.base).referable referable
  plain := by
    refine List.forall_mem_append.mpr ⟨fun c member => ?_, fun c member => ?_⟩
    · refine (filled.plain c member).imp_right ?_
      rintro ⟨what, asks, waits⟩
      exact ⟨what, mem_asked_concat.mpr (Or.inl asks), waits⟩
    · obtain rfl := List.mem_singleton.mp member
      dsimp only
      split
      · rename_i concrete
        exact Or.inl (references_of_concrete concrete)
      · rename_i deferred
        refine Or.inr ⟨r.what, mem_asked_concat.mpr (Or.inr ⟨text, ⟨nonempty, ?_⟩, fresh, value, rfl⟩), rfl⟩
        exact Bool.eq_false_iff.mpr deferred
  waiting := by
    intro what asks
    rcases mem_asked_concat.mp asks with old | ⟨other, deferred, _, isOther, rfl⟩
    · obtain ⟨c, member, waits⟩ := filled.waiting what old
      exact ⟨c, List.mem_append_left _ member, waits⟩
    · obtain rfl := Json.str.inj (value.symm.trans isOther)
      refine ⟨_, List.mem_append_right _ List.mem_cons_self, ?_⟩
      dsimp only
      rw [deferred.2]
      rfl
  known_iff := by
    intro other nonempty
    rw [List.lookup_append, Option.isSome_or, Bool.or_eq_true, filled.known_iff other nonempty]
    simp only [List.mem_append, List.mem_singleton, or_and_right, exists_or, exists_eq_left, value, Json.str.injEq]
    refine or_congr_right ?_
    rw [List.lookup_cons]
    cases same : other == text with
    | true => exact iff_of_true rfl (beq_iff_eq.mp same).symm
    | false => exact iff_of_false (by simp) fun isText => beq_eq_false_iff_ne.mp same isText.symm

theorem Filled.addRequest (filled : Filled rs d) {r : Request} (referable : Text.Referable r.base.toList) :
    Filled (rs ++ [r]) (d.addRequest r) := by
  unfold Draft.addRequest addValue
  cases value : r.value with
  | str text =>
    dsimp only
    split
    · rename_i known
      rw [Bool.or_eq_true, String.isEmpty_iff] at known
      refine filled.repeated fun other nonempty isOther => ?_
      obtain rfl := Json.str.inj (value.symm.trans isOther)
      exact (filled.known_iff text nonempty).mp (known.resolve_left nonempty)
    · rename_i fresh
      rw [Bool.or_eq_true, String.isEmpty_iff, not_or] at fresh
      obtain ⟨nonempty, unknown⟩ := fresh
      rw [filled.known_iff text nonempty] at unknown
      exact filled.first referable value nonempty fun other member isText => unknown ⟨other, member, isText⟩
  | _ =>
    refine filled.repeated fun text _ isText => ?_
    rw [value] at isText
    cases isText

/-- The requests of a tag are all made, and its credentials ask for nothing. -/
theorem Filled.addConstantsOf (filled : Filled rs d) (tag : Entity) :
    Filled (rs ++ requests tag) (d.addConstantsOf tag) := by
  have made : Filled (rs ++ requests tag) ((requests tag).foldl Draft.addRequest d) := by
    have referable : ∀ r ∈ requests tag, Text.Referable r.base.toList := fun r => requests_referable
    generalize requests tag = own at referable
    induction own generalizing d rs with
    | nil => rwa [List.append_nil]
    | cons r rest ih =>
      rw [List.append_cons]
      exact ih (filled.addRequest (referable r List.mem_cons_self)) fun other member =>
        referable other (List.mem_cons_of_mem _ member)
  rw [addConstantsOf_eq]
  refine List.foldlRecOn (motive := Filled (rs ++ requests tag)) _ _ made fun _ before c needed => ?_
  obtain ⟨v, listed, _, ofVendor⟩ := vendor_of_credential needed
  obtain ⟨referable, plain⟩ := credentials_plain v listed c ofVendor
  exact before.ensureConstant referable plain

theorem Filled.foldl_addConstantsOf (filled : Filled rs d) (tags : List Entity) :
    Filled (rs ++ tags.flatMap requests) (tags.foldl Draft.addConstantsOf d) := by
  induction tags generalizing d rs with
  | nil => rwa [List.flatMap_nil, List.append_nil]
  | cons tag rest ih =>
    rw [List.flatMap_cons, ← List.append_assoc]
    exact ih (filled.addConstantsOf tag)

theorem addressOr_plain {address : Option String}
    (plain : ∀ url, address = some url → Text.contains url "\x7b\x7b" = false) :
    Text.references (addressOr address) = [] := by
  have default : Text.references addressPlaceholder = [] := by decide
  unfold addressOr
  split
  · exact default
  · exact default
  · exact Text.references_of_plain (plain _ rfl)

theorem Unstocked.filled (unstocked : d.Unstocked) (s : Selection) {address : Option String}
    (plain : ∀ url, address = some url → Text.contains url "\x7b\x7b" = false) :
    Filled (s.tags.flatMap requests) (d.addConstants s address) := by
  have start : Filled [] d := by
    refine ⟨?_, ?_, ?_, ?_⟩
    · simp [unstocked.constants]
    · simp [unstocked.constants]
    · simp [asked]
    · simp [unstocked.constantOf]
  have named : Text.Referable (constantName "transport url").toList := by decide
  exact (start.foldl_addConstantsOf s.tags).ensureConstant named (addressOr_plain plain)

end Draft

end TagAudit.Server

namespace TagAudit.ServerGenerator

open Server

theorem draftOf_filled (g : ServerGenerator) (s : Selection)
    (plain : ∀ url, g.address = some url → Text.contains url "\x7b\x7b" = false) :
    Draft.Filled (s.tags.flatMap requests) (g.draftOf s) := by
  obtain ⟨constants, constantOf⟩ := g.draftOf_constants s
  have filled := (Draft.addFolders_unstocked s).filled s plain
  exact ⟨constants ▸ filled.referable, constants ▸ filled.plain, constants ▸ filled.waiting,
    constantOf ▸ filled.known_iff⟩

end TagAudit.ServerGenerator
