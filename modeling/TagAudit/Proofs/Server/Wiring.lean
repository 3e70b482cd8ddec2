import TagAudit.Proofs.Cleanup.Redirection
import TagAudit.Proofs.Server.Credentials

namespace TagAudit.Server

/-- What can be said to be missing in server tags. -/
def wantedTitles : List String :=
  ["GA4 Measurement ID", "Google Ads Conversion ID", "Conversion Label"] ++
    templateVendors.flatMap fun v => v.credentials.map (·.title)

/-- What can stand in a parameter of a server tag: a fixed text, a switch, one of some constants, or what is
missing. -/
def Filling.Wired (constants : List Constant) : Filling → Prop
  | .text value => value ∈ ["all", "conversion"]
  | .switch _ => True
  | .constant name => ∃ c ∈ constants, c.name = name
  | .missing what => what ∈ wantedTitles

namespace Draft

variable {d : Draft}

theorem wired_referring {constants : List Constant} {constant : Option String} {what : String}
    (known : ∀ name, constant = some name → ∃ c ∈ constants, c.name = name) (wanted : what ∈ wantedTitles)
    (key : String) : (Parameter.referring key constant what).filling.Wired constants := by
  cases constant with
  | none => exact wanted
  | some name => exact known name rfl

theorem constant_of_findConstant? {part name : String} (found : d.findConstant? part = some name) :
    ∃ c ∈ d.constants, c.name = name := by
  obtain ⟨c, first, named⟩ := Option.map_eq_some_iff.mp found
  exact ⟨c, List.mem_of_find?_eq_some first, named⟩

theorem Sound.constant_of_constantFor? (sound : d.Sound) {value : Json} {name : String}
    (found : d.constantFor? value = some name) : ∃ c ∈ d.constants, c.name = name := by
  obtain ⟨text, _, registered⟩ := Option.bind_eq_some_iff.mp found
  exact List.mem_map.mp (sound.names_of_values_known _ (mem_of_lookup registered))

theorem ga4Values_wired {constants : List Constant} {constant : Option String}
    (known : ∀ name, constant = some name → ∃ c ∈ constants, c.name = name) :
    ∀ p ∈ ga4Values constant, p.filling.Wired constants := by
  refine List.forall_mem_cons.mpr ⟨wired_referring known (by decide) "measurementId", ?_⟩
  simp [Filling.Wired]

/-- Whatever a tag is like, its server tag refers to constants of the draft. -/
theorem Sound.valuesFor_wired (sound : d.Sound) (tag : Entity) (type : Json) :
    ∀ p ∈ d.valuesFor tag type, p.filling.Wired d.constants := by
  have valued (value : Json) : ∀ name, d.constantFor? value = some name → ∃ c ∈ d.constants, c.name = name :=
    fun _ => sound.constant_of_constantFor?
  unfold valuesFor
  dsimp only
  split
  · rename_i v vendor
    unfold vendorValues
    refine List.forall_mem_append.mpr ⟨List.forall_mem_map.mpr fun c needed => ?_, ?_⟩
    · have listed := (mem_of_templateVendor? vendor).1
      have wanted : c.title ∈ wantedTitles :=
        List.mem_append_right _ (List.mem_flatMap.mpr ⟨v, listed, List.mem_map_of_mem needed⟩)
      exact wired_referring (fun _ => constant_of_findConstant?) wanted c.parameter
    · split <;> simp [Filling.Wired]
  · split
    · refine List.forall_mem_cons.mpr ⟨wired_referring (valued _) (by decide) _, ?_⟩
      refine List.forall_mem_cons.mpr ⟨wired_referring (valued _) (by decide) _, ?_⟩
      simp [Filling.Wired]
    · refine List.forall_mem_cons.mpr ⟨wired_referring (valued _) (by decide) _, ?_⟩
      simp [Filling.Wired]
    · exact ga4Values_wired (valued _)

theorem addBaseTags_wired (fresh : d.tags = []) (s : Selection) : ∀ t ∈ (d.addBaseTags s).tags,
    ∀ p ∈ t.parameters, p.filling.Wired d.constants := by
  intro t member
  rcases addBaseTags_cases fresh s member with ⟨_, _, parameters⟩ | ⟨_, _, switches⟩
  · rw [parameters]
    exact ga4Values_wired fun _ => constant_of_findConstant?
  · intro p isParameter
    obtain ⟨on, filling⟩ := switches p isParameter
    rw [filling]
    trivial

end Draft

end TagAudit.Server

namespace TagAudit.ServerGenerator

open Server

variable (g : ServerGenerator) (s : Selection)

theorem draftOf_wired : ∀ t ∈ (g.draftOf s).tags, ∀ p ∈ t.parameters, p.filling.Wired (g.draftOf s).constants := by
  obtain ⟨servers, tags, served, _⟩ := g.draftOf_tags s
  obtain ⟨_, _, _, _, _, whole⟩ := (g.routed s).addTags_frame s g.container g.catalog
  have constants : (g.routed s).constants = (g.draftOf s).constants := by
    rw [draftOf_eq, whole]
  rw [tags]
  refine List.forall_mem_append.mpr ⟨?_, fun server member => ?_⟩
  · rw [← constants]
    exact Draft.addBaseTags_wired (g.routed_tags s) s
  · obtain ⟨tag, _, serves⟩ := forall₂_of_mem_right served member
    rw [serves.parameters]
    exact (g.draftOf_sound s).valuesFor_wired tag server.type

end TagAudit.ServerGenerator
