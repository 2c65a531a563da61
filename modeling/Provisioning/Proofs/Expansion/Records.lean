/-
This file proves that the record of a feature does not depend on the order of its occurrences.
-/

import Provisioning.Proofs.Expansion.Merging
import Provisioning.Proofs.Expansion.Occurrences
import Provisioning.Proofs.Layout.Chain
import Provisioning.Proofs.Resolution.Provisioned

namespace Provisioning

/-- Each artifact has one version in a layout that has been built. -/
theorem Layout.distinct_of_build {repository : Repository} {request : Request} {layout : Layout}
    (isBuilt : Layout.build repository request = .ok layout) :
    Layout.ArtifactsDistinct (fun entry => entry.gav) layout.entries :=
  (Layout.contract_of_build isBuilt).distinct

namespace Layout

/-- The feature-pack at an index has a coordinate and declares a spec under a name. -/
def Declares (layout : Layout) (index : Nat) (gav : Gav) (name : String) (spec : FeatureSpec) :
    Prop :=
  ∃ entry, layout.entries[index]? = some entry ∧ entry.gav = gav ∧
    entry.pack.spec? name = some spec

/-- A coordinate and a name lead to one spec. -/
theorem Declares.unique {layout : Layout}
    (distinct : ArtifactsDistinct (fun entry => entry.gav) layout.entries) {index other : Nat}
    {gav : Gav} {name : String} {spec more : FeatureSpec}
    (declares : layout.Declares index gav name spec)
    (again : layout.Declares other gav name more) : index = other ∧ spec = more := by
  obtain ⟨entry, isEntry, entryGav, isSpec⟩ := declares
  obtain ⟨record, isRecord, recordGav, isMore⟩ := again
  have sameIndex : index = other :=
    distinct.position_eq isEntry isRecord (by rw [entryGav, recordGav, Gav.sameArtifact_self])
  have sameEntry : entry = record := by
    rw [sameIndex, isRecord, Option.some.injEq] at isEntry
    exact isEntry.symm
  rw [sameEntry, isMore, Option.some.injEq] at isSpec
  exact ⟨sameIndex, isSpec.symm⟩

end Layout

namespace CollectedFeature

variable {layout : Layout} {first second : CollectedFeature}

/-- A feature is an instance of one spec only, and its id is written in one way. -/
theorem Instance.eq_of_same
    (distinct : Layout.ArtifactsDistinct (fun entry => entry.gav) layout.entries)
    (isFirst : first.Instance layout) (isSecond : second.Instance layout)
    (same : first.id.same second.id = true) :
    first.id = second.id ∧ first.spec = second.spec ∧ first.index = second.index := by
  obtain ⟨sameSpecId, sameParams⟩ := ResolvedId.same_iff.1 same
  have declares : layout.Declares second.index first.id.gav first.id.specId.name second.spec := by
    rw [ResolvedId.gav, sameSpecId]
    exact isSecond.declared
  obtain ⟨sameIndex, sameSpec⟩ := Layout.Declares.unique distinct isFirst.declared declares
  have sameId : first.id.params = second.id.params := by
    apply OrderedMap.eq_of_keys
    · rw [isFirst.idKeys, isSecond.idKeys, sameSpec]
    · exact sameParams
  exact ⟨ResolvedId.ext sameSpecId sameId, sameSpec, sameIndex⟩

end CollectedFeature

namespace Merged

variable {layout : Layout} {found others : List CollectedFeature} {collected records : Collected}
  {known feature : CollectedFeature}

/-- A feature is recorded under its id, with its spec. -/
theorem eq_of_same (distinct : Layout.ArtifactsDistinct (fun entry => entry.gav) layout.entries)
    (instances : ∀ feature ∈ found, feature.Instance layout) (isMerged : Merged found collected)
    (isKnown : known ∈ collected) (listed : feature ∈ found)
    (same : feature.id.same known.id = true) :
    feature.id = known.id ∧ feature.spec = known.spec ∧ feature.index = known.index := by
  obtain ⟨origin, isOrigin, sameId, sameSpec, sameIndex⟩ := isMerged.origin known isKnown
  rw [← sameId] at same
  rw [← sameId, ← sameSpec, ← sameIndex]
  exact (instances feature listed).eq_of_same distinct (instances origin isOrigin) same

/-- Records are instances of their specs. -/
theorem isInstance (distinct : Layout.ArtifactsDistinct (fun entry => entry.gav) layout.entries)
    (instances : ∀ feature ∈ found, feature.Instance layout) (isMerged : Merged found collected)
    (isKnown : known ∈ collected) : known.Instance layout := by
  obtain ⟨origin, isOrigin, sameId, sameSpec, sameIndex⟩ := isMerged.origin known isKnown
  have own := instances origin isOrigin
  constructor
  case toGrounded =>
    constructor
    · rw [← sameId, ← sameSpec, ← sameIndex]
      exact own.declared
    · rw [← sameId, ← sameSpec]
      exact own.idParams
    · intro name value isId
      refine (isMerged.value known isKnown name value).2 ⟨origin, isOrigin, ?_, ?_⟩
      · rw [sameId, ResolvedId.same_self]
      · exact own.idValues name value (by rwa [sameId])
  case idKeys =>
    rw [← sameId, ← sameSpec]
    exact own.idKeys
  case valuesDeclared =>
    intro name value isValue
    obtain ⟨feature, listed, same, isGiven⟩ := (isMerged.value known isKnown name value).1 isValue
    obtain ⟨_, isSpec, _⟩ := isMerged.eq_of_same distinct instances isKnown listed same
    rw [← isSpec]
    exact (instances feature listed).valuesDeclared name value isGiven

/-- Whatever is merged of the same features is recorded alike. -/
theorem exists_alike (distinct : Layout.ArtifactsDistinct (fun entry => entry.gav) layout.entries)
    (instances : ∀ feature ∈ found, feature.Instance layout) (isMerged : Merged found collected)
    (again : Merged others records) (sameFound : ∀ feature, feature ∈ found ↔ feature ∈ others) :
    ∀ known ∈ collected, ∃ record ∈ records, Resolution.Alike known record := by
  intro known isKnown
  have otherInstances : ∀ feature ∈ others, feature.Instance layout :=
    fun feature listed => instances feature ((sameFound feature).2 listed)
  obtain ⟨origin, isOrigin, sameId, sameSpec, sameIndex⟩ := isMerged.origin known isKnown
  have isOther := (sameFound origin).1 isOrigin
  obtain ⟨record, isRecord, same⟩ := again.recorded origin isOther
  obtain ⟨recordId, recordSpec, recordIndex⟩ :=
    again.eq_of_same distinct otherInstances isRecord isOther (ResolvedId.same_symm same)
  have equalId : known.id = record.id := sameId.symm.trans recordId
  refine ⟨record, isRecord, equalId, sameSpec.symm.trans recordSpec,
    sameIndex.symm.trans recordIndex, fun name => ?_⟩
  apply Option.ext
  intro value
  rw [isMerged.value known isKnown, again.value record isRecord, equalId]
  simp only [sameFound]

end Merged

end Provisioning
