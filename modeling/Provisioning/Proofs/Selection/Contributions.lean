/-
This file says in which order the configs of a layout are contributed.
-/

import Provisioning.Proofs.Layout.Chain
import Provisioning.Selection.Configs

namespace Provisioning.Layout

/-- An entry contributes the configs that it declares before those that are defined for it. -/
def entryParts (layout : Layout) (index : Nat) (entry : LayoutEntry) : List ConfigPart :=
  layout.declaredParts index entry ++ layout.definedParts index entry

/-- What is contributed for the entry at an index, if there is one. -/
def partsAt (layout : Layout) (index : Nat) : List ConfigPart :=
  match layout.entries[index]? with
  | some entry => layout.entryParts index entry
  | none => []

/-- The installation contributes what it defines. -/
def installationParts (layout : Layout) : List ConfigPart :=
  layout.request.configs.definedConfigs.map fun config => ⟨config, .installation, none⟩

/-- The contributions to the configs of a layout come in a fixed order. -/
structure ContributesInOrder (layout : Layout) : Prop where
  /-- The entries contribute one after the other in post-order, and the installation comes last. -/
  inPostOrder : ∃ blocks : List (List ConfigPart),
    List.Forall₂ (fun index block => ∃ entry, layout.entries[index]? = some entry ∧
      block = layout.entryParts index entry) layout.postOrder blocks ∧
    layout.contributions = blocks.flatten ++ layout.installationParts
  /-- What a feature-pack contributes comes after what its dependencies contribute. -/
  dependenciesFirst : ∀ index entry, layout.entries[index]? = some entry →
    ∀ linked ∈ entry.dependencies, ∃ target before between after,
      layout.entries[linked.1]? = some target ∧
      layout.contributions = before ++ layout.entryParts linked.1 target ++ between ++
        layout.entryParts index entry ++ after
  /-- The configs that a feature-pack declares come in the order of their declaration. -/
  asDeclared : ∀ index entry,
    ((layout.declaredParts index entry).map ConfigPart.spec).Sublist entry.pack.configs
  /-- The configs that the innermost level defines come in the order of their definition. -/
  asDefined : ∀ index entry level, (layout.levels index entry).getLast? = some level →
    ((layout.definedParts index entry).map ConfigPart.spec).Sublist
      level.customizations.definedConfigs

/-- What is made of some elements leads back to these elements in their order. -/
theorem map_filterMap_sublist {Element Result : Type} {make : Element → Option Result}
    {source : Result → Element} (isSource : ∀ element result, make element = some result →
      source result = element) (elements : List Element) :
    ((elements.filterMap make).map source).Sublist elements := by
  induction elements with
  | nil => exact List.Sublist.refl _
  | cons element rest inductionHypothesis =>
      rw [List.filterMap_cons]
      split
      · exact inductionHypothesis.cons element
      · next result isMade =>
        rw [List.map_cons, isSource element result isMade]
        exact inductionHypothesis.cons_cons element

/-- The declared parts come in the order in which the feature-pack declares its configs. -/
theorem map_spec_declaredParts_sublist (layout : Layout) (index : Nat) (entry : LayoutEntry) :
    ((layout.declaredParts index entry).map ConfigPart.spec).Sublist entry.pack.configs := by
  refine map_filterMap_sublist (fun config part isPart => ?_) entry.pack.configs
  split at isPart
  · cases isPart
  · cases isPart
    rfl

/-- The defined parts come in the order in which the innermost customization defines them. -/
theorem map_spec_definedParts_sublist {layout : Layout} {index : Nat} {entry : LayoutEntry}
    {level : CustomizationLevel} (isInnermost : (layout.levels index entry).getLast? = some level) :
    ((layout.definedParts index entry).map ConfigPart.spec).Sublist
      level.customizations.definedConfigs := by
  obtain ⟨outer, isSplit⟩ := List.getLast?_eq_some_iff.1 isInnermost
  rw [definedParts, isSplit, List.reverse_append, List.reverse_singleton, List.singleton_append]
  refine map_filterMap_sublist (fun config part isPart => ?_) _
  split at isPart
  · cases isPart
  · cases isPart
    rfl

section

variable {repository : Repository} {request : Request} {layout : Layout} {index : Nat}
  {entry : LayoutEntry}

theorem partsAt_of_isEntry (isEntry : layout.entries[index]? = some entry) :
    layout.partsAt index = layout.entryParts index entry := by
  rw [partsAt, isEntry]

/-- The feature-packs contribute in post-order, and then the installation does. -/
theorem contributions_eq (layout : Layout) :
    layout.contributions = layout.postOrder.flatMap layout.partsAt ++ layout.installationParts :=
  rfl

/-- Where one entry stands before another, so do the configs that are contributed for them. -/
theorem contributions_eq_of_precedes {other : Nat} {target : LayoutEntry}
    (precedes : Graph.Precedes layout.postOrder other index)
    (isTarget : layout.entries[other]? = some target)
    (isEntry : layout.entries[index]? = some entry) :
    ∃ before between after, layout.contributions =
      before ++ layout.entryParts other target ++ between ++ layout.entryParts index entry ++
        after := by
  obtain ⟨outer, after, isOrder, isBefore⟩ := precedes
  obtain ⟨before, between, rfl⟩ := List.append_of_mem isBefore
  refine ⟨before.flatMap layout.partsAt, between.flatMap layout.partsAt,
    after.flatMap layout.partsAt ++ layout.installationParts, ?_⟩
  rw [contributions_eq, isOrder, ← partsAt_of_isEntry isTarget, ← partsAt_of_isEntry isEntry]
  simp only [List.flatMap_append, List.flatMap_cons, List.append_assoc]

variable (built : build repository request = .ok layout)

include built

/-- The post-order lists every entry and nothing else. -/
theorem mem_postOrder_iff :
    index ∈ layout.postOrder ↔ ∃ entry, layout.entries[index]? = some entry := by
  rw [(contract_of_build built).postOrderPerm.mem_iff, List.mem_range]
  constructor
  · intro inside
    exact ⟨layout.entries[index], List.getElem?_eq_getElem inside⟩
  · intro isEntry
    obtain ⟨entry, isEntry⟩ := isEntry
    exact (List.getElem?_eq_some_iff.1 isEntry).1

/-- What an entry contributes is part of all contributions. -/
theorem isInfix_contributions (isEntry : layout.entries[index]? = some entry) :
    layout.entryParts index entry <:+: layout.contributions := by
  obtain ⟨before, after, isOrder⟩ :=
    List.append_of_mem ((mem_postOrder_iff built).2 ⟨entry, isEntry⟩)
  rw [contributions_eq, isOrder, ← partsAt_of_isEntry isEntry, List.flatMap_append,
    List.flatMap_cons, List.append_assoc, List.append_assoc]
  exact List.infix_append' _ _ _

/-- Each entry of a built layout contributes once, after its dependencies and before the
installation. -/
theorem contributesInOrder_of_build : ContributesInOrder layout where
  inPostOrder := by
    refine ⟨layout.postOrder.map layout.partsAt, ?_, rfl⟩
    rw [List.forall₂_map_right_iff, List.forall₂_same]
    intro index isListed
    obtain ⟨entry, isEntry⟩ := (mem_postOrder_iff built).1 isListed
    exact ⟨entry, isEntry, partsAt_of_isEntry isEntry⟩
  dependenciesFirst := by
    intro index entry isEntry linked isLink
    have contract := contract_of_build built
    obtain ⟨target, isTarget, _⟩ :=
      contract.dependenciesPlaced entry (List.mem_of_getElem? isEntry) linked isLink
    have precedes := contract.dependenciesFirst index linked.1
      (edge_graphOf_iff.2 ⟨entry, isEntry, linked, isLink, rfl⟩)
    obtain ⟨before, between, after, isSplit⟩ := contributions_eq_of_precedes precedes isTarget isEntry
    exact ⟨target, before, between, after, isTarget, isSplit⟩
  asDeclared := map_spec_declaredParts_sublist layout
  asDefined _ _ _ := map_spec_definedParts_sublist

end

end Provisioning.Layout
