/-
This file says which states are read from documents and which of them the builders could have made.
-/

import Provisioning.Proofs.Json.State
import Provisioning.Proofs.State

namespace Provisioning

namespace Json

variable {json : Json}

/-- Every value that is read has been read from some part. -/
theorem exists_of_mapM {A B : Type} {read? : B → Option A} {parts : List B} {values : List A}
    (areRead : parts.mapM read? = some values) :
    ∀ value ∈ values, ∃ part, read? part = some value := by
  induction parts generalizing values with
  | nil =>
      cases areRead
      simp
  | cons part rest inductionHypothesis =>
      rw [List.mapM_cons] at areRead
      obtain ⟨first, isFirst, areRead⟩ := Option.bind_eq_some_iff.1 areRead
      obtain ⟨others, areOthers, same⟩ := Option.bind_eq_some_iff.1 areRead
      cases same
      rw [List.forall_mem_cons]
      exact ⟨⟨part, isFirst⟩, inductionHypothesis areOthers⟩

/-- Each element of a field that may be left out has been read by itself. -/
theorem exists_of_orDefault {Element : Type} {element? : Json → Option Element}
    {field : Option Json} {elements : List Element}
    (areRead : orDefault [] (elements? element?) field = some elements) :
    ∀ element ∈ elements, ∃ part, element? part = some element := by
  cases field with
  | none =>
      cases areRead
      simp
  | some value =>
      cases value with
      | array parts => exact exists_of_mapM areRead
      | _ => cases areRead

/-! Whatever else is read, the coordinates come from texts. -/

/-- A coordinate that is read has come out of its text. -/
theorem isRead_of_gav? {gav : Gav} (found : gav? json = some gav) : gav.IsRead := by
  obtain ⟨text, _, isRead⟩ := Option.bind_eq_some_iff.1 found
  cases parsed : Gav.parse text with
  | error problem => simp [parsed, Except.toOption] at isRead
  | ok read =>
      simp only [parsed, Except.toOption, Option.some.injEq] at isRead
      exact ⟨text, isRead ▸ parsed⟩

/-- The coordinate of a feature-pack that is read has come out of its text. -/
theorem isRead_of_pack? {pack : ProvisionedPack} (found : pack? json = some pack) :
    pack.gav.IsRead := by
  obtain ⟨fields, _, found⟩ := Option.bind_eq_some_iff.1 found
  split at found
  · obtain ⟨gav, isGav, found⟩ := Option.bind_eq_some_iff.1 found
    obtain ⟨packages, _, same⟩ := Option.bind_eq_some_iff.1 found
    cases same
    exact isRead_of_gav? isGav
  · cases found

/-- The coordinate in an id that is read has come out of its text. -/
theorem isRead_of_resolvedId? {level : Nat} {id : ResolvedId}
    (found : resolvedId? level json = some id) : id.gav.IsRead := by
  obtain ⟨fields, _, found⟩ := Option.bind_eq_some_iff.1 found
  split at found
  · obtain ⟨gav, isGav, found⟩ := Option.bind_eq_some_iff.1 found
    obtain ⟨name, _, found⟩ := Option.bind_eq_some_iff.1 found
    obtain ⟨params, _, same⟩ := Option.bind_eq_some_iff.1 found
    cases same
    exact isRead_of_gav? isGav
  · cases found

/-- The coordinate of a feature that is read has come out of its text. -/
theorem isRead_of_feature? {feature : ProvisionedFeature} (found : feature? json = some feature) :
    feature.id.gav.IsRead := by
  obtain ⟨fields, _, found⟩ := Option.bind_eq_some_iff.1 found
  split at found
  · obtain ⟨id, isId, found⟩ := Option.bind_eq_some_iff.1 found
    obtain ⟨params, _, same⟩ := Option.bind_eq_some_iff.1 found
    cases same
    exact isRead_of_resolvedId? isId
  · cases found

/-- The coordinates of all features in a config that is read have come out of their texts. -/
theorem isRead_of_config? {config : ProvisionedConfig} (found : config? json = some config) :
    ∀ feature ∈ config.features, feature.id.gav.IsRead := by
  obtain ⟨fields, _, found⟩ := Option.bind_eq_some_iff.1 found
  split at found
  · obtain ⟨model, _, found⟩ := Option.bind_eq_some_iff.1 found
    obtain ⟨name, _, found⟩ := Option.bind_eq_some_iff.1 found
    obtain ⟨properties, _, found⟩ := Option.bind_eq_some_iff.1 found
    obtain ⟨features, areFeatures, same⟩ := Option.bind_eq_some_iff.1 found
    cases same
    intro feature listed
    obtain ⟨part, isFeature⟩ := exists_of_orDefault areFeatures feature listed
    exact isRead_of_feature? isFeature
  · cases found

/-- All coordinates in a state that is read have come out of their texts. -/
theorem gavsRead_of_state? {state : ProvisionedState} (found : state? json = some state) :
    state.GavsRead := by
  obtain ⟨fields, _, found⟩ := Option.bind_eq_some_iff.1 found
  split at found
  · obtain ⟨packs, arePacks, found⟩ := Option.bind_eq_some_iff.1 found
    obtain ⟨configs, areConfigs, same⟩ := Option.bind_eq_some_iff.1 found
    cases same
    constructor
    · intro pack listed
      obtain ⟨part, isPack⟩ := exists_of_orDefault arePacks pack listed
      exact isRead_of_pack? isPack
    · intro config listed
      obtain ⟨part, isConfig⟩ := exists_of_orDefault areConfigs config listed
      exact isRead_of_config? isConfig
  · cases found

/-- A text that is made of characters is read without its bytes. -/
theorem parse?_ofList (chars : List Char) :
    parse? (String.ofList chars) =
      (readValue (2 * chars.length + 2) chars).bind fun (value, rest) =>
        if (skip rest).isEmpty then some value else none := by
  unfold parse?
  rw [String.length_ofList, String.toList_ofList]
  cases readValue (2 * chars.length + 2) chars <;> rfl

end Json

namespace Gav

/-- A coordinate that has come out of a text would be accepted as it is. -/
theorem IsRead.accepted {gav : Gav} (isRead : gav.IsRead) : gav.problem? = none := by
  obtain ⟨text, isRead⟩ := isRead
  exact (pieces_of_parse isRead).1

end Gav

namespace ProvisionedState

section

variable {text : String} {state : ProvisionedState}

/-- A state that is read from a text has coordinates that have come out of their texts. -/
theorem gavsRead_of_ofText? (isRead : ofText? text = some state) : state.GavsRead := by
  obtain ⟨json, _, isState⟩ := Option.bind_eq_some_iff.1 isRead
  exact Json.gavsRead_of_state? isState

/-- A state whose coordinates can be read comes back from its compact text. -/
theorem ofText?_toCompactText (gavsRead : state.GavsRead) :
    ofText? state.toCompactText = some state := by
  rw [ofText?, toCompactText, Json.parse?_compact (Json.isTextual_ofState state), Option.bind_some,
    Json.state?_ofState gavsRead]

theorem GavsRead.accepted (gavsRead : state.GavsRead) : state.GavsAccepted where
  packs := fun pack listed => (gavsRead.packs pack listed).accepted
  features := fun config listed feature within =>
    (gavsRead.features config listed feature within).accepted

end

/-- The coordinates are all that reading a state checks: whatever has readable coordinates is read
from some document. What has been read could have come from the builders exactly when nothing in it
comes twice and each feature has an identity with all its parameters. -/
theorem reading_checks_coordinates (state : ProvisionedState) :
    ((∃ text, ofText? text = some state) ↔ state.GavsRead) ∧
      ∀ text, ofText? text = some state →
        (state.IsBuilt ↔ state.IsDistinct ∧ state.HasIdParams) := by
  constructor
  · constructor
    · rintro ⟨text, isRead⟩
      exact gavsRead_of_ofText? isRead
    · exact fun gavsRead => ⟨state.toCompactText, ofText?_toCompactText gavsRead⟩
  · intro text isRead
    rw [isBuilt_iff]
    exact and_iff_right (gavsRead_of_ofText? isRead).accepted

/-! An echo repeats a feature-pack, a config and a feature without id parameters. -/

namespace Echo

def packChars : List Char := "\x7b\"gav\":\"valley:echo:1\"\x7d".toList

def featureChars : List Char :=
  "\x7b\"id\":\x7b\"gav\":\"valley:echo:1\",".toList ++
    "\"name\":\"call\",\"params\":\x7b\x7d\x7d\x7d".toList

def configChars : List Char :=
  "\x7b\"name\":\"slope\",\"features\":[".toList ++ featureChars ++ ',' :: featureChars ++
    [']', '\x7d']

/-- The document, as the characters that the reader goes through. -/
def chars : List Char :=
  "\x7b\"feature-packs\":[".toList ++ packChars ++ ',' :: packChars ++
    "],\"configs\":[".toList ++ configChars ++ ',' :: configChars ++ [']', '\x7d']

def text : String := String.ofList chars

def gav : Gav := ⟨"valley", "echo", "1"⟩

def call : ProvisionedFeature := ⟨⟨⟨gav, "call"⟩, .empty⟩, .empty⟩

def config : ProvisionedConfig := ⟨⟨none, some "slope"⟩, .empty, [call, call]⟩

def state : ProvisionedState := ⟨[⟨gav, .empty⟩, ⟨gav, .empty⟩], [config, config]⟩

end Echo

/-- A document is read in which each of the guarantees fails. -/
theorem not_isDistinct_echo :
    ofText? Echo.text = some Echo.state ∧
      ¬(Echo.state.packs.map ProvisionedPack.gav).Nodup ∧
      ¬ConfigAssembly.Distinct (Echo.state.configs.map ProvisionedConfig.id) ∧
      ¬ProvisionedConfig.FeaturesDistinct Echo.config.features ∧
      Echo.call.id.params.isEmpty = true ∧
      ¬∀ text state, ofText? text = some state → state.IsDistinct := by
  have isRead : ofText? Echo.text = some Echo.state :=
    (congrArg (Option.bind · Json.state?) (Json.parse?_ofList Echo.chars)).trans (by decide +kernel)
  have packs : ¬(Echo.state.packs.map ProvisionedPack.gav).Nodup := by decide
  refine ⟨isRead, packs, ?_, ?_, rfl, fun kept => packs (kept _ _ isRead).packs⟩
  · intro distinct
    have isAnonymous := (List.pairwise_cons.1 distinct).1 _ List.mem_cons_self rfl
    cases isAnonymous
  · intro distinct
    have apart := (List.pairwise_cons.1 distinct).1 _ List.mem_cons_self
    rw [ResolvedId.same_self] at apart
    cases apart

end ProvisionedState

end Provisioning
