/-
This file proves that a provisioned state is read again from its texts.
-/

import Provisioning.Json.State
import Provisioning.Proofs.Gav
import Provisioning.Proofs.Json.Text

namespace Provisioning

namespace Json

/-- Each value is read back from what was written for it. -/
theorem mapM_map {A B : Type} {write : A → B} {read? : B → Option A} {values : List A}
    (isRead : ∀ value ∈ values, read? (write value) = some value) :
    (values.map write).mapM read? = some values := by
  induction values with
  | nil => rfl
  | cons value rest inductionHypothesis =>
      rw [List.forall_mem_cons] at isRead
      rw [List.map_cons, List.mapM_cons, isRead.1, inductionHypothesis isRead.2]
      rfl

/-- An array is read back element by element. -/
theorem elements?_map {Element : Type} {write : Element → Json} {read? : Json → Option Element}
    {elements : List Element} (isRead : ∀ element ∈ elements, read? (write element) = some element) :
    elements? read? (array (elements.map write)) = some elements :=
  mapM_map isRead

/-- A map of texts is read back with its entries in their order. -/
theorem textMap?_ofMap (map : OrderedMap String String) : textMap? (ofMap map) = some map := by
  have entries : (map.entries.map fun entry => (entry.1, string entry.2)).mapM
      (fun member => (text? member.2).map fun text => (member.1, text)) = some map.entries :=
    mapM_map fun _ _ => rfl
  rw [ofMap, textMap?, entries]
  exact congrArg some (OrderedMap.ofList_entries map)

/-- A set of names is read back in its order. -/
theorem packages?_ofSet (set : OrderedSet String) :
    packages? (array (set.elements.map string)) = some set := by
  have names : elements? text? (array (set.elements.map string)) = some set.elements :=
    elements?_map fun _ _ => rfl
  rw [packages?, names, Option.map_some, OrderedSet.ofList_elements]

/-! A record lists the fields that are present, and each field is found by its name. -/

/-- The members for the fields that have a value. -/
def present : List (String × Option Json) → List (String × Json)
  | [] => []
  | (_, none) :: rest => present rest
  | (name, some value) :: rest => (name, value) :: present rest

variable {fields : List (String × Option Json)}

/-- The members of a record are its fields that have a value. -/
theorem mem_present_iff {member : String × Json} :
    member ∈ present fields ↔ (member.1, some member.2) ∈ fields := by
  fun_induction present fields with
  | case1 => simp
  | case2 name rest inductionHypothesis => simp [inductionHypothesis]
  | case3 name value rest inductionHypothesis =>
      simp [inductionHypothesis, Prod.ext_iff]

/-- A record has no member under a name that none of its fields has. -/
theorem filter_present {name : String} (absent : name ∉ fields.map Prod.fst) :
    (present fields).filter (fun member => member.1 == name) = [] := by
  rw [List.filter_eq_nil_iff]
  intro member listed isNamed
  rw [mem_present_iff] at listed
  exact absent (List.mem_map.2 ⟨_, listed, by simpa using isNamed⟩)

/-- A field with a value is found, and one without a value is found to be absent. -/
theorem member?_present {name : String} {value : Option Json}
    (nodup : (fields.map Prod.fst).Nodup) (listed : (name, value) ∈ fields) :
    member? (present fields) name = some value := by
  induction fields with
  | nil => cases listed
  | cons field rest inductionHypothesis =>
      obtain ⟨first, written⟩ := field
      rw [List.map_cons, List.nodup_cons] at nodup
      rcases List.mem_cons.1 listed with same | inRest
      · obtain ⟨rfl, rfl⟩ := Prod.mk.inj same
        have noOther := filter_present nodup.1
        cases value <;> simp [member?, present, noOther]
      · have different : first ≠ name := fun same =>
          nodup.1 (same ▸ List.mem_map.2 ⟨_, inRest, rfl⟩)
        have found := inductionHypothesis nodup.2 inRest
        cases written with
        | none => rwa [present]
        | some _ => simpa [member?, present, different] using found

/-- Fields are found by their names, whichever of them are asked for. -/
theorem membersNamed?_present (nodup : (fields.map Prod.fst).Nodup)
    {asked : List (String × Option Json)} (areFields : ∀ field ∈ asked, field ∈ fields) :
    membersNamed? (present fields) (asked.map Prod.fst) = some (asked.map Prod.snd) := by
  induction asked with
  | nil => rfl
  | cons field rest inductionHypothesis =>
      rw [List.forall_mem_cons] at areFields
      rw [List.map_cons, membersNamed?, member?_present nodup areFields.1,
        inductionHypothesis areFields.2]
      rfl

/-- A record without its absent fields is read field by field. -/
theorem record?_present (fields : List (String × Option Json))
    (nodup : (fields.map Prod.fst).Nodup) :
    record? (fields.map Prod.fst) (object (present fields)) = some (fields.map Prod.snd) :=
  membersNamed?_present nodup fun _ listed => listed

/-- A record is read field by field where other members are let in, too. -/
theorem openRecord?_present (level : Nat) (fields : List (String × Option Json))
    (nodup : (fields.map Prod.fst).Nodup) :
    openRecord? level (fields.map Prod.fst) (object (present fields)) =
      some (fields.map Prod.snd) := by
  rw [openRecord?, if_pos]
  · exact membersNamed?_present nodup fun _ listed => listed
  · -- Nothing but the named fields is in the record.
    rw [List.all_eq_true]
    intro member listed
    have isField := List.mem_map_of_mem (f := Prod.fst) (mem_present_iff.1 listed)
    simp [isField]

/-- An empty map has no value in its record. -/
def mapField (map : OrderedMap String String) : Option Json :=
  if map.isEmpty then none else some (ofMap map)

theorem orDefault_some {Field : Type} (default : Field) (field? : Json → Option Field)
    (value : Json) : orDefault default field? (some value) = field? value := rfl

/-- A map is read back even where an empty one has been left out. -/
theorem orDefault_mapField (map : OrderedMap String String) :
    orDefault .empty textMap? (mapField map) = some map := by
  unfold mapField
  split
  · next isEmpty =>
    have noEntry : map.entries = [] := List.isEmpty_iff.1 isEmpty
    exact congrArg some (OrderedMap.eq_of_entries noEntry.symm)
  · exact textMap?_ofMap map

/-- An optional text is read back, present or absent. -/
theorem optionalText?_map (text : Option String) :
    optionalText? (text.map string) = some text := by
  cases text <;> rfl

/-! Each record is read back from its fields, whichever of them are left out. -/

/-- A coordinate that comes back from its text comes back from its document. -/
theorem gav?_ofGav {gav : Gav} (isRead : gav.IsRead) : gav? (ofGav gav) = some gav := by
  simp [gav?, ofGav, text?, Gav.parse_text isRead, Except.toOption]

/-- A resolved id is read back with its parameters. -/
theorem resolvedId?_ofResolvedId (level : Nat) {id : ResolvedId} (isRead : id.gav.IsRead) :
    resolvedId? level (ofResolvedId id) = some id := by
  have fields : openRecord? level ["gav", "name", "params"] (ofResolvedId id) =
      some [some (ofGav id.specId.gav), some (string id.specId.name), some (ofMap id.params)] :=
    openRecord?_present level [("gav", some (ofGav id.specId.gav)),
      ("name", some (string id.specId.name)), ("params", some (ofMap id.params))]
      (by decide : ["gav", "name", "params"].Nodup)
  have gav : gav? (ofGav id.specId.gav) = some id.specId.gav := gav?_ofGav isRead
  simp [resolvedId?, fields, gav, text?, textMap?_ofMap]

/-- An optional text makes one member or none. -/
theorem present_optional (name : String) (text : Option String)
    (rest : List (String × Option Json)) :
    present ((name, text.map string) :: rest) = optionalMember name text ++ present rest := by
  cases text <;> rfl

/-- A map makes one member unless it is empty. -/
theorem present_mapField (name : String) (map : OrderedMap String String)
    (rest : List (String × Option Json)) :
    present ((name, mapField map) :: rest) = mapMember name map ++ present rest := by
  rw [mapField, mapMember]
  split <;> rfl

/-- A provisioned feature is read back from its document. -/
theorem feature?_ofFeature {feature : ProvisionedFeature} (isRead : feature.id.gav.IsRead) :
    feature? (ofFeature feature) = some feature := by
  have fields : record? ["id", "params"] (ofFeature feature) =
      some [some (ofResolvedId feature.id), mapField feature.params] := by
    have read := record?_present [("id", some (ofResolvedId feature.id)),
      ("params", mapField feature.params)] (by decide : ["id", "params"].Nodup)
    rwa [present, present_mapField, present, List.append_nil] at read
  simp [feature?, fields, resolvedId?_ofResolvedId 6 isRead, orDefault_mapField]

/-- A provisioned config is read back with its features in their order. -/
theorem config?_ofConfig {config : ProvisionedConfig}
    (areRead : ∀ feature ∈ config.features, feature.id.gav.IsRead) :
    config? (ofConfig config) = some config := by
  have fields : openRecord? 3 ["model", "name", "properties", "features"] (ofConfig config) =
      some [config.id.model.map string, config.id.name.map string, mapField config.properties,
        some (array (config.features.map ofFeature))] := by
    have read := openRecord?_present 3 [("model", config.id.model.map string),
      ("name", config.id.name.map string), ("properties", mapField config.properties),
      ("features", some (array (config.features.map ofFeature)))]
      (by decide : ["model", "name", "properties", "features"].Nodup)
    rwa [present_optional, present_optional, present_mapField, present, present,
      ← List.append_assoc, ← List.append_assoc] at read
  have features : elements? feature? (array (config.features.map ofFeature)) =
      some config.features :=
    elements?_map fun feature listed => feature?_ofFeature (areRead feature listed)
  simp [config?, fields, optionalText?_map, orDefault_mapField, orDefault_some, features]

/-- A provisioned feature-pack is read back with its packages. -/
theorem pack?_ofPack {pack : ProvisionedPack} (isRead : pack.gav.IsRead) :
    pack? (ofPack pack) = some pack := by
  have fields : record? ["gav", "packages"] (ofPack pack) =
      some [some (ofGav pack.gav), some (array (pack.packages.elements.map string))] :=
    record?_present [("gav", some (ofGav pack.gav)),
      ("packages", some (array (pack.packages.elements.map string)))]
      (by decide : ["gav", "packages"].Nodup)
  simp [pack?, fields, gav?_ofGav isRead, orDefault_some, packages?_ofSet]

end Json

namespace ProvisionedState

/-- The coordinates of the feature-packs and of the features have been read from texts. -/
structure GavsRead (state : ProvisionedState) : Prop where
  packs : ∀ pack ∈ state.packs, pack.gav.IsRead
  features : ∀ config ∈ state.configs, ∀ feature ∈ config.features, feature.id.gav.IsRead

end ProvisionedState

namespace Json

variable {state : ProvisionedState}

/-- A state is read back from its document. -/
theorem state?_ofState (gavsRead : state.GavsRead) : state? (ofState state) = some state := by
  have fields : record? ["feature-packs", "configs"] (ofState state) =
      some [some (array (state.packs.map ofPack)), some (array (state.configs.map ofConfig))] :=
    record?_present [("feature-packs", some (array (state.packs.map ofPack))),
      ("configs", some (array (state.configs.map ofConfig)))]
      (by decide : ["feature-packs", "configs"].Nodup)
  have packs : elements? pack? (array (state.packs.map ofPack)) = some state.packs :=
    elements?_map fun pack listed => pack?_ofPack (gavsRead.packs pack listed)
  have configs : elements? config? (array (state.configs.map ofConfig)) = some state.configs :=
    elements?_map fun config listed => config?_ofConfig (gavsRead.features config listed)
  simp [state?, fields, orDefault_some, packs, configs]

/-! Nothing but texts is written. -/

theorem isTextual_ofMap (map : OrderedMap String String) : (ofMap map).isTextual = true := by
  rw [ofMap, isTextual_object_iff, List.forall_mem_map]
  exact fun entry _ => isTextual_string entry.2

theorem isTextual_of_mem_optionalMember {name : String} {text : Option String}
    {member : String × Json} (listed : member ∈ optionalMember name text) :
    member.2.isTextual = true := by
  cases text with
  | none => cases listed
  | some text => rw [List.mem_singleton.1 listed, isTextual_string]

theorem isTextual_of_mem_mapMember {name : String} {map : OrderedMap String String}
    {member : String × Json} (listed : member ∈ mapMember name map) :
    member.2.isTextual = true := by
  unfold mapMember at listed
  split at listed
  · cases listed
  · rw [List.mem_singleton.1 listed]
    exact isTextual_ofMap map

theorem isTextual_ofResolvedId (id : ResolvedId) : (ofResolvedId id).isTextual = true := by
  simp [ofResolvedId, ofGav, isTextual_object_iff, isTextual_string, isTextual_ofMap]

theorem isTextual_ofFeature (feature : ProvisionedFeature) :
    (ofFeature feature).isTextual = true := by
  rw [ofFeature, isTextual_object_iff, List.forall_mem_cons]
  exact ⟨isTextual_ofResolvedId feature.id, fun _ => isTextual_of_mem_mapMember⟩

theorem isTextual_ofConfig (config : ProvisionedConfig) : (ofConfig config).isTextual = true := by
  have features : (array (config.features.map ofFeature)).isTextual = true := by
    rw [isTextual_array_iff, List.forall_mem_map]
    exact fun feature _ => isTextual_ofFeature feature
  simp only [ofConfig, isTextual_object_iff, List.forall_mem_append, List.forall_mem_singleton]
  exact ⟨⟨⟨fun _ => isTextual_of_mem_optionalMember, fun _ => isTextual_of_mem_optionalMember⟩,
    fun _ => isTextual_of_mem_mapMember⟩, features⟩

theorem isTextual_ofPack (pack : ProvisionedPack) : (ofPack pack).isTextual = true := by
  simp [ofPack, ofGav, isTextual_object_iff, isTextual_array_iff, isTextual_string]

/-- The document of a state holds nothing but texts, lists and records. -/
theorem isTextual_ofState (state : ProvisionedState) : (ofState state).isTextual = true := by
  simp [ofState, isTextual_object_iff, isTextual_array_iff, isTextual_ofPack, isTextual_ofConfig]

end Json

namespace ProvisionedState

/-- Whatever its names and values are, a state is read again from each of its texts. -/
theorem ofText?_of_gavsRead {state : ProvisionedState} (gavsRead : state.GavsRead) :
    ofText? state.toCompactText = some state ∧
      ofText? ((Json.ofState state).indented 0) = some state ∧
        ofText? state.toFileText = some state := by
  have textual := Json.isTextual_ofState state
  have isState := Json.state?_ofState gavsRead
  have indented (blanks : String) (areBlank : blanks.toList.all Json.isBlank = true) :
      ofText? ((Json.ofState state).indented 0 ++ blanks) = some state := by
    rw [ofText?, Json.parse?_indented textual areBlank, Option.bind_some, isState]
  refine ⟨?_, ?_, indented "\n" rfl⟩
  · rw [ofText?, toCompactText, Json.parse?_compact textual, Option.bind_some, isState]
  · simpa using indented "" rfl

/-! A kiosk has an anonymous config, one with a model alone and one without features, and its texts
hold characters that have to be escaped. -/

namespace Kiosk

def gav : Gav := ⟨"shop", "kiosk", "LATEST"⟩

/-- The coordinate has been read without its version and with blanks around it. -/
theorem gav_isRead : gav.IsRead :=
  ⟨" shop:kiosk\n", by rfl⟩

def state : ProvisionedState where
  packs := [⟨gav, .ofList ["till", "two\nlines"]⟩]
  configs := [
    ⟨.anonymous, .empty, [.ofId ⟨⟨gav, "shelf"⟩, .ofList [("row", "a\\b")]⟩]⟩,
    ⟨.modelOnly "market", .ofList [("open", "\t"), ("", "")], []⟩,
    ⟨⟨none, some "bare"⟩, .empty, []⟩]

/-- Every coordinate of the kiosk comes back from its text. -/
theorem gavsRead : state.GavsRead where
  packs := by simp [state, gav_isRead]
  features := by simp [state, ProvisionedFeature.ofId, ResolvedId.gav, gav_isRead]

end Kiosk

theorem ofText?_kiosk :
    Kiosk.state.GavsRead ∧
      ofText? Kiosk.state.toCompactText = some Kiosk.state ∧
        ofText? ((Json.ofState Kiosk.state).indented 0) = some Kiosk.state ∧
          ofText? Kiosk.state.toFileText = some Kiosk.state :=
  ⟨Kiosk.gavsRead, ofText?_of_gavsRead Kiosk.gavsRead⟩

end ProvisionedState

end Provisioning
