import HexIam.MfaGate
import HexIam.SettingsModels

/-!
# Partial updates of tenant settings

`PATCH /tenants/me/settings` promises that only the fields which are provided are
updated.  The sections of the body are dumped with all their fields, so a field
that is left out is set to its default.  The update is partial exactly when such
fields have their defaults already, when validation keeps the values of the body
and when what no model has a field for is in the settings already.
-/

namespace HexIam

open JsonDocument RelatedCode TenantSettings SettingsModels
open MfaGate (RowWellFormed)
open SettingsIsolation (settingsOf settingsOf_eq ttls_after_updateSettings)
open SettingsUpdates (sectionKeys)

namespace SettingsPatch

/-! ## The property -/

/-- Leaves that the body does not mention stay, and those that it gives are there. -/
structure Patched (body before later : Json) : Prop where
  kept : ∀ path leaf, before.at path = some (.leaf leaf) → ¬ body.Touches path →
    later.at path = some (.leaf leaf)
  given : ∀ path leaf, body.at path = some (.leaf leaf) →
    later.at path = some (.leaf leaf)

/-- What `get_tenant_settings` returns, as a document. -/
def settingsDocument (codec : Codec) (db : Connection) (tenantId : String)
    (service : Service) : Option Json :=
  (settingsOf codec db tenantId service).toOption.map fun response =>
    .object response.entries

/-! ## The condition -/

/-- The field of this name in this section. -/
def fieldAt (name key : String) : Option Field :=
  (tenantSettingsUpdate.lookup name).bind fun model => model.lookup key

/-- The fields that are left out have their defaults, validation keeps the values of
the body, and the settings have what the body gives elsewhere. -/
structure LosesNothing (pydantic : Pydantic) (body before : Json) : Prop where
  omitted : ∀ name key field given rest leaf, fieldAt name key = some field →
    body.at [name] = some (.object given) → given.lookup key = none →
    before.at (name :: key :: rest) = some (.leaf leaf) →
    rest = [] ∧ leaf = field.default
  validated : ∀ name key field leaf, fieldAt name key = some field →
    body.at [name, key] = some (.leaf leaf) →
    field.type.validate pydantic leaf = some leaf
  other : ∀ path leaf, body.at path = some (.leaf leaf) →
    (∀ name key, path = [name, key] → fieldAt name key = none) →
    before.at path = some (.leaf leaf)

/-- The settings have every leaf of the body. -/
def Holds (body before : Json) : Prop :=
  ∀ path leaf, body.at path = some (.leaf leaf) → before.at path = some (.leaf leaf)

/-- Over a connection that sees the row the update loses nothing.  Over any other
it stores nothing, so there is nothing to store. -/
def IsPartial (pydantic : Pydantic) (db : Connection) (tenantId : String)
    (body before : Json) : Prop :=
  if db.sees tenantId then LosesNothing pydantic body before else Holds body before

/-! ## The document that is merged in -/

section Update

variable {pydantic : Pydantic} {body : Entries} {updates : TenantSettingsUpdate}

theorem nodup_sections : (tenantSettingsUpdate.map Prod.fst).Nodup := by
  decide

theorem nodup_fields :
    ∀ model ∈ tenantSettingsUpdate, (model.2.map Prod.fst).Nodup := by
  decide

theorem given_of_lookup
    (valid : TenantSettingsUpdate.ofBody pydantic (.object body) = some updates)
    {name : String} {value : Json}
    (found : (settingsUpdate updates).lookup name = some value) :
    ∃ model given dump, tenantSettingsUpdate.lookup name = some model ∧
      body.lookup name = some (.object given) ∧
      modelDump pydantic given model = some dump ∧ value = .object dump := by
  rw [lookup_settingsUpdate nodup_sections valid] at found
  obtain ⟨model, isModel, found⟩ := Option.bind_eq_some_iff.mp found
  obtain ⟨dump, isDump, rfl⟩ := Option.map_eq_some_iff.mp found
  have isSection := Option.join_eq_some_iff.mp isDump
  match isBody : body.lookup name with
  | none => rw [isBody] at isSection; cases isSection
  | some (.leaf leaf) =>
      rw [isBody] at isSection
      cases leaf <;> cases isSection
  | some (.object given) =>
      rw [isBody] at isSection
      obtain ⟨_, isModelDump, same⟩ := Option.map_eq_some_iff.mp isSection
      cases same
      exact ⟨model, given, dump, isModel, rfl, isModelDump, rfl⟩

theorem exists_at_field
    (valid : TenantSettingsUpdate.ofBody pydantic (.object body) = some updates)
    {name key : String} {field : Field} {given : Entries}
    (isField : fieldAt name key = some field)
    (isGiven : body.lookup name = some (.object given)) :
    ∃ value, field.validate pydantic (given.lookup key) = some value ∧
      (Json.object (settingsUpdate updates)).at [name, key] =
        some (.leaf value) := by
  obtain ⟨model, isModel, isField⟩ := Option.bind_eq_some_iff.mp isField
  obtain ⟨section?, isSection⟩ := exists_sectionDump valid isModel
  have found := lookup_settingsUpdate nodup_sections valid name
  rw [isModel, Option.bind_some, isSection] at found
  rw [isGiven] at isSection
  obtain ⟨dump, isDump, rfl⟩ := Option.map_eq_some_iff.mp isSection
  obtain ⟨value, isValue⟩ := exists_value isDump isField
  refine ⟨value, isValue, ?_⟩
  rw [at_object_cons, found]
  change (dump.lookup key).bind (fun value => value.at []) = _
  rw [lookup_modelDump isDump, isField, Option.bind_some, isValue, Option.map_some,
    Option.bind_some, at_nil]

/-- Where the update does not leave a path free, the path ends at a section that
the body gives or goes through one of its fields. -/
theorem field_of_not_free
    (valid : TenantSettingsUpdate.ofBody pydantic (.object body) = some updates)
    {name : String} {rest : List String}
    (taken : ¬ (Json.object (settingsUpdate updates)).Free (name :: rest)) :
    ∃ given, body.lookup name = some (.object given) ∧
      ∀ key deeper, rest = key :: deeper → ∃ field, fieldAt name key = some field := by
  obtain ⟨value, found, taken⟩ : ∃ value,
      (settingsUpdate updates).lookup name = some value ∧ ¬ value.Free rest := by
    rw [free_cons] at taken
    simpa using taken
  obtain ⟨model, given, dump, isModel, isGiven, isDump, rfl⟩ :=
    given_of_lookup valid found
  refine ⟨given, isGiven, ?_⟩
  rintro key deeper rfl
  obtain ⟨child, isChild, -⟩ : ∃ child,
      dump.lookup key = some child ∧ ¬ child.Free deeper := by
    rw [free_cons] at taken
    simpa using taken
  rw [lookup_modelDump isDump] at isChild
  obtain ⟨field, isField, -⟩ := Option.bind_eq_some_iff.mp isChild
  exact ⟨field, by rw [fieldAt, isModel, Option.bind_some, isField]⟩

theorem not_free_at_leaf {document : Json} {path : List String} {leaf : Leaf}
    (isLeaf : document.at path = some (.leaf leaf)) : ¬ document.Free path := by
  have taken := not_free_of_leaf isLeaf []
  rwa [List.append_nil] at taken

theorem at_below {document : Json} {front rest : List String} {value : Leaf}
    (isLeaf : document.at front = some (.leaf value)) :
    document.at (front ++ rest) = (Json.leaf value).at rest := by
  rw [at_append, isLeaf, Option.bind_some]

theorem at_leaf_eq {value leaf : Leaf} {rest : List String}
    (isLeaf : (Json.leaf value).at rest = some (.leaf leaf)) :
    rest = [] ∧ value = leaf := by
  cases rest with
  | nil =>
      cases isLeaf
      exact ⟨rfl, rfl⟩
  | cons _ _ => cases isLeaf

theorem field_of_leaf
    (valid : TenantSettingsUpdate.ofBody pydantic (.object body) = some updates)
    {path : List String} {leaf : Leaf}
    (isLeaf : (Json.object (settingsUpdate updates)).at path = some (.leaf leaf)) :
    ∃ name key field given, path = [name, key] ∧ fieldAt name key = some field ∧
      body.lookup name = some (.object given) ∧
      field.validate pydantic (given.lookup key) = some leaf := by
  cases path with
  | nil => cases isLeaf
  | cons name rest =>
      obtain ⟨given, isGiven, fields⟩ :=
        field_of_not_free valid (not_free_at_leaf isLeaf)
      cases rest with
      | nil =>
          obtain ⟨value, found, isLeaf⟩ := Option.bind_eq_some_iff.mp isLeaf
          obtain ⟨model, given, dump, -, -, -, rfl⟩ := given_of_lookup valid found
          cases isLeaf
      | cons key deeper =>
          obtain ⟨field, isField⟩ := fields key deeper rfl
          obtain ⟨value, isValue, atField⟩ := exists_at_field valid isField isGiven
          have below := @at_below _ _ deeper _ atField
          obtain ⟨rfl, rfl⟩ := at_leaf_eq (below.symm.trans isLeaf)
          exact ⟨name, key, field, given, rfl, isField, isGiven, isValue⟩

theorem wellFormed_update
    (valid : TenantSettingsUpdate.ofBody pydantic (.object body) = some updates) :
    (Json.object (settingsUpdate updates)).WellFormed := by
  have keys := nodup_sections.sublist (keys_settingsUpdate valid)
  refine .object _ keys fun ⟨name, value⟩ entryMem => ?_
  obtain ⟨model, given, dump, isModel, -, isDump, rfl⟩ :=
    given_of_lookup valid (lookup_of_mem keys entryMem)
  refine .object dump ?_ fun entry entryMem => ?_
  · rw [keys_modelDump isDump]
    exact nodup_fields _ (mem_of_lookup isModel)
  · obtain ⟨leaf, isLeaf⟩ := leaf_of_mem_modelDump isDump entry entryMem
    exact isLeaf ▸ .leaf leaf

theorem untouched_of_omitted {name key : String} {rest : List String}
    {given : Entries} (isGiven : body.lookup name = some (.object given))
    (isOmitted : given.lookup key = none) :
    ¬ (Json.object body).Touches (name :: key :: rest) := by
  intro touches
  obtain ⟨object, found, touches⟩ := exists_of_touches touches
  cases isGiven.symm.trans found
  obtain ⟨value, found, -⟩ := exists_of_touches touches
  rw [isOmitted] at found
  cases found

theorem touches_of_at_leaf {document : Json} {front rest : List String} {leaf : Leaf}
    (isLeaf : document.at front = some (.leaf leaf)) :
    document.Touches (front ++ rest) :=
  ⟨front, .inl ⟨⟨leaf, isLeaf⟩, .inl (List.prefix_append front rest)⟩⟩

theorem at_section {name : String} {given : Entries} :
    (Json.object body).at [name] = some (.object given) ↔
      body.lookup name = some (.object given) := by
  rw [at_object_cons]
  cases body.lookup name <;> simp

theorem given_of_at_field {name key : String} {leaf : Leaf}
    (isLeaf : (Json.object body).at [name, key] = some (.leaf leaf)) :
    ∃ given, body.lookup name = some (.object given) ∧
      given.lookup key = some (.leaf leaf) := by
  obtain ⟨child, found, isLeaf⟩ := Option.bind_eq_some_iff.mp isLeaf
  cases child with
  | leaf _ => cases isLeaf
  | object given =>
      obtain ⟨value, isValue, isLeaf⟩ := Option.bind_eq_some_iff.mp isLeaf
      rw [at_nil] at isLeaf
      exact ⟨given, found, isLeaf ▸ isValue⟩

theorem field_cases
    (valid : TenantSettingsUpdate.ofBody pydantic (.object body) = some updates)
    {name key : String} {field : Field} {given : Entries}
    (isField : fieldAt name key = some field)
    (isGiven : body.lookup name = some (.object given)) :
    given.lookup key = none ∧
        (Json.object (settingsUpdate updates)).at [name, key] =
          some (.leaf field.default) ∨
      ∃ leaf value, (Json.object body).at [name, key] = some (.leaf leaf) ∧
        field.type.validate pydantic leaf = some value ∧
        (Json.object (settingsUpdate updates)).at [name, key] =
          some (.leaf value) := by
  obtain ⟨value, isValue, atField⟩ := exists_at_field valid isField isGiven
  have here : (Json.object body).at [name, key] = given.lookup key := by
    rw [at_object_cons, isGiven, Option.bind_some, at_object_cons]
    cases given.lookup key <;> simp
  match isHere : given.lookup key with
  | none =>
      rw [isHere] at isValue
      cases isValue
      exact .inl ⟨rfl, atField⟩
  | some (.leaf leaf) =>
      rw [isHere] at isValue
      exact .inr ⟨leaf, value, here.trans isHere, isValue, atField⟩
  | some (.object _) =>
      rw [isHere] at isValue
      cases isValue

/-! ## The merged document -/

section Merged

variable {before later : Json}

/-- The leaves afterwards are those of the update, and those from before that the
update leaves free. -/
def Merged (update before later : Json) : Prop :=
  ∀ path leaf, later.at path = some (.leaf leaf) ↔
    update.at path = some (.leaf leaf) ∨
      update.Free path ∧ before.at path = some (.leaf leaf)

theorem condition_of_patched
    (valid : TenantSettingsUpdate.ofBody pydantic (.object body) = some updates)
    (merged : Merged (.object (settingsUpdate updates)) before later)
    (patched : Patched (.object body) before later) :
    LosesNothing pydantic (.object body) before where
  omitted name key field given rest leaf isField isGiven isOmitted isLeaf := by
    rw [at_section] at isGiven
    have stays := patched.kept _ _ isLeaf (untouched_of_omitted isGiven isOmitted)
    rcases field_cases valid isField isGiven with
      ⟨-, atField⟩ | ⟨other, value, isHere, -, -⟩
    · rcases (merged _ _).mp stays with isNew | ⟨free, -⟩
      · have below := @at_below _ _ rest _ atField
        obtain ⟨isEnd, same⟩ := at_leaf_eq (below.symm.trans isNew)
        exact ⟨isEnd, same.symm⟩
      · exact absurd free (not_free_of_leaf atField rest)
    · obtain ⟨same, isGiven', isValue⟩ := given_of_at_field isHere
      rw [isGiven] at isGiven'
      cases isGiven'
      rw [isOmitted] at isValue
      cases isValue
  validated name key field leaf isField isLeaf := by
    obtain ⟨given, isGiven, isHere⟩ := given_of_at_field isLeaf
    rcases field_cases valid isField isGiven with
      ⟨isOmitted, -⟩ | ⟨other, value, isOther, isValue, atField⟩
    · rw [isOmitted] at isHere
      cases isHere
    · cases isLeaf.symm.trans isOther
      rcases (merged _ _).mp (patched.given _ _ isLeaf) with isNew | ⟨free, -⟩
      · cases atField.symm.trans isNew
        exact isValue
      · exact absurd free (not_free_at_leaf atField)
  other path leaf isLeaf noField := by
    rcases (merged _ _).mp (patched.given _ _ isLeaf) with isNew | ⟨-, isOld⟩
    · obtain ⟨name, key, field, given, isPath, isField, -⟩ := field_of_leaf valid isNew
      rw [noField name key isPath] at isField
      cases isField
    · exact isOld

theorem kept_of_condition
    (valid : TenantSettingsUpdate.ofBody pydantic (.object body) = some updates)
    (condition : LosesNothing pydantic (.object body) before) {path : List String}
    {leaf : Leaf} (isLeaf : before.at path = some (.leaf leaf))
    (untouched : ¬ (Json.object body).Touches path)
    (taken : ¬ (Json.object (settingsUpdate updates)).Free path) :
    (Json.object (settingsUpdate updates)).at path = some (.leaf leaf) := by
  match path with
  | [] => exact absurd (touches_nil _) untouched
  | name :: rest =>
      obtain ⟨given, isGiven, fields⟩ := field_of_not_free valid taken
      match rest with
      | [] => exact absurd (touches_cons isGiven (touches_nil _)) untouched
      | key :: deeper =>
          obtain ⟨field, isField⟩ := fields key deeper rfl
          rcases field_cases valid isField isGiven with
            ⟨isOmitted, atField⟩ | ⟨other, _, isHere, -, -⟩
          · obtain ⟨rfl, rfl⟩ := condition.omitted name key field given deeper leaf
              isField (at_section.mpr isGiven) isOmitted isLeaf
            exact atField
          · have touches : (Json.object body).Touches ([name, key] ++ deeper) :=
              touches_of_at_leaf isHere
            exact absurd touches untouched

theorem free_of_other
    (valid : TenantSettingsUpdate.ofBody pydantic (.object body) = some updates)
    {path : List String} {leaf : Leaf}
    (isLeaf : (Json.object body).at path = some (.leaf leaf))
    (noField : ∀ name key, path = [name, key] → fieldAt name key = none) :
    (Json.object (settingsUpdate updates)).Free path := by
  by_contra taken
  match path with
  | [] => cases isLeaf
  | name :: rest =>
      obtain ⟨given, isGiven, fields⟩ := field_of_not_free valid taken
      match rest with
      | [] => cases (at_section.mpr isGiven).symm.trans isLeaf
      | key :: deeper =>
          obtain ⟨field, isField⟩ := fields key deeper rfl
          rcases field_cases valid isField isGiven with
            ⟨isOmitted, -⟩ | ⟨other, _, isHere, -, -⟩
          · have missing : (Json.object body).at (name :: key :: deeper) = none := by
              rw [at_object_cons, isGiven, Option.bind_some, at_object_cons,
                isOmitted, Option.bind_none]
            cases missing.symm.trans isLeaf
          · have below := @at_below _ _ deeper _ isHere
            obtain ⟨rfl, -⟩ := at_leaf_eq (below.symm.trans isLeaf)
            rw [noField name key rfl] at isField
            cases isField

theorem patched_of_condition
    (valid : TenantSettingsUpdate.ofBody pydantic (.object body) = some updates)
    (merged : Merged (.object (settingsUpdate updates)) before later)
    (condition : LosesNothing pydantic (.object body) before) :
    Patched (.object body) before later where
  kept path leaf isLeaf untouched := by
    rw [merged]
    by_cases free : (Json.object (settingsUpdate updates)).Free path
    · exact .inr ⟨free, isLeaf⟩
    · exact .inl (kept_of_condition valid condition isLeaf untouched free)
  given path leaf isLeaf := by
    rw [merged]
    by_cases noField : ∀ name key, path = [name, key] → fieldAt name key = none
    · exact .inr ⟨free_of_other valid isLeaf noField,
        condition.other path leaf isLeaf noField⟩
    · obtain ⟨name, key, rfl, isField⟩ : ∃ name key,
          path = [name, key] ∧ fieldAt name key ≠ none := by simpa using noField
      obtain ⟨field, isField⟩ := Option.ne_none_iff_exists'.mp isField
      obtain ⟨given, isGiven, isHere⟩ := given_of_at_field isLeaf
      rcases field_cases valid isField isGiven with
        ⟨isOmitted, -⟩ | ⟨other, value, isOther, isValue, atField⟩
      · rw [isOmitted] at isHere
        cases isHere
      · cases isLeaf.symm.trans isOther
        cases (condition.validated name key field leaf isField isLeaf).symm.trans
          isValue
        exact .inl atField

end Merged

end Update

/-! ## The column -/

/-- What orjson and the column keep as it is. -/
def isPlain : Leaf → Bool
  | .null => true
  | .bool _ => true
  | .int _ => true
  | .decimal _ _ => false
  | .string _ => true
  | .array items => items.all isString

/-- The leaf that the column makes of a value. -/
def columnLeaf (column : Leaf → Leaf) : Json → Option Leaf
  | .leaf leaf => some (column leaf)
  | .object _ => none

/-- Objects are stored as objects with the same keys, each once, and leaves as the
column writes them. -/
structure Stores (codec : Codec) (column : Leaf → Leaf) : Prop where
  keeps : ∀ document stored, (codec.orjson document).bind codec.jsonb = some stored →
    ∀ path, (stored.at path).map (columnLeaf id) =
      (document.at path).map (columnLeaf column)
  wellFormed : ∀ document stored,
    (codec.orjson document).bind codec.jsonb = some stored → stored.WellFormed
  plain : ∀ leaf, isPlain leaf = true → column leaf = leaf

section Stored

variable {column : Leaf → Leaf} {document stored : Json}

theorem at_eq_leaf_of_map {value : Option Json} {column : Leaf → Leaf} {leaf : Leaf}
    (same : value.map (columnLeaf column) = some (some leaf)) :
    ∃ written, value = some (.leaf written) ∧ column written = leaf := by
  match value with
  | some (.leaf written) =>
      exact ⟨written, rfl, Option.some.inj (Option.some.inj same)⟩
  | some (.object _) => cases same
  | none => cases same

theorem at_stored_iff
    (keeps : ∀ path, (stored.at path).map (columnLeaf id) =
      (document.at path).map (columnLeaf column))
    (settled : ∀ path leaf, document.at path = some (.leaf leaf) → column leaf = leaf)
    (path : List String) (leaf : Leaf) :
    stored.at path = some (.leaf leaf) ↔ document.at path = some (.leaf leaf) := by
  have here := keeps path
  constructor
  · intro isLeaf
    rw [isLeaf] at here
    obtain ⟨written, isWritten, same⟩ := at_eq_leaf_of_map here.symm
    rw [isWritten, ← settled path written isWritten]
    exact congrArg (fun leaf => some (Json.leaf leaf)) same
  · intro isLeaf
    rw [isLeaf, Option.map_some, columnLeaf, settled path leaf isLeaf] at here
    obtain ⟨written, isWritten, same⟩ := at_eq_leaf_of_map here
    rw [isWritten, ← same, id]

theorem free_of_stored_free
    (keeps : ∀ path, (stored.at path).map (columnLeaf id) =
      (document.at path).map (columnLeaf column)) {path : List String}
    (free : stored.Free path) : document.Free path := by
  refine ⟨?_, fun front isFront proper leaf isLeaf => ?_⟩
  · have here := keeps path
    rw [free.1] at here
    exact Option.map_eq_none_iff.mp here.symm
  · have here := keeps front
    rw [isLeaf] at here
    obtain ⟨written, isWritten, -⟩ := at_eq_leaf_of_map here
    exact free.2 front isFront proper written isWritten

end Stored

/-! ## The defaults -/

/-- The default of a field in `DEFAULT_SETTINGS` with these TTLs. -/
def defaultLeaf (ttls : TokenTtl → Int) (key : String) (field : Field) : Leaf :=
  if key = TokenTtl.accessToken.key then .int (ttls .accessToken)
  else if key = TokenTtl.refreshToken.key then .int (ttls .refreshToken)
  else if key = TokenTtl.idToken.key then .int (ttls .idToken)
  else field.default

def defaultSection (ttls : TokenTtl → Int) (model : Model) : Json :=
  .object (model.map fun field =>
    (field.1, .leaf (defaultLeaf ttls field.1 field.2)))

theorem plain_settingsWith_eq (ttls : TokenTtl → Int) :
    (settingsWith ttls).plain =
      .object (tenantSettingsUpdate.map fun model =>
        (model.1, defaultSection ttls model.2)) :=
  rfl

theorem plain_defaults :
    ∀ model ∈ tenantSettingsUpdate, ∀ field ∈ model.2,
      isPlain field.2.default = true := by
  decide

theorem field_of_default {ttls : TokenTtl → Int} {path : List String} {leaf : Leaf}
    (isLeaf : (settingsWith ttls).plain.at path = some (.leaf leaf)) :
    ∃ name key field, path = [name, key] ∧ fieldAt name key = some field ∧
      isPlain leaf = true := by
  rw [plain_settingsWith_eq] at isLeaf
  match path with
  | [] => cases isLeaf
  | name :: rest =>
      rw [at_object_cons, lookup_map_values fun _ => defaultSection ttls] at isLeaf
      obtain ⟨_, isSection, isLeaf⟩ := Option.bind_eq_some_iff.mp isLeaf
      obtain ⟨model, isModel, rfl⟩ := Option.map_eq_some_iff.mp isSection
      match rest with
      | [] => cases isLeaf
      | key :: deeper =>
          rw [defaultSection, at_object_cons, lookup_map_values
            fun key field => Json.leaf (defaultLeaf ttls key field)] at isLeaf
          obtain ⟨_, isValue, isLeaf⟩ := Option.bind_eq_some_iff.mp isLeaf
          obtain ⟨field, isField, rfl⟩ := Option.map_eq_some_iff.mp isValue
          obtain ⟨rfl, rfl⟩ := at_leaf_eq isLeaf
          refine ⟨name, key, field, rfl, ?_, ?_⟩
          · rw [fieldAt, isModel, Option.bind_some, isField]
          · have isDefault := plain_defaults _ (mem_of_lookup isModel) _
              (mem_of_lookup isField)
            unfold defaultLeaf
            split_ifs <;> first | rfl | exact isDefault

/-! ## What is read -/

section Reads

variable {column : Leaf → Leaf} {ttls : TokenTtl → Int}

theorem lookup_sections {merged : Entries} {key : String}
    (isSection : key ∈ sectionKeys) :
    (sections merged).entries.lookup key =
      some ((merged.lookup key).getD (.object [])) := by
  simp only [sectionKeys, List.mem_cons, List.not_mem_nil, or_false] at isSection
  rcases isSection with rfl | rfl | rfl | rfl | rfl | rfl <;> rfl

/-- The leaves of a response are those of the merged settings in its sections. -/
theorem at_sections_iff {merged : Entries} {path : List String} {leaf : Leaf} :
    (Json.object (sections merged).entries).at path = some (.leaf leaf) ↔
      (∃ key ∈ sectionKeys, ∃ rest, path = key :: rest) ∧
        (Json.object merged).at path = some (.leaf leaf) := by
  constructor
  · intro isLeaf
    match path with
    | [] => cases isLeaf
    | key :: rest =>
        have isSection : key ∈ sectionKeys := by
          by_contra other
          have absent : (sections merged).entries.lookup key = none :=
            lookup_eq_none_of_notMem other
          rw [at_object_cons, absent] at isLeaf
          cases isLeaf
        refine ⟨⟨key, isSection, rest, rfl⟩, ?_⟩
        rw [at_object_cons, lookup_sections isSection] at isLeaf
        rw [at_object_cons]
        cases found : merged.lookup key with
        | some value =>
            rw [found] at isLeaf
            exact isLeaf
        | none =>
            rw [found] at isLeaf
            cases rest <;> cases isLeaf
  · rintro ⟨⟨key, isSection, rest, rfl⟩, isLeaf⟩
    exact SettingsUpdates.at_sections isSection isLeaf

/-- The leaves of what is stored are kept by the column. -/
def Settled (column : Leaf → Leaf) (stored : Option Json) : Prop :=
  ∀ settings ∈ stored, ∀ path leaf,
    settings.at path = some (.leaf leaf) → column leaf = leaf

/-- Settings that are read have the defaults or something in their place, and
leaves that the column keeps. -/
theorem exists_merged (plain : ∀ leaf, isPlain leaf = true → column leaf = leaf)
    {stored : Option Json} (wellFormed : RowWellFormed (some stored))
    (settled : Settled column stored) {current : TenantSettingsResponse Json}
    (isRead : readSettings (settingsWith ttls).plain (some stored) = .ok current) :
    ∃ merged, current = sections merged ∧
      (∀ path leaf, (settingsWith ttls).plain.at path = some (.leaf leaf) →
        ¬ (Json.object merged).Free path) ∧
      ∀ path leaf, (Json.object merged).at path = some (.leaf leaf) →
        column leaf = leaf := by
  have defaults {path : List String} {leaf : Leaf}
      (isLeaf : (settingsWith ttls).plain.at path = some (.leaf leaf)) :
      column leaf = leaf := by
    obtain ⟨_, _, _, -, -, isPlain⟩ := field_of_default isLeaf
    exact plain leaf isPlain
  match stored with
  | none =>
      cases isRead
      exact ⟨_, rfl, fun _ _ isLeaf => not_free_at_leaf isLeaf,
        fun _ _ isLeaf => defaults isLeaf⟩
  | some (.leaf _) => cases isRead
  | some (.object overrides) =>
      cases isRead
      have once := wellFormed _ rfl
      refine ⟨_, rfl, fun _ _ isLeaf => not_free_mergeItem once isLeaf,
        fun path leaf isLeaf => ?_⟩
      have leaves := @at_mergeItem_eq_leaf path (some (settingsWith ttls).plain) _ leaf
        once
      rcases leaves.mp isLeaf with given | ⟨-, isDefault⟩
      · exact settled _ rfl path leaf given
      · exact defaults isDefault

end Reads

/-! ## The update and the next read -/

section Reread

variable {column : Leaf → Leaf} {ttls : TokenTtl → Int} {pydantic : Pydantic}
variable {body : Entries} {updates : TenantSettingsUpdate} {merged : Entries}

theorem section_of_fieldAt {name key : String} {field : Field}
    (isField : fieldAt name key = some field) : name ∈ sectionKeys := by
  obtain ⟨model, isModel, -⟩ := Option.bind_eq_some_iff.mp isField
  exact List.mem_map_of_mem (f := Prod.fst) (mem_of_lookup isModel)

/-- No default comes back in place of what is updated. -/
theorem not_free_updated
    (valid : TenantSettingsUpdate.ofBody pydantic (.object body) = some updates)
    (taken : ∀ path leaf, (settingsWith ttls).plain.at path = some (.leaf leaf) →
      ¬ (Json.object merged).Free path) {path : List String} {leaf : Leaf}
    (isDefault : (settingsWith ttls).plain.at path = some (.leaf leaf)) :
    ¬ (mergeItem (some (.object (sections merged).entries))
      (.object (settingsUpdate updates))).Free path := by
  obtain ⟨name, key, field, rfl, isField, -⟩ := field_of_default isDefault
  have isSection := section_of_fieldAt isField
  have once := wellFormed_update valid
  cases found : (settingsUpdate updates).lookup name with
  | none =>
      intro free
      rw [mergeItem, free_cons, lookup_merge once.nodup, found] at free
      refine taken _ _ isDefault (free_cons.mpr fun value isValue => ?_)
      refine free value ?_
      dsimp only
      rw [lookup_sections isSection, isValue, Option.getD_some]
  | some value =>
      obtain ⟨model, given, dump, -, isGiven, -, -⟩ := given_of_lookup valid found
      obtain ⟨value, -, atField⟩ := exists_at_field valid isField isGiven
      exact not_free_at_leaf ((at_mergeItem_eq_leaf once).mpr (.inl atField))

theorem plain_of_validate {type : FieldType} {given leaf : Leaf}
    (valid : type.validate pydantic given = some leaf) : isPlain leaf = true := by
  cases type with
  | bool =>
      obtain ⟨value, -, rfl⟩ := Option.map_eq_some_iff.mp valid
      rfl
  | int ge le =>
      obtain ⟨value, -, rfl⟩ := Option.map_eq_some_iff.mp valid
      rfl
  | string =>
      cases given <;> cases valid
      rfl
  | optionalString =>
      cases given <;> cases valid <;> rfl
  | strings =>
      cases given with
      | array items =>
          rw [FieldType.validate] at valid
          split at valid
          case isTrue strings =>
            cases valid
            exact strings
          case isFalse => cases valid
      | _ => cases valid

theorem plain_of_update
    (valid : TenantSettingsUpdate.ofBody pydantic (.object body) = some updates)
    {path : List String} {leaf : Leaf}
    (isLeaf : (Json.object (settingsUpdate updates)).at path = some (.leaf leaf)) :
    isPlain leaf = true := by
  obtain ⟨name, key, field, given, -, isField, -, isValue⟩ := field_of_leaf valid isLeaf
  obtain ⟨model, isModel, isField⟩ := Option.bind_eq_some_iff.mp isField
  match found : given.lookup key with
  | none =>
      rw [found] at isValue
      cases isValue
      exact plain_defaults _ (mem_of_lookup isModel) _ (mem_of_lookup isField)
  | some (.leaf other) =>
      rw [found] at isValue
      exact plain_of_validate isValue
  | some (.object _) =>
      rw [found] at isValue
      cases isValue

theorem merged_reread {codec : Codec} (stores : Stores codec column)
    (valid : TenantSettingsUpdate.ofBody pydantic (.object body) = some updates)
    (taken : ∀ path leaf, (settingsWith ttls).plain.at path = some (.leaf leaf) →
      ¬ (Json.object merged).Free path)
    (settled : ∀ path leaf, (Json.object merged).at path = some (.leaf leaf) →
      column leaf = leaf) {stored : Json}
    (isStored : (codec.orjson (.object
        (merge (sections merged).entries (settingsUpdate updates)))).bind
      codec.jsonb = some stored) :
    ∃ later, readSettings (settingsWith ttls).plain (some (some stored)) = .ok later ∧
      Merged (.object (settingsUpdate updates)) (.object (sections merged).entries)
        (.object later.entries) := by
  have once := wellFormed_update valid
  have keeps := stores.keeps _ _ isStored
  have leaves {path : List String} {leaf : Leaf} :=
    @at_mergeItem_eq_leaf path (some (.object (sections merged).entries)) _ leaf once
  have same := at_stored_iff keeps fun path leaf isLeaf => by
    rcases leaves.mp isLeaf with isNew | ⟨-, isOld⟩
    · exact stores.plain leaf (plain_of_update valid isNew)
    · exact settled path leaf (at_sections_iff.mp isOld).2
  match stored with
  | .leaf leaf => cases keeps []
  | .object overrides =>
      have reread {path : List String} {leaf : Leaf} :=
        @at_mergeItem_eq_leaf path (some (settingsWith ttls).plain) _ leaf
          (stores.wellFormed _ _ isStored)
      refine ⟨_, rfl, fun path leaf => at_sections_iff.trans ?_⟩
      constructor
      · rintro ⟨-, isLeaf⟩
        rcases reread.mp isLeaf with kept | ⟨free, isDefault⟩
        · exact leaves.mp ((same path leaf).mp kept)
        · exact absurd (free_of_stored_free keeps free)
            (not_free_updated valid taken isDefault)
      · intro isLeaf
        refine ⟨?_, reread.mpr (.inl ((same path leaf).mpr (leaves.mpr isLeaf)))⟩
        rcases isLeaf with isNew | ⟨-, isOld⟩
        · obtain ⟨name, key, _, _, rfl, isField, -⟩ := field_of_leaf valid isNew
          exact ⟨name, section_of_fieldAt isField, [key], rfl⟩
        · exact (at_sections_iff.mp isOld).1

end Reread

/-! ## The request -/

section Request

variable {codec : Codec} {column : Leaf → Leaf} {pydantic : Pydantic}
variable {db reader : Connection} {user : TokenService.VerifiedTokenData}
variable {body : Entries} {updates : TenantSettingsUpdate}
variable {service after : Service} {view : View}
variable {stored : Option Json} {before : Json}
variable {answer : Except HTTPException Value}

theorem settingsDocument_eq {tenantId : String} (shows : Shows service view) :
    settingsDocument codec reader tenantId service =
      (readSettings view.defaults (view.seen reader tenantId)).toOption.map
        fun response => .object response.entries := by
  rw [settingsDocument, settingsOf_eq shows]

theorem merged_nothing (entries : Entries) :
    Merged (.object []) (.object entries) (.object entries) := by
  intro path leaf
  match path with
  | [] => exact iff_of_false nofun (by rintro (isLeaf | ⟨-, isLeaf⟩) <;> cases isLeaf)
  | key :: rest =>
      have free : (Json.object []).Free (key :: rest) := free_cons.mpr nofun
      exact ⟨fun isLeaf => .inr ⟨free, isLeaf⟩, fun isLeaf =>
        isLeaf.elim (fun isNew => nomatch isNew) And.right⟩

theorem related_updateCurrentTenantSettings (codec : Codec) (db : Connection)
    (isAdmin : IsAdmin user) (nonempty : ¬ (settingsUpdate updates).isEmpty = true) :
    Related Shows (fun _ _ => True)
      (updateCurrentTenantSettings codec db user updates)
      (View.updateSettings codec db false user.tenantId
        (.object (settingsUpdate updates)) >>= fun _ => pure ()) := by
  rw [updateCurrentTenantSettings, if_neg (not_not.mpr isAdmin), if_neg nonempty,
    ← bind_assoc]
  exact related_bind (related_load_updateTenantSettings codec db false _ _)
    fun _ _ _ => related_pure trivial

/-- A request that returns has changed nothing, for want of sections, or written
what it read with its sections merged in. -/
theorem written_after (isAdmin : IsAdmin user) (shows : Shows service view)
    (ran : updateCurrentTenantSettings codec db user updates service =
      .ok answer after) :
    (settingsUpdate updates = [] ∧ after = service) ∨
      ∃ later read, Shows after later ∧ later.ttls = view.ttls ∧
        readSettings view.defaults (view.seen db user.tenantId) = .ok read ∧
        MfaGate.Wrote codec db user.tenantId
          (.object (merge read.entries (settingsUpdate updates))) view later := by
  by_cases isEmpty : (settingsUpdate updates).isEmpty = true
  · rw [updateCurrentTenantSettings, if_neg (not_not.mpr isAdmin), if_pos isEmpty]
      at ran
    cases ran
    exact .inl ⟨List.isEmpty_iff.mp isEmpty, rfl⟩
  have related := related_updateCurrentTenantSettings codec db isAdmin isEmpty service
    view shows
  rw [ran] at related
  rcases MfaGate.updateSettings_cases (settingsUpdate updates) with
    ⟨error, later, failed, -⟩ | ⟨updated, later, read, ranView, isView, wrote⟩
  · rw [run_bind_of_error failed] at related
    cases related
  · rw [run_bind_of_ok ranView] at related
    have sameTtls := ttls_after_updateSettings codec db user.tenantId
      (.object (settingsUpdate updates)) view
    rw [after_of_ok ranView] at sameTtls
    exact .inr ⟨later, read, related.2, sameTtls, isView, wrote⟩

theorem merged_after (stores : Stores codec column) (isAdmin : IsAdmin user)
    (valid : TenantSettingsUpdate.ofBody pydantic (.object body) = some updates)
    (shows : Shows service view)
    (hasRow : service.settings user.tenantId = some stored)
    (wellFormed : RowWellFormed (some stored)) (settled : Settled column stored)
    (reads : reader.sees user.tenantId = true) (sees : db.sees user.tenantId = true)
    (isBefore : settingsDocument codec reader user.tenantId service = some before)
    (ran : updateCurrentTenantSettings codec db user updates service =
      .ok answer after) :
    ∃ later, settingsDocument codec reader user.tenantId after = some later ∧
      Merged (.object (settingsUpdate updates)) before later := by
  have hasRow' : view.settings user.tenantId = some stored := shows.settings ▸ hasRow
  have seen (used : Connection) (sees : used.sees user.tenantId = true) :
      view.seen used user.tenantId = some stored :=
    (selectSettings_of_sees sees).trans hasRow'
  rw [settingsDocument_eq shows, seen reader reads] at isBefore
  obtain ⟨current, isCurrent, rfl⟩ := Option.map_eq_some_iff.mp isBefore
  have isRead : readSettings view.defaults (some stored) = .ok current := by
    cases read : readSettings view.defaults (some stored) with
    | ok response =>
        rw [read] at isCurrent
        cases isCurrent
        rfl
    | error error =>
        rw [read] at isCurrent
        cases isCurrent
  rcases written_after isAdmin shows ran with
    ⟨isEmpty, rfl⟩ | ⟨later, read, showsLater, sameTtls, isView, wrote⟩
  · rw [settingsDocument_eq shows, seen reader reads, isRead, isEmpty]
    exact ⟨_, rfl, merged_nothing _⟩
  · obtain ⟨document, isStored, rows⟩ := wrote
    rw [seen db sees] at isView
    cases isRead.symm.trans isView
    have row : later.seen reader user.tenantId = some (some document) := by
      rw [View.seen, selectSettings_of_sees reads, rows, storeSettings_of_sees sees,
        Function.update_self, hasRow', Option.map_some]
    obtain ⟨merged, rfl, taken, kept⟩ :=
      exists_merged stores.plain wellFormed settled isRead
    obtain ⟨response, isLater, isMerged⟩ :=
      merged_reread stores valid taken kept isStored
    refine ⟨_, ?_, isMerged⟩
    rw [settingsDocument_eq showsLater, row, View.defaults, sameTtls, isLater]
    rfl

/-- Over a connection that does not see the row the settings stay. -/
theorem document_after_hidden (isAdmin : IsAdmin user) (shows : Shows service view)
    (hidden : db.sees user.tenantId = false)
    (ran : updateCurrentTenantSettings codec db user updates service =
      .ok answer after) :
    settingsDocument codec reader user.tenantId after =
      settingsDocument codec reader user.tenantId service := by
  rcases written_after isAdmin shows ran with
    ⟨-, rfl⟩ | ⟨later, read, showsLater, sameTtls, -, ⟨_, -, rows⟩⟩
  · rfl
  · rw [storeSettings_of_hidden hidden] at rows
    rw [settingsDocument_eq showsLater, settingsDocument_eq shows, View.defaults,
      View.defaults, sameTtls, View.seen, View.seen, rows]

/-- The update of an administrator is partial exactly under the condition. -/
theorem update_partial_iff (stores : Stores codec column) (isAdmin : IsAdmin user)
    (valid : TenantSettingsUpdate.ofBody pydantic (.object body) = some updates)
    (shows : Shows service view)
    (hasRow : service.settings user.tenantId = some stored)
    (wellFormed : RowWellFormed (some stored)) (settled : Settled column stored)
    (reads : reader.sees user.tenantId = true)
    (isBefore : settingsDocument codec reader user.tenantId service = some before)
    (ran : updateCurrentTenantSettings codec db user updates service =
      .ok answer after) :
    (∃ later, settingsDocument codec reader user.tenantId after = some later ∧
        Patched (.object body) before later) ↔
      IsPartial pydantic db user.tenantId (.object body) before := by
  unfold IsPartial
  cases sees : db.sees user.tenantId with
  | true =>
      obtain ⟨later, isLater, merged⟩ := merged_after stores isAdmin valid shows
        hasRow wellFormed settled reads sees isBefore ran
      rw [if_pos rfl]
      constructor
      · rintro ⟨other, isOther, patched⟩
        cases isLater.symm.trans isOther
        exact condition_of_patched valid merged patched
      · intro condition
        exact ⟨later, isLater, patched_of_condition valid merged condition⟩
  | false =>
      rw [document_after_hidden isAdmin shows sees ran, isBefore,
        if_neg Bool.false_ne_true]
      constructor
      · rintro ⟨_, ⟨⟩, patched⟩
        exact patched.given
      · exact fun holds => ⟨before, rfl, fun _ _ isLeaf _ => isLeaf, holds⟩

end Request

/-! ## Two updates -/

/-- Values of other types are refused. -/
def strict : Pydantic where
  boolOf _ := none
  intOf _ := none

def administrator : TokenService.VerifiedTokenData where
  email := "ada@example.com"
  tenantId := "t"
  policy := none
  role := some "admin"
  userId := "ada"
  exp := none
  iat := none
  aud := none

/-- The tenant requires MFA of its administrators. -/
def mfaRequired : Json :=
  .object [("mfa", .object [("required_for_admins", .leaf (.bool true))])]

def started : Service where
  settings _ := some (some mfaRequired)

def shorterIdle : Entries :=
  [("session", .object [("idle_timeout_minutes", .leaf (.int 15))])]

def mfaEnabled : Entries :=
  [("mfa", .object [("enabled", .leaf (.bool true))])]

theorem stores_strictCodec : Stores MfaGate.strictCodec id where
  keeps document stored accepted path := by
    rw [MfaGate.strictCodec_stores accepted]
  wellFormed document stored accepted := by
    have same := MfaGate.strictCodec_stores accepted
    change (if MfaGate.keysOnce document then some document else none) = some stored
      at accepted
    split at accepted
    case isTrue once => exact same ▸ MfaGate.wellFormed_of_keysOnce _ once
    case isFalse => cases accepted
  plain _ _ := rfl

/-- The call returns. -/
def returns (result : EStateM.Result PyError Service (Except HTTPException Value)) :
    Bool :=
  match result with
  | .ok _ _ => true
  | .error _ _ => false

theorem exists_of_returns
    {result : EStateM.Result PyError Service (Except HTTPException Value)}
    (returned : returns result = true) : ∃ answer after, result = .ok answer after := by
  cases result with
  | ok answer after => exact ⟨answer, after, rfl⟩
  | error _ _ => cases returned

theorem shows_started :
    Shows started { settings := fun _ => some (some mfaRequired) } :=
  ⟨rfl, Nat.le_refl 7, rfl, rfl, rfl⟩

theorem wellFormed_mfaRequired : RowWellFormed (some (some mfaRequired)) := by
  rintro _ ⟨⟩
  exact MfaGate.wellFormed_of_keysOnce _ rfl

theorem shorterIdle_losesNothing {before : Json}
    (sessions : before.at ["session", "max_concurrent_sessions"] =
      some (.leaf (.int 5)))
    (hours : before.at ["session", "absolute_timeout_hours"] =
      some (.leaf (.int 24))) :
    LosesNothing strict (.object shorterIdle) before where
  omitted name key field given rest leaf isField isGiven isOmitted isLeaf := by
    cases mem_of_lookup (at_section.mp isGiven) with
    | tail _ mem => cases mem
    | head =>
        have fieldMem : (key, field) ∈ sessionSettings := mem_of_lookup isField
        simp only [sessionSettings, List.mem_cons, Prod.mk.injEq, List.not_mem_nil,
          or_false] at fieldMem
        rcases fieldMem with ⟨rfl, rfl⟩ | ⟨rfl, rfl⟩ | ⟨rfl, rfl⟩
        · have below := @at_below _ _ rest _ sessions
          exact (at_leaf_eq (below.symm.trans isLeaf)).imp_right Eq.symm
        · cases isOmitted
        · have below := @at_below _ _ rest _ hours
          exact (at_leaf_eq (below.symm.trans isLeaf)).imp_right Eq.symm
  validated name key field leaf isField isLeaf := by
    obtain ⟨given, isGiven, isHere⟩ := given_of_at_field isLeaf
    cases mem_of_lookup isGiven with
    | tail _ mem => cases mem
    | head =>
        cases mem_of_lookup isHere with
        | tail _ mem => cases mem
        | head =>
            cases isField
            rfl
  other path leaf isLeaf noField := by
    obtain _ | ⟨name, rest⟩ := path
    · cases isLeaf
    obtain ⟨child, isChild, isLeaf⟩ := Option.bind_eq_some_iff.mp isLeaf
    cases mem_of_lookup isChild with
    | tail _ mem => cases mem
    | head =>
        obtain _ | ⟨key, deeper⟩ := rest
        · cases isLeaf
        obtain ⟨value, isValue, isLeaf⟩ := Option.bind_eq_some_iff.mp isLeaf
        cases mem_of_lookup isValue with
        | tail _ mem => cases mem
        | head =>
            obtain ⟨rfl, -⟩ := at_leaf_eq isLeaf
            cases noField "session" "idle_timeout_minutes" rfl

/-- A shorter idle timeout changes nothing else. -/
theorem shorterIdle_partial :
    ∃ updates before answer after later,
      TenantSettingsUpdate.ofBody strict (.object shorterIdle) = some updates ∧
      settingsDocument MfaGate.strictCodec (.forTenant "t") "t" started =
        some before ∧
      updateCurrentTenantSettings MfaGate.strictCodec (.forTenant "t") administrator
          updates started = .ok answer after ∧
      settingsDocument MfaGate.strictCodec (.forTenant "t") "t" after = some later ∧
      Patched (.object shorterIdle) before later := by
  obtain ⟨updates, isValid, returned⟩ : ∃ updates,
      TenantSettingsUpdate.ofBody strict (.object shorterIdle) = some updates ∧
      returns (updateCurrentTenantSettings MfaGate.strictCodec (.forTenant "t")
        administrator updates started) = true := ⟨_, rfl, by decide +kernel⟩
  obtain ⟨answer, after, ran⟩ := exists_of_returns returned
  obtain ⟨before, isBefore, sessions, hours⟩ : ∃ before,
      settingsDocument MfaGate.strictCodec (.forTenant "t") "t" started =
        some before ∧
      before.at ["session", "max_concurrent_sessions"] = some (.leaf (.int 5)) ∧
      before.at ["session", "absolute_timeout_hours"] = some (.leaf (.int 24)) :=
    ⟨_, rfl, rfl, rfl⟩
  obtain ⟨later, isLater, patched⟩ := (update_partial_iff stores_strictCodec
    (by decide) isValid shows_started rfl wellFormed_mfaRequired
    (fun _ _ _ _ _ => rfl) rfl isBefore ran).mpr
      (shorterIdle_losesNothing sessions hours)
  exact ⟨updates, before, answer, after, later, isValid, isBefore, ran, isLater,
    patched⟩

/-- When MFA is enabled, the administrators need it no more. -/
theorem mfaEnabled_not_partial :
    ∃ updates before answer after,
      TenantSettingsUpdate.ofBody strict (.object mfaEnabled) = some updates ∧
      settingsDocument MfaGate.strictCodec (.forTenant "t") "t" started =
        some before ∧
      updateCurrentTenantSettings MfaGate.strictCodec (.forTenant "t") administrator
          updates started = .ok answer after ∧
      ¬ ∃ later, settingsDocument MfaGate.strictCodec (.forTenant "t") "t" after =
          some later ∧
        Patched (.object mfaEnabled) before later := by
  obtain ⟨updates, isValid, returned, isFalse⟩ : ∃ updates,
      TenantSettingsUpdate.ofBody strict (.object mfaEnabled) = some updates ∧
      returns (updateCurrentTenantSettings MfaGate.strictCodec (.forTenant "t")
        administrator updates started) = true ∧
      (Json.object (settingsUpdate updates)).at ["mfa", "required_for_admins"] =
        some (.leaf (.bool false)) := ⟨_, rfl, by decide +kernel, rfl⟩
  obtain ⟨answer, after, ran⟩ := exists_of_returns returned
  obtain ⟨before, isBefore, isTrue⟩ : ∃ before,
      settingsDocument MfaGate.strictCodec (.forTenant "t") "t" started =
        some before ∧
      before.at ["mfa", "required_for_admins"] = some (.leaf (.bool true)) :=
    ⟨_, rfl, rfl⟩
  refine ⟨updates, before, answer, after, isValid, isBefore, ran, ?_⟩
  rintro ⟨later, isLater, patched⟩
  obtain ⟨other, isOther, merged⟩ := merged_after stores_strictCodec (by decide) isValid
    shows_started rfl wellFormed_mfaRequired (fun _ _ _ _ _ => rfl) rfl rfl isBefore
    ran
  cases isLater.symm.trans isOther
  have kept := patched.kept _ _ isTrue (untouched_of_omitted rfl rfl)
  cases kept.symm.trans ((merged _ _).mpr (.inl isFalse))

end SettingsPatch

end HexIam
