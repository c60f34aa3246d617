import HandlePool.Proofs.Config.RoundTrip
import Mathlib.Data.Finset.Lattice.Lemmas

/-!
# Documents that give some settings

A document of a façade configuration may give any of its settings, in any order
and with members of other names anywhere among them.  It means the default
configuration with the given settings in place of the default ones, unless it
gives a setting twice.
-/

namespace HandlePool

/-- One of the settings of a façade configuration. -/
inductive Setting where
  | readMaxSize
  | writeMaxSize
  | readIdle
  | writeIdle
  | policy
  deriving DecidableEq, Repr

namespace Setting

/-- The settings in the order of the compact document. -/
def all : List Setting :=
  [.readMaxSize, .writeMaxSize, .readIdle, .writeIdle, .policy]

/-- The key of a setting. -/
def name : Setting → String
  | .readMaxSize => "read_cache_max_size"
  | .writeMaxSize => "write_cache_max_size"
  | .readIdle => "read_idle_expiration"
  | .writeIdle => "write_idle_expiration"
  | .policy => "replace_policy"

/-- The written form of a setting. -/
def text (config : FacadeConfig) : Setting → String
  | .readMaxSize => toString config.readMaxSize
  | .writeMaxSize => toString config.writeMaxSize
  | .readIdle => Json.written config.readIdle.spell
  | .writeIdle => Json.written config.writeIdle.spell
  | .policy => Json.written config.policy.name

/-- The written settings are all members of the compact document. -/
theorem members_eq
    (config : FacadeConfig) :
    config.members = all.map fun setting =>
      (setting.name, setting.text config) :=
  rfl

end Setting

namespace FacadeConfig

/-- The default configuration with these settings in place
of the default ones. -/
def limitedTo (config : FacadeConfig) (given : Finset Setting) : FacadeConfig :=
  let standard : FacadeConfig := {}
  { readMaxSize := if .readMaxSize ∈ given then config.readMaxSize
    else standard.readMaxSize
    writeMaxSize := if .writeMaxSize ∈ given then config.writeMaxSize
      else standard.writeMaxSize
    readIdle := if .readIdle ∈ given then config.readIdle else standard.readIdle
    writeIdle := if .writeIdle ∈ given then config.writeIdle
      else standard.writeIdle
    policy := if .policy ∈ given then config.policy else standard.policy }

/-- What is known of a configuration once these settings were read. -/
def draftOf (config : FacadeConfig) (given : Finset Setting) : Draft where
  readMaxSize := if .readMaxSize ∈ given then some config.readMaxSize else none
  writeMaxSize := if .writeMaxSize ∈ given
    then some config.writeMaxSize else none
  readIdle := if .readIdle ∈ given then some config.readIdle else none
  writeIdle := if .writeIdle ∈ given then some config.writeIdle else none
  policy := if .policy ∈ given then some config.policy else none

theorem build_draftOf
    (config : FacadeConfig)
    (given : Finset Setting) :
    record.build (config.draftOf given) = config.limitedTo given := by
  have chosen {α : Type} (isGiven : Prop) [Decidable isGiven]
      (value standard : α) :
      (if isGiven then some value else none).getD standard =
        if isGiven then value else standard := by
    split <;> rfl
  simp only [record, Draft.build, draftOf, limitedTo, chosen]

/-- The draft with the written form of one more setting read into it. -/
def Draft.give (draft : Draft) (config : FacadeConfig) : Setting → Draft
  | .readMaxSize => { draft with readMaxSize := some config.readMaxSize }
  | .writeMaxSize => { draft with writeMaxSize := some config.writeMaxSize }
  | .readIdle => { draft with readIdle := some config.readIdle }
  | .writeIdle => { draft with writeIdle := some config.writeIdle }
  | .policy => { draft with policy := some config.policy }

theorem draftOf_insert
    (config : FacadeConfig)
    (setting : Setting)
    (given : Finset Setting) :
    config.draftOf (insert setting given) =
      (config.draftOf given).give config setting := by
  cases setting <;> simp [draftOf, Draft.give]

/-- Every setting has a slot, which is filled once the setting was read, and
takes its written form. -/
theorem exists_slot
    (config : FacadeConfig)
    (setting : Setting) :
    ∃ slot, record.slots.find? (fun slot => slot.name == setting.name) =
      some slot ∧ slot.name = setting.name ∧
      (∀ given, slot.filled (config.draftOf given) = decide (setting ∈ given)) ∧
      ∀ draft, Json.Reads (slot.read draft) (Json.exactly (setting.text config))
        (draft.give config setting) := by
  have isSome {α : Type} (isGiven : Prop) [Decidable isGiven] (value : α) :
      (if isGiven then some value else none).isSome = decide isGiven := by
    by_cases holds : isGiven <;> simp [holds]
  cases setting with
  | readMaxSize =>
      refine ⟨_, rfl, rfl, fun _ => isSome _ _, fun draft => ?_⟩
      exact Json.Record.reads_field (Json.reads_count _) draft
  | writeMaxSize =>
      refine ⟨_, rfl, rfl, fun _ => isSome _ _, fun draft => ?_⟩
      exact Json.Record.reads_field (Json.reads_count _) draft
  | readIdle =>
      refine ⟨_, rfl, rfl, fun _ => isSome _ _, fun draft => ?_⟩
      exact Json.Record.reads_field (Json.reads_duration _) draft
  | writeIdle =>
      refine ⟨_, rfl, rfl, fun _ => isSome _ _, fun draft => ?_⟩
      exact Json.Record.reads_field (Json.reads_duration _) draft
  | policy =>
      refine ⟨_, rfl, rfl, fun _ => isSome _ _, fun draft => ?_⟩
      exact Json.Record.reads_field config.policy.reads_name draft

end FacadeConfig

/-! ## Members of a document -/

/-- A member of a document: a setting, or anything under another name. -/
inductive ConfigMember where
  | gives (setting : Setting)
  | other (name : String) (foreign : ∀ setting : Setting, name ≠ setting.name)

namespace ConfigMember

/-- The key and the forms of the value: the written form of a setting, and every
well-formed value under another name. -/
def field (config : FacadeConfig) : ConfigMember → Json.Field
  | .gives setting => (setting.name, Json.exactly (setting.text config))
  | .other name _ => (name, Json.values)

/-- The setting that a member gives, if it gives one. -/
def setting? : ConfigMember → Option Setting
  | .gives setting => some setting
  | .other _ _ => none

/-- The settings that members give, one after another. -/
def given (entries : List ConfigMember) : List Setting :=
  entries.filterMap setting?

theorem given_append
    (entries later : List ConfigMember) :
    given (entries ++ later) = given entries ++ given later :=
  List.filterMap_append

end ConfigMember

namespace FacadeConfig

theorem find?_slots_of_foreign
    {name : String}
    (foreign : ∀ setting : Setting, name ≠ setting.name) :
    record.slots.find? (fun slot => slot.name == name) = none := by
  have isName : ∀ slot ∈ record.slots, ∃ setting :
      Setting, slot.name = setting.name := by
    simp only [record, List.forall_mem_cons]
    exact ⟨⟨.readMaxSize, rfl⟩, ⟨.writeMaxSize, rfl⟩, ⟨.readIdle, rfl⟩,
      ⟨.writeIdle, rfl⟩, ⟨.policy, rfl⟩, List.forall_mem_nil _⟩
  rw [List.find?_eq_none]
  intro slot among same
  obtain ⟨setting, isNamed⟩ := isName slot among
  exact foreign setting ((eq_of_beq same).symm.trans isNamed)

/-- Members that give no setting twice, and none that was given before, take the
draft on by the settings they give. -/
theorem takes_entries
    (config : FacadeConfig)
    {entries : List ConfigMember}
    (once : (ConfigMember.given entries).Nodup)
    {past : Finset Setting}
    (isNew : ∀ setting ∈ ConfigMember.given entries, setting ∉ past) :
    record.Takes (config.draftOf past) (entries.map (ConfigMember.field config))
      (config.draftOf (past ∪ (ConfigMember.given entries).toFinset)) := by
  induction entries generalizing past with
  | nil =>
      rw [ConfigMember.given, List.filterMap_nil, List.toFinset_nil,
        Finset.union_empty]
      exact .done
  | cons entry entries inductionHypothesis =>
      cases entry with
      | other name foreign =>
          exact .other (find?_slots_of_foreign foreign) (Set.Subset.refl _)
            (inductionHypothesis once isNew)
      | gives setting =>
          have split : ConfigMember.given (.gives setting :: entries) =
            setting :: ConfigMember.given entries := rfl
          rw [split, List.nodup_cons] at once
          rw [split, List.forall_mem_cons] at isNew
          obtain ⟨slot, named, -, filled, reads⟩ := config.exists_slot setting
          refine .slot named ?_ (reads _) ?_
          · rw [filled, decide_eq_false isNew.1]
          · rw [← draftOf_insert, split, List.toFinset_cons,
              Finset.union_insert, ← Finset.insert_union]
            refine inductionHypothesis once.2 fun later among => ?_
            rw [Finset.mem_insert, not_or]
            exact ⟨fun same => once.1 (same ▸ among), isNew.2 later among⟩

/-! ## Documents -/

variable {entries : List ConfigMember} {document : List UInt8}

theorem draftOf_empty
    (config : FacadeConfig) :
    config.draftOf ∅ = record.blank := by
  simp [draftOf, record]

theorem takes_blank
    (config : FacadeConfig)
    (once : (ConfigMember.given entries).Nodup) :
    record.Takes record.blank (entries.map (ConfigMember.field config))
      (config.draftOf (ConfigMember.given entries).toFinset) := by
  have takes := config.takes_entries once fun setting _ =>
    Finset.notMem_empty setting
  rw [draftOf_empty, Finset.empty_union] at takes
  exact takes

/-- The compact document gives all settings in their order. -/
theorem document_mem_documents
    (config : FacadeConfig) :
    Utf8.encode config.document.toList ∈
      Json.documents
        ((Setting.all.map ConfigMember.gives).map
          (ConfigMember.field config)) := by
  have plainNames (setting : Setting) : Json.ArePlain setting.name.toList := by
    cases setting <;> decide
  have plain : ∀ field ∈ Json.fieldsOf config.members,
      Json.ArePlain field.1.toList := by
    rw [Setting.members_eq, Json.fieldsOf, List.forall_mem_map,
      List.forall_mem_map]
    exact fun setting _ => plainNames setting
  exact Json.mem_documents_of_layouts plain config.document_mem_layouts

theorem ofDocument_of_once
    (config : FacadeConfig)
    (once : (ConfigMember.given entries).Nodup)
    (isDocument : document ∈
      Json.documents (entries.map (ConfigMember.field config))) :
    ofDocument document =
      .ok (config.limitedTo (ConfigMember.given entries).toFinset) := by
  rw [← build_draftOf]
  exact Json.Record.readDocument_of_takes (config.takes_blank once)
    rfl isDocument

/-- A setting that was given before is refused where it is given again. -/
theorem ofDocument_of_again
    (config : FacadeConfig)
    (once : (ConfigMember.given entries).Nodup)
    {setting : Setting}
    (again : setting ∈ ConfigMember.given entries)
    {forms : Set (List UInt8)}
    {later : List Json.Field}
    (isDocument : document ∈
      Json.documents
        (entries.map (ConfigMember.field config) ++
          (setting.name, forms) :: later)) :
    ∃ place, ofDocument document =
      .error (.document ⟨.duplicateField setting.name, place⟩) := by
  obtain ⟨slot, named, isName, filled, -⟩ := config.exists_slot setting
  rw [← isName]
  refine Json.Record.readDocument_of_filled (config.takes_blank once)
    named ?_ isDocument
  rw [filled, decide_eq_true (List.mem_toFinset.mpr again)]

/-- Where settings are given twice, one of them is the first
that was given before. -/
theorem exists_again
    (twice : ¬(ConfigMember.given entries).Nodup) :
    ∃ front setting back, entries = front ++ .gives setting :: back ∧
      (ConfigMember.given front).Nodup ∧
      setting ∈ ConfigMember.given front := by
  induction entries using List.reverseRecOn with
  | nil => exact absurd List.nodup_nil twice
  | append_singleton past entry inductionHypothesis =>
      rw [ConfigMember.given_append] at twice
      by_cases once : (ConfigMember.given past).Nodup
      · cases entry with
        | other name foreign =>
            have same : ConfigMember.given past ++ ConfigMember.given
                [.other name foreign] =
              ConfigMember.given past := List.append_nil _
            exact absurd once (same ▸ twice)
        | gives setting =>
            refine ⟨past, setting, [], rfl, once, ?_⟩
            by_contra isNew
            exact twice (List.concat_eq_append ▸ once.concat isNew)
      · obtain ⟨front, setting, back, rfl, isOnce, again⟩ :=
          inductionHypothesis once
        exact ⟨front, setting, back ++ [entry], by simp, isOnce, again⟩

/-- A document that gives each of some settings once means the default
configuration with these settings in place of the default ones, in whatever
order it gives them and whatever members of other names stand among them.  A
setting that was given before is refused as soon as its key comes again,
whatever follows; so a document with a setting in it twice is always refused.
The compact document is the one that gives all settings. -/
theorem partial_document_means
    (config : FacadeConfig)
    (entries : List ConfigMember) :
    let given := ConfigMember.given entries
    let fields := entries.map (ConfigMember.field config)
    (given.Nodup → ∀ document ∈ Json.documents fields,
      ofDocument document = .ok (config.limitedTo given.toFinset)) ∧
    (given.Nodup → ∀ setting ∈ given, ∀ forms later,
      ∀ document ∈ Json.documents (fields ++ (setting.name, forms) :: later),
        ∃ place, ofDocument document =
          .error (.document ⟨.duplicateField setting.name, place⟩)) ∧
    (¬given.Nodup → ∀ document ∈ Json.documents fields,
      ∃ setting place, 2 ≤ given.count setting ∧
        ofDocument document =
          .error (.document ⟨.duplicateField setting.name, place⟩)) ∧
    Utf8.encode config.document.toList ∈
      Json.documents
        ((Setting.all.map ConfigMember.gives).map
          (ConfigMember.field config)) := by
  intro given fields
  refine ⟨fun once document isDocument =>
    config.ofDocument_of_once once isDocument,
    fun once setting again forms later document isDocument =>
      config.ofDocument_of_again once again isDocument,
    fun twice document isDocument => ?_, config.document_mem_documents⟩
  obtain ⟨front, setting, back, rfl, once, again⟩ := exists_again twice
  have laidOut : fields = front.map (ConfigMember.field config) ++
      (setting.name, Json.exactly (setting.text config)) :: back.map
        (ConfigMember.field config) :=
    List.map_append
  rw [laidOut] at isDocument
  obtain ⟨place, refused⟩ := config.ofDocument_of_again once again isDocument
  refine ⟨setting, place, ?_, refused⟩
  have before : 1 ≤ (ConfigMember.given front).count setting :=
    List.count_pos_iff.mpr again
  have split :
      given = ConfigMember.given front ++ setting :: ConfigMember.given back :=
    ConfigMember.given_append front _
  rw [split, List.count_append, List.count_cons_self]
  omega

/-- A configuration with settings that are not the default ones. -/
def notedConfig : FacadeConfig :=
  { readMaxSize := 7, writeMaxSize := 9, policy := .retain }

/-- A note, and two of the settings. -/
def notedEntries : List ConfigMember :=
  [ .other "note" fun setting => by cases setting <;> decide, .gives .policy,
    .gives .readMaxSize ]

/-- The note is a list in a list, and the first letter of the
last key is numbered. -/
def notedText : String :=
  "\x7b\"note\": [[]], \"replace_policy\":\"retain\",\"\\u0072ead_cache_max_size\":7\x7d\n"

theorem noted_mem_documents :
    Utf8.encode notedText.toList ∈
      Json.documents (notedEntries.map (ConfigMember.field notedConfig)) := by
  have none : Json.AreBlank [] := List.forall_mem_nil _
  have one : Json.AreBlank [0x20] := List.forall_mem_singleton.mpr rfl
  have line : Json.AreBlank [0x0A] := List.forall_mem_singleton.mpr rfl
  have first : Json.Leads true [] := none
  have tight : Json.Leads false [0x2C] := ⟨[], [], none, none, rfl⟩
  have wide : Json.Leads false [0x2C, 0x20] := ⟨[], [0x20], none, one, rfl⟩
  have note : Json.IsPart .value [0x5B, 0x5B, 0x5D, 0x5D] :=
    @Json.IsPart.filled .list
      _ (.last (.element none (@Json.IsPart.empty .list _ none) none))
  have zero : Json.HexDigit 0x30 0 := .inl ⟨by decide, rfl⟩
  have seven : Json.HexDigit 0x37 7 := .inl ⟨by decide, rfl⟩
  have two : Json.HexDigit 0x32 2 := .inl ⟨by decide, rfl⟩
  have key : Json.Spells "read_cache_max_size".toList _ :=
    .numbered (.digits zero zero seven two)
      (Json.spells_encode
        (by decide : Json.ArePlain "ead_cache_max_size".toList))
  refine ⟨[], _, [0x0A], none,
    .member first (Json.spells_encode (by decide)) none one note
    (.member wide (Json.spells_encode (by decide)) none none rfl
      (.member tight key none none rfl (.close none))), line, ?_⟩
  decide

/-- The policy, and once more the policy with a value that is none. -/
def repeatedText : String :=
  "\x7b\"replace_policy\":\"retain\",\"replace_policy\":null\x7d"

theorem repeated_mem_documents :
    Utf8.encode repeatedText.toList ∈ Json.documents
      ([ConfigMember.gives .policy].map (ConfigMember.field notedConfig) ++
        [(Setting.policy.name, Json.exactly "null")]) := by
  have none : Json.AreBlank [] := List.forall_mem_nil _
  have first : Json.Leads true [] := none
  have tight : Json.Leads false [0x2C] := ⟨[], [], none, none, rfl⟩
  have key : Json.Spells Setting.policy.name.toList _ :=
    Json.spells_encode (by decide)
  refine ⟨[], _, [], none, .member first key none none rfl
    (.member tight key none none rfl (.close none)), none, ?_⟩
  decide

/-- A note is passed over, and the settings it stands among are taken; a second
policy is refused. -/
theorem partial_document_means_of_noted :
    (ConfigMember.given notedEntries).Nodup ∧
    Utf8.encode notedText.toList ∈
      Json.documents (notedEntries.map (ConfigMember.field notedConfig)) ∧
    ofDocument (Utf8.encode notedText.toList) =
      .ok { readMaxSize := 7, policy := .retain } ∧
    ∃ place, ofDocument (Utf8.encode repeatedText.toList) =
      .error (.document ⟨.duplicateField "replace_policy", place⟩) := by
  have once : (ConfigMember.given notedEntries).Nodup := by decide
  obtain ⟨means, -⟩ := partial_document_means notedConfig notedEntries
  obtain ⟨-, repeated, -⟩ := partial_document_means notedConfig [.gives .policy]
  refine ⟨once, noted_mem_documents, means once _ noted_mem_documents, ?_⟩
  exact repeated (by decide) .policy (by decide) _ _ _ repeated_mem_documents

end FacadeConfig
end HandlePool
