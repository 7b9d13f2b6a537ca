import Floorplan.Json.Config
import Floorplan.Proofs.Json.Fields

set_option autoImplicit false

namespace Floorplan

open Json (Document Found IsText Repeats RoundTrips asRead fieldOr? fields? parse? round_trips_iff)

namespace BudgetField

theorem all_complete (field : BudgetField) : field ∈ all := by
  cases field <;> decide

theorem name_injective : Function.Injective name := by
  intro f g same
  cases f <;> cases g <;> first | rfl | exact absurd same (by decide)

end BudgetField

namespace ConfigField

theorem all_complete (field : ConfigField) : field ∈ all := by
  cases field <;> decide

theorem name_injective : Function.Injective name := by
  intro f g same
  have names : (all.map name).Nodup := by decide
  exact List.inj_on_of_nodup_map names (all_complete f) (all_complete g) same

end ConfigField

namespace Budgets

def shown (budgets : Budgets) (fields : List BudgetField) : Budgets :=
  { placement := if .placement ∈ fields then budgets.placement else standard.placement
    perEdge := if .perEdge ∈ fields then budgets.perEdge else standard.perEdge
    pipeline := if .pipeline ∈ fields then budgets.pipeline else standard.pipeline }

def Gives (budgets : Budgets) (field : BudgetField) (value : Json) : Prop :=
  parse? (JsonForm.write (budgets.get field)).compact = some value

theorem read_document (budgets : Budgets) (fields : List BudgetField) (members : List (Json.Text × Json))
    (document : Document BudgetField.name budgets.Gives fields members) (once : fields.Nodup) :
    Budgets.read? (.object members) = some (budgets.shown fields) := by
  obtain ⟨given, run, found⟩ :=
    Json.fields_document document BudgetField.name_injective BudgetField.all_complete once
  have reads (field : BudgetField) (value : Json) (written : budgets.Gives field value) :
      JsonForm.read? value = some (budgets.get field) := by
    have back := Json.word32_round_trips (budgets.get field)
    rwa [RoundTrips, written, Option.bind_some] at back
  simp only [Budgets.read?, run, Option.bind_eq_bind, Option.bind_some, found.read _ _ _ (reads _)]
  rfl

end Budgets

namespace Config

def shown (config : Config Float) (fields : List ConfigField) (budgets : List BudgetField) : Config Float :=
  let default : Config Float := standard
  { width := if .width ∈ fields then config.width else default.width
    height := if .height ∈ fields then config.height else default.height
    roomCount := if .roomCount ∈ fields then config.roomCount else default.roomCount
    roomSizes := if .roomSizes ∈ fields then config.roomSizes else default.roomSizes
    roomPadding := if .roomPadding ∈ fields then config.roomPadding else default.roomPadding
    touchingFraction := if .touchingFraction ∈ fields then config.touchingFraction else default.touchingFraction
    corridorThickness :=
      if .corridorThickness ∈ fields then config.corridorThickness else default.corridorThickness
    crossing := if .crossing ∈ fields then config.crossing else default.crossing
    strategy := if .strategy ∈ fields then config.strategy else default.strategy
    metric := if .metric ∈ fields then config.metric else default.metric
    extraEdgeFraction :=
      if .extraEdgeFraction ∈ fields then config.extraEdgeFraction else default.extraEdgeFraction
    unroutable := if .unroutable ∈ fields then config.unroutable else default.unroutable
    budgets := if .budgets ∈ fields then config.budgets.shown budgets else default.budgets
    indexCellSize := if .indexCellSize ∈ fields then config.indexCellSize else default.indexCellSize }

def Gives (config : Config Float) (budgets : List BudgetField) : ConfigField → Json → Prop
  | .budgets, value =>
    ∃ members, value = .object members ∧ Document BudgetField.name config.budgets.Gives budgets members
  | field, value => parse? (config.fieldJson field).compact = some value

def numbers (config : Config Float) : List Float :=
  [config.touchingFraction, config.corridorThickness, config.extraEdgeFraction, config.indexCellSize]

theorem field_read {β : Type} [JsonForm β] {config : Config Float} {budgets : List BudgetField}
    {shown : List ConfigField} {fields : List (String × Json)}
    (found : Found ConfigField.name (config.Gives budgets) shown fields) (field : ConfigField) (x : β)
    (plain : field ≠ .budgets) (written : config.fieldJson field = JsonForm.write x) (back : RoundTrips x)
    (default : β) : fieldOr? fields field.name default = some (if field ∈ shown then x else default) := by
  apply found.read field x default
  intro value given
  have text : parse? (config.fieldJson field).compact = some value := by
    cases field <;> first | exact given | exact absurd rfl plain
  rwa [RoundTrips, ← written, text, Option.bind_some] at back

theorem budgets_read {config : Config Float} {budgets : List BudgetField} {shown : List ConfigField}
    {fields : List (String × Json)} (found : Found ConfigField.name (config.Gives budgets) shown fields)
    (once : budgets.Nodup) (default : Budgets) :
    fieldOr? fields (ConfigField.name .budgets) default
      = some (if .budgets ∈ shown then config.budgets.shown budgets else default) := by
  apply found.read .budgets
  rintro value ⟨members, rfl, document⟩
  exact config.budgets.read_document budgets members document once

theorem sizes_round_trip (sizes : List (UInt32 × UInt32)) : RoundTrips sizes :=
  Json.list_round_trips sizes fun size _ =>
    Json.pair_round_trips size.1 size.2 (Json.word32_round_trips size.1) (Json.word32_round_trips size.2)

theorem read_document (config : Config Float) (fields : List ConfigField) (budgets : List BudgetField)
    (members : List (Json.Text × Json)) (back : ∀ x ∈ config.numbers, RoundTrips x)
    (document : Document ConfigField.name (config.Gives budgets) fields members) (once : fields.Nodup)
    (budgetsOnce : budgets.Nodup) : Config.read? (.object members) = some (config.shown fields budgets) := by
  obtain ⟨given, run, found⟩ :=
    Json.fields_document document ConfigField.name_injective ConfigField.all_complete once
  obtain ⟨touchingBack, thicknessBack, extraBack, cellBack⟩ : RoundTrips config.touchingFraction
      ∧ RoundTrips config.corridorThickness ∧ RoundTrips config.extraEdgeFraction
      ∧ RoundTrips config.indexCellSize := by
    simpa [numbers] using back
  have width := field_read found .width _ nofun rfl (Json.word32_round_trips _)
  have height := field_read found .height _ nofun rfl (Json.word32_round_trips _)
  have roomCount := field_read found .roomCount _ nofun rfl (Json.word64_round_trips _)
  have roomSizes := field_read found .roomSizes _ nofun rfl (sizes_round_trip _)
  have roomPadding := field_read found .roomPadding _ nofun rfl (Json.word32_round_trips _)
  have touching := field_read found .touchingFraction _ nofun rfl touchingBack
  have thickness := field_read found .corridorThickness _ nofun rfl thicknessBack
  have crossing := field_read found .crossing _ nofun rfl
    (Json.named_round_trips (fun _ => rfl) (fun _ => rfl) _ (by cases config.crossing <;> rfl))
  have strategy := field_read found .strategy _ nofun rfl
    (Json.named_round_trips (fun _ => rfl) (fun _ => rfl) _ (by cases config.strategy <;> rfl))
  have metric := field_read found .metric _ nofun rfl
    (Json.named_round_trips (fun _ => rfl) (fun _ => rfl) _ (by cases config.metric <;> rfl))
  have extra := field_read found .extraEdgeFraction _ nofun rfl extraBack
  have unroutable := field_read found .unroutable _ nofun rfl
    (Json.named_round_trips (fun _ => rfl) (fun _ => rfl) _ (by cases config.unroutable <;> rfl))
  have budgetsRead := budgets_read found budgetsOnce
  have cell := field_read found .indexCellSize _ nofun rfl cellBack
  rw [Config.read?, run, Option.bind_eq_bind, Option.bind_some]
  simp only [Option.bind_eq_bind, Option.bind_some, width, height, roomCount, roomSizes, roomPadding, touching,
    thickness, crossing, strategy, metric, extra, unroutable, budgetsRead, cell]
  rfl

theorem shown_all (config : Config Float) : config.shown ConfigField.all BudgetField.all = config := by
  simp [shown, Budgets.shown, ConfigField.all, BudgetField.all]

theorem budgets_document (budgets : Budgets) :
    ∃ members, asRead (JsonForm.write budgets) = .object members
      ∧ Document BudgetField.name budgets.Gives BudgetField.all members := by
  apply Json.record_document fun field => JsonForm.write (budgets.get field)
  intro field _
  exact Json.parse_compact _

theorem written_document (config : Config Float) :
    ∃ members, asRead config.toJson = .object members
      ∧ Document ConfigField.name (config.Gives BudgetField.all) ConfigField.all members := by
  apply Json.record_document config.fieldJson
  intro field _
  cases field with
  | budgets => exact budgets_document config.budgets
  | _ => exact Json.parse_compact _

theorem read_budgets_twice (members inner : List (Json.Text × Json))
    (inside : (some (ConfigField.name .budgets), .object inner) ∈ members)
    (twice : Repeats BudgetField.name inner) : Config.read? (.object members) = none := by
  have broken : Budgets.read? (.object inner) = none := by
    rw [Budgets.read?, Json.repeated_unread twice BudgetField.all_complete]
    rfl
  cases run : fields? (ConfigField.all.map ConfigField.name) (.object members) with
  | none =>
      rw [Config.read?, run]
      rfl
  | some fields =>
      have looked := Json.member_found run ConfigField.all_complete .budgets _ inside
      have missing (default : Budgets) : fieldOr? fields (ConfigField.name .budgets) default = none := by
        rw [fieldOr?, looked]
        exact broken
      rw [Config.read?, run, Option.bind_eq_bind, Option.bind_some]
      -- whatever the twelve fields ahead of the budgets are read as
      iterate 12 refine Option.bind_eq_none_iff.mpr fun _ _ => ?_
      change (fieldOr? fields (ConfigField.name .budgets) (standard : Config Float).budgets).bind _ = none
      rw [missing]
      rfl

def checked (config : Config Float) : Except (ConfigError Float) (Config Float) := do
  config.validate
  pure config

theorem of_text_document (config : Config Float) (fields : List ConfigField) (budgets : List BudgetField)
    (members : List (Json.Text × Json)) (text : String) (back : ∀ x ∈ config.numbers, RoundTrips x)
    (document : Document ConfigField.name (config.Gives budgets) fields members) (once : fields.Nodup)
    (budgetsOnce : budgets.Nodup) (spelled : IsText (.object members) text) :
    Config.ofText text = (config.shown fields budgets).checked := by
  have read := config.read_document fields budgets members back document once budgetsOnce
  rw [Config.ofText, Json.parse_document _ text spelled, Option.bind_some, read]
  rfl

theorem of_written_text (config : Config Float) (back : ∀ x ∈ config.numbers, RoundTrips x) :
    Config.ofText config.text = config.checked := by
  obtain ⟨members, shape, document⟩ := config.written_document
  have spelled := Json.pretty_is_text config.toJson
  rw [shape] at spelled
  have read := config.of_text_document _ _ members _ back document (by decide) (by decide) spelled
  rwa [config.shown_all] at read

theorem read_twice (members : List (Json.Text × Json)) (twice : Repeats ConfigField.name members) :
    Config.read? (.object members) = none := by
  rw [Config.read?, Json.repeated_unread twice ConfigField.all_complete]
  rfl

theorem of_text_unread (members : List (Json.Text × Json)) (text : String)
    (spelled : IsText (.object members) text) (unread : Config.read? (.object members) = none) :
    Config.ofText text = .error .malformed := by
  rw [Config.ofText, Json.parse_document _ text spelled, Option.bind_some, unread]

end Config

-- Of the doubles it is asked that they are read back from their own text.
theorem config_documents_overlay (config : Config Float) (back : ∀ x ∈ config.numbers, RoundTrips x) :
    (∀ fields budgets members text, fields.Nodup → budgets.Nodup →
      Document ConfigField.name (config.Gives budgets) fields members → IsText (.object members) text →
      Config.ofText text = (config.shown fields budgets).checked)
    ∧ (config.validate = .ok () → Config.ofText config.text = .ok config)
    ∧ ∀ members text, IsText (.object members) text →
      (Repeats ConfigField.name members
        ∨ ∃ inner, (some (ConfigField.name .budgets), .object inner) ∈ members ∧ Repeats BudgetField.name inner) →
      Config.ofText text = .error .malformed := by
  refine ⟨fun fields budgets members text once budgetsOnce document spelled => ?_, fun valid => ?_,
    fun members text spelled twice => ?_⟩
  · exact config.of_text_document fields budgets members text back document once budgetsOnce spelled
  · rw [config.of_written_text back, Config.checked, valid]
    rfl
  · apply Config.of_text_unread members text spelled
    rcases twice with twice | ⟨inner, inside, twice⟩
    · exact Config.read_twice members twice
    · exact Config.read_budgets_twice members inner inside twice

theorem narrow_config_overlaid :
    ∃ config : Config Float, config.width = 40 ∧ config.budgets.perEdge = 4
      ∧ Config.ofText (Json.record [("crossing", Json.ofString "allow"), ("note", .array [.null]),
          ("budgets", Json.record [("per_edge", Json.ofNat 4)]), ("width", Json.ofNat 40)]).pretty = .ok config
      ∧ Config.ofText config.text = .ok config
      ∧ Config.ofText (Json.record [("width", Json.ofNat 40), ("width", Json.ofNat 4)]).compact
          = .error .malformed := by
  let config : Config Float :=
    { (Config.standard : Config Float) with
      width := 40, crossing := .allow, budgets := { Budgets.standard with perEdge := 4 } }
  have back : ∀ x ∈ config.numbers, RoundTrips x := by
    simp only [RoundTrips]
    decide +kernel
  have overlay := config_documents_overlay config back
  let few : Json := Json.record [("per_edge", Json.ofNat 4)]
  let given : Json := Json.record [("crossing", Json.ofString "allow"), ("note", .array [.null]),
    ("budgets", few), ("width", Json.ofNat 40)]
  let double : Json := Json.record [("width", Json.ofNat 40), ("width", Json.ofNat 4)]
  have inner : Document BudgetField.name config.budgets.Gives [.perEdge]
      [(some "per_edge", asRead (Json.ofNat 4))] :=
    .field BudgetField.perEdge _ _ _ (Json.parse_compact _) .empty
  have document : Document ConfigField.name (config.Gives [.perEdge]) [.crossing, .budgets, .width]
      [(some "crossing", asRead (Json.ofString "allow")), (some "note", .array [.null]),
        (some "budgets", .object [(some "per_edge", asRead (Json.ofNat 4))]),
        (some "width", asRead (Json.ofNat 40))] :=
    .field ConfigField.crossing _ _ _ (Json.parse_compact _)
      (.unknown "note" _ _ _ (fun field => by cases field <;> decide)
      (.field ConfigField.budgets _ _ _ ⟨_, rfl, inner⟩
      (.field ConfigField.width _ _ _ (Json.parse_compact _) .empty)))
  have read := overlay.1 _ _ _ _ (by decide) (by decide) document (Json.pretty_is_text given)
  have twice : Repeats ConfigField.name
      [(some "width", asRead (Json.ofNat 40)), (some "width", asRead (Json.ofNat 4))] := ⟨.width, by decide⟩
  refine ⟨config, rfl, rfl, read.trans (by decide +kernel), overlay.2.1 (by decide +kernel), ?_⟩
  exact overlay.2.2 _ _ (Json.compact_is_text double) (.inl twice)

end Floorplan
