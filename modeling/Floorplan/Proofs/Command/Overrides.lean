import Floorplan.Command.Plan
import Floorplan.Proofs.Generate.Valid
import Floorplan.Proofs.Json.Overlay

set_option autoImplicit false

namespace Floorplan

def Config.Agree (config other : Config Float) : ConfigField → Prop
  | .width => config.width = other.width
  | .height => config.height = other.height
  | .roomCount => config.roomCount = other.roomCount
  | .roomSizes => config.roomSizes = other.roomSizes
  | .roomPadding => config.roomPadding = other.roomPadding
  | .touchingFraction => config.touchingFraction = other.touchingFraction
  | .corridorThickness => config.corridorThickness = other.corridorThickness
  | .crossing => config.crossing = other.crossing
  | .strategy => config.strategy = other.strategy
  | .metric => config.metric = other.metric
  | .extraEdgeFraction => config.extraEdgeFraction = other.extraEdgeFraction
  | .unroutable => config.unroutable = other.unroutable
  | .budgets => config.budgets = other.budgets
  | .indexCellSize => config.indexCellSize = other.indexCellSize

theorem Config.eq_of_agree {config other : Config Float} (same : ∀ field, config.Agree other field) :
    config = other := by
  cases config
  cases other
  rw [Config.mk.injEq]
  exact ⟨same .width, same .height, same .roomCount, same .roomSizes, same .roomPadding, same .touchingFraction,
    same .corridorThickness, same .crossing, same .strategy, same .metric, same .extraEdgeFraction, same .unroutable,
    same .budgets, same .indexCellSize⟩

namespace Command

def Flags.sets (flags : Flags) : ConfigField → Bool
  | .width => flags.width.isSome
  | .height => flags.height.isSome
  | .roomCount => flags.rooms.isSome
  | .roomSizes => flags.sizes.isSome
  | .corridorThickness => flags.thickness.isSome
  | .crossing => flags.allowCrossing
  | .strategy => flags.strategy.isSome
  | .metric => flags.metric.isSome
  | .extraEdgeFraction => flags.extraEdges.isSome
  | .touchingFraction => flags.touching.isSome
  | .unroutable => flags.force
  | .roomPadding => false
  | .budgets => false
  | .indexCellSize => false

def Names {β : Type} [Named β] (value : String) (x : β) : Prop :=
  Text.lowered value.toList = (Named.name x).toList

def Flags.Asks (flags : Flags) (config : Config Float) : ConfigField → Prop
  | .width => flags.width = some config.width
  | .height => flags.height = some config.height
  | .roomCount => flags.rooms = some config.roomCount
  | .roomSizes => ∃ spec, flags.sizes = some spec ∧ SizeList.parse spec = .ok config.roomSizes
  | .corridorThickness => flags.thickness = some config.corridorThickness
  | .crossing => config.crossing = .allow
  | .strategy => ∃ value, flags.strategy = some value ∧ Names value config.strategy
  | .metric => ∃ value, flags.metric = some value ∧ Names value config.metric
  | .extraEdgeFraction => flags.extraEdges = some config.extraEdgeFraction
  | .touchingFraction => flags.touching = some config.touchingFraction
  | .unroutable => config.unroutable = .forceBestEffort
  | .roomPadding => False
  | .budgets => False
  | .indexCellSize => False

def Overlaid (flags : Flags) (base config : Config Float) : Prop :=
  ∀ field, if flags.sets field then flags.Asks config field else config.Agree base field

-- What the options file says before anything is checked; the defaults without a file.
def Base (flags : Flags) (files : Files) (base : Config Float) : Prop :=
  match flags.config with
  | none => base = Config.standard
  | some path => ∃ text, files path = .ok text ∧ (Json.parse? text).bind Config.read? = some base

section Values

theorem named_iff {β : Type} [Named β] (known : ∀ x : β, Named.ofName? (Named.name x) = some x)
    (option value : String) (x : β) : named option value = .ok x ↔ Names value x := by
  have same : Names value x ↔ Named.name x = String.ofList (Text.lowered value.toList) := by
    rw [Names, ← String.toList_inj, String.toList_ofList, eq_comm]
  rw [same, named]
  constructor
  · intro found
    cases read : Named.ofName? (β := β) (String.ofList (Text.lowered value.toList)) with
    | none =>
        rw [read] at found
        cases found
    | some y =>
        rw [read] at found
        cases found
        have passed := List.find?_some (p := fun y => Named.name y == String.ofList (Text.lowered value.toList)) read
        exact eq_of_beq passed
  · intro spelled
    rw [← spelled, known]

theorem strategy_known (kind : StrategyKind) : Named.ofName? (Named.name kind) = some kind := by
  cases kind <;> rfl

theorem metric_known (metric : Metric) : Named.ofName? (Named.name metric) = some metric := by
  cases metric <;> rfl

theorem overlay_iff {β γ : Type} (flag : Option β) (given : β → Except Chain γ) (old x : γ) :
    overlay flag given old = .ok x ↔ if flag.isSome then ∃ value, flag = some value ∧ given value = .ok x else x = old := by
  cases flag with
  | none => exact ⟨fun same => (Except.ok.inj same).symm, fun same => congrArg Except.ok same.symm⟩
  | some value => exact ⟨fun read => ⟨value, rfl, read⟩, fun ⟨_, same, read⟩ => Option.some.inj same ▸ read⟩

theorem replaced_iff {β : Type} (flag : Option β) (old x : β) :
    x = flag.getD old ↔ if flag.isSome then flag = some x else x = old := by
  cases flag with
  | none => exact Iff.rfl
  | some value => exact ⟨fun same => congrArg some same.symm, fun same => (Option.some.inj same).symm⟩

theorem switched_iff {β : Type} (flag : Bool) (value old x : β) :
    (x = if flag then value else old) ↔ if flag then x = value else x = old := by
  cases flag <;> exact Iff.rfl

theorem mapped_ok_iff {ε φ β : Type} (outcome : Except ε β) (message : ε → φ) (x : β) :
    outcome.mapError message = .ok x ↔ outcome = .ok x := by
  cases outcome with
  | error error => exact ⟨nofun, nofun⟩
  | ok found => exact ⟨fun same => congrArg Except.ok (Except.ok.inj same), fun same => congrArg Except.ok (Except.ok.inj same)⟩

theorem checked_iff {ε β : Type} (check : β → Except ε Unit) (x y : β) :
    (check x >>= fun _ => .ok x) = .ok y ↔ x = y ∧ check y = .ok () := by
  constructor
  · intro passed
    obtain ⟨⟨⟩, checked, same⟩ := except_bind_ok passed
    cases same
    exact ⟨rfl, checked⟩
  · rintro ⟨rfl, checked⟩
    rw [checked]
    rfl

end Values

theorem sizes_overlay_iff (flag : Option String) (old sizes : List (UInt32 × UInt32)) :
    overlay flag (fun spec => (SizeList.parse spec).mapError SizeList.Fault.chain) old = .ok sizes
      ↔ if flag.isSome then ∃ spec, flag = some spec ∧ SizeList.parse spec = .ok sizes else sizes = old := by
  simp only [overlay_iff, mapped_ok_iff]

theorem named_overlay_iff {β : Type} [Named β] (known : ∀ x : β, Named.ofName? (Named.name x) = some x)
    (option : String) (flag : Option String) (old x : β) :
    overlay flag (named option) old = .ok x
      ↔ if flag.isSome then ∃ value, flag = some value ∧ Names value x else x = old := by
  simp only [overlay_iff, named_iff known]

theorem overlay_flags_iff (flags : Flags) (base config : Config Float) :
    overlayFlags flags base = .ok config ↔ Overlaid flags base config := by
  constructor
  · intro run field
    obtain ⟨sizes, sizesRead, run⟩ := except_bind_ok run
    obtain ⟨strategy, strategyRead, run⟩ := except_bind_ok run
    obtain ⟨metric, metricRead, run⟩ := except_bind_ok run
    cases run
    cases field with
    | roomSizes => exact (sizes_overlay_iff _ _ _).mp sizesRead
    | strategy => exact (named_overlay_iff strategy_known _ _ _ _).mp strategyRead
    | metric => exact (named_overlay_iff metric_known _ _ _ _).mp metricRead
    | crossing => exact (switched_iff _ _ _ _).mp rfl
    | unroutable => exact (switched_iff _ _ _ _).mp rfl
    | roomPadding => exact rfl
    | budgets => exact rfl
    | indexCellSize => exact rfl
    | _ => exact (replaced_iff _ _ _).mp rfl
  · intro laid
    have sizes := (sizes_overlay_iff _ _ _).mpr (laid .roomSizes)
    have strategy := (named_overlay_iff strategy_known "strategy" _ _ _).mpr (laid .strategy)
    have metric := (named_overlay_iff metric_known "metric" _ _ _).mpr (laid .metric)
    rw [overlayFlags, sizes, strategy, metric]
    refine congrArg Except.ok (Config.eq_of_agree fun field => ?_)
    cases field with
    | roomSizes => rfl
    | strategy => rfl
    | metric => rfl
    | crossing => exact ((switched_iff _ _ _ _).mpr (laid .crossing)).symm
    | unroutable => exact ((switched_iff _ _ _ _).mpr (laid .unroutable)).symm
    | roomPadding => exact (laid .roomPadding).symm
    | budgets => exact (laid .budgets).symm
    | indexCellSize => exact (laid .indexCellSize).symm
    | width => exact ((replaced_iff _ _ _).mpr (laid .width)).symm
    | height => exact ((replaced_iff _ _ _).mpr (laid .height)).symm
    | roomCount => exact ((replaced_iff _ _ _).mpr (laid .roomCount)).symm
    | corridorThickness => exact ((replaced_iff _ _ _).mpr (laid .corridorThickness)).symm
    | extraEdgeFraction => exact ((replaced_iff _ _ _).mpr (laid .extraEdgeFraction)).symm
    | touchingFraction => exact ((replaced_iff _ _ _).mpr (laid .touchingFraction)).symm

theorem overlay_congr {β γ : Type} (flag : Option β) (given : β → Except Chain γ) (old other : γ)
    (same : flag.isSome = false → old = other) : overlay flag given old = overlay flag given other := by
  cases flag with
  | none => exact congrArg Except.ok (same rfl)
  | some value => rfl

theorem replaced_congr {β : Type} (flag : Option β) (old other : β) (same : flag.isSome = false → old = other) :
    flag.getD old = flag.getD other := by
  cases flag with
  | none => exact same rfl
  | some value => rfl

theorem switched_congr {β : Type} (flag : Bool) (value old other : β) (same : flag = false → old = other) :
    (if flag then value else old) = if flag then value else other := by
  cases flag with
  | false => exact same rfl
  | true => rfl

-- Flags make the same of two configurations that differ in flagged fields only, failures included.
theorem overlay_flags_congr (flags : Flags) (base other : Config Float)
    (same : ∀ field, flags.sets field = false → base.Agree other field) :
    overlayFlags flags base = overlayFlags flags other := by
  rw [overlayFlags, overlayFlags, overlay_congr flags.sizes _ _ _ (same .roomSizes),
    overlay_congr flags.strategy _ _ _ (same .strategy), overlay_congr flags.metric _ _ _ (same .metric)]
  refine bind_congr fun sizes => bind_congr fun strategy => bind_congr fun metric => ?_
  refine congrArg Except.ok (Config.eq_of_agree fun field => ?_)
  cases field with
  | roomSizes => rfl
  | strategy => rfl
  | metric => rfl
  | crossing => exact switched_congr _ _ _ _ (same .crossing)
  | unroutable => exact switched_congr _ _ _ _ (same .unroutable)
  | roomPadding => exact same .roomPadding rfl
  | budgets => exact same .budgets rfl
  | indexCellSize => exact same .indexCellSize rfl
  | width => exact replaced_congr _ _ _ (same .width)
  | height => exact replaced_congr _ _ _ (same .height)
  | roomCount => exact replaced_congr _ _ _ (same .roomCount)
  | corridorThickness => exact replaced_congr _ _ _ (same .corridorThickness)
  | extraEdgeFraction => exact replaced_congr _ _ _ (same .extraEdgeFraction)
  | touchingFraction => exact replaced_congr _ _ _ (same .touchingFraction)

def overridden (flags : Flags) (base : Config Float) : Except Chain (Config Float) := do
  let config ← overlayFlags flags base
  config.validate.mapError fun error => [error.message]
  pure config

theorem overridden_iff (flags : Flags) (base config : Config Float) :
    overridden flags base = .ok config ↔ Overlaid flags base config ∧ config.validate = .ok () := by
  rw [← overlay_flags_iff, overridden]
  cases overlayFlags flags base with
  | error chain => exact ⟨nofun, nofun⟩
  | ok found =>
      refine (checked_iff (fun config => config.validate.mapError fun error => [error.message]) found config).trans ?_
      rw [mapped_ok_iff, Except.ok.injEq]

theorem of_text_iff (text : String) (base : Config Float) : Config.ofText text = .ok base
    ↔ (Json.parse? text).bind Config.read? = some base ∧ base.validate = .ok () := by
  rw [Config.ofText]
  cases (Json.parse? text).bind Config.read? with
  | none =>
      constructor
      · intro built
        cases built
      · rintro ⟨read, _⟩
        cases read
  | some config =>
      refine (checked_iff Config.validate config base).trans ?_
      rw [Option.some.injEq]

theorem standard_valid : (Config.standard : Config Float).validate = .ok () := by
  decide +kernel

def loaded (flags : Flags) (files : Files) : Except Chain (Config Float) :=
  match flags.config with
  | none => .ok Config.standard
  | some path => loadConfig files path

theorem build_config_eq (flags : Flags) (files : Files) :
    buildConfig flags files = loaded flags files >>= overridden flags := by
  rw [buildConfig, loaded]
  cases flags.config <;> rfl

theorem loaded_iff (flags : Flags) (files : Files) (base : Config Float) :
    loaded flags files = .ok base ↔ Base flags files base ∧ base.validate = .ok () := by
  rw [loaded, Base]
  cases flags.config with
  | none =>
      constructor
      · rintro ⟨⟩
        exact ⟨rfl, standard_valid⟩
      · rintro ⟨rfl, _⟩
        rfl
  | some path =>
      simp only [loadConfig]
      cases files path with
      | error reason => exact ⟨nofun, nofun⟩
      | ok text =>
          rw [mapped_ok_iff, of_text_iff]
          exact ⟨fun ⟨read, valid⟩ => ⟨⟨text, rfl, read⟩, valid⟩,
            fun ⟨⟨_, same, read⟩, valid⟩ => ⟨Except.ok.inj same ▸ read, valid⟩⟩

theorem Base.unique {flags : Flags} {files : Files} {base other : Config Float} (first : Base flags files base)
    (second : Base flags files other) : base = other := by
  rw [Base] at first second
  cases named : flags.config with
  | none =>
      rw [named] at first second
      exact Eq.trans first second.symm
  | some path =>
      rw [named] at first second
      obtain ⟨text, found, read⟩ := first
      obtain ⟨text', found', read'⟩ := second
      cases found.symm.trans found'
      exact Option.some.inj (read.symm.trans read')

theorem build_config_iff (flags : Flags) (files : Files) (config : Config Float) :
    buildConfig flags files = .ok config ↔ ∃ base, Base flags files base ∧ base.validate = .ok ()
      ∧ Overlaid flags base config ∧ config.validate = .ok () := by
  rw [build_config_eq]
  constructor
  · intro built
    obtain ⟨base, read, laid⟩ := except_bind_ok built
    obtain ⟨shown, valid⟩ := (loaded_iff flags files base).mp read
    exact ⟨base, shown, valid, (overridden_iff flags base config).mp laid⟩
  · rintro ⟨base, shown, valid, laid⟩
    rw [(loaded_iff flags files base).mpr ⟨shown, valid⟩]
    exact (overridden_iff flags base config).mpr laid

theorem build_valid_base {flags : Flags} {files : Files} {base : Config Float} (shown : Base flags files base)
    (valid : base.validate = .ok ()) : buildConfig flags files = overridden flags base := by
  rw [build_config_eq, (loaded_iff flags files base).mpr ⟨shown, valid⟩]
  rfl

-- A value that a flag replaces still has to be a valid one.
theorem flags_override_valid_files (flags : Flags) :
    (∀ files config, buildConfig flags files = .ok config ↔ ∃ base, Base flags files base ∧ base.validate = .ok ()
      ∧ Overlaid flags base config ∧ config.validate = .ok ())
    ∧ ∀ files files' base base', Base flags files base → Base flags files' base' →
      (∀ field, flags.sets field = false → base.Agree base' field) →
      (base.validate = .ok () → base'.validate = .ok () → buildConfig flags files = buildConfig flags files')
      ∧ ((∀ config, buildConfig flags files = .ok config ↔ buildConfig flags files' = .ok config)
        ↔ ((base.validate = .ok () ↔ base'.validate = .ok ())
          ∨ ∀ config, Overlaid flags base config → config.validate ≠ .ok ())) := by
  refine ⟨build_config_iff flags, fun files files' base base' shown shown' same => ?_⟩
  have alike : overridden flags base = overridden flags base' := by
    rw [overridden, overridden, overlay_flags_congr flags base base' same]
  have built (config : Config Float) : buildConfig flags files = .ok config
      ↔ base.validate = .ok () ∧ overridden flags base = .ok config := by
    rw [build_config_iff, overridden_iff]
    exact ⟨fun ⟨other, otherShown, rest⟩ => shown.unique otherShown ▸ rest, fun rest => ⟨base, shown, rest⟩⟩
  have built' (config : Config Float) : buildConfig flags files' = .ok config
      ↔ base'.validate = .ok () ∧ overridden flags base = .ok config := by
    rw [build_config_iff, alike, overridden_iff]
    exact ⟨fun ⟨other, otherShown, rest⟩ => shown'.unique otherShown ▸ rest, fun rest => ⟨base', shown', rest⟩⟩
  constructor
  · intro valid valid'
    rw [build_valid_base shown valid, build_valid_base shown' valid', alike]
  · simp only [built, built']
    constructor
    · intro equal
      by_cases succeeds : ∃ config, overridden flags base = .ok config
      · obtain ⟨config, made⟩ := succeeds
        exact .inl ⟨fun valid => ((equal config).mp ⟨valid, made⟩).1, fun valid => ((equal config).mpr ⟨valid, made⟩).1⟩
      · exact .inr fun config laid valid => succeeds ⟨config, (overridden_iff flags base config).mpr ⟨laid, valid⟩⟩
    · rintro (both | never) config
      · rw [both]
      · have fails : overridden flags base ≠ .ok config := by
          intro made
          obtain ⟨laid, valid⟩ := (overridden_iff flags base config).mp made
          exact never config laid valid
        exact ⟨fun ⟨_, made⟩ => absurd made fails, fun ⟨_, made⟩ => absurd made fails⟩

def fileOf (text : String) : Files := fun _ => .ok text

def overriding : Flags :=
  { Flags.standard with
    config := some "options.json", width := some 40, sizes := some "3x4", strategy := some "GRID", allowCrossing := true }

def narrowText : String := "\x7b\"width\": 30, \"room_padding\": 2\x7d"

def narrow : Config Float := { (Config.standard : Config Float) with width := 30, roomPadding := 2 }

def crossedText : String := "[50, 100, 10, [[10, 10], [5, 5]], 2, 0.0, 1.0, \"allow\", \"grid\"]"

def crossed : Config Float := { narrow with width := 50, strategy := .grid, crossing := .allow }

def overriddenNarrow : Config Float :=
  { narrow with width := 40, roomSizes := [(3, 4)], strategy := .grid, crossing := .allow }

theorem narrow_read : Base overriding (fileOf narrowText) narrow := ⟨_, rfl, by decide +kernel⟩

theorem narrow_and_crossed_overridden :
    Base overriding (fileOf narrowText) narrow ∧ Base overriding (fileOf crossedText) crossed ∧ narrow ≠ crossed
      ∧ buildConfig overriding (fileOf narrowText) = .ok overriddenNarrow
      ∧ buildConfig overriding (fileOf crossedText) = .ok overriddenNarrow
      ∧ overriddenNarrow.roomPadding = 2 := by
  obtain ⟨builds, alike⟩ := flags_override_valid_files overriding
  have crossed_read : Base overriding (fileOf crossedText) crossed := ⟨_, rfl, by decide +kernel⟩
  have same : ∀ field, overriding.sets field = false → narrow.Agree crossed field := by
    intro field unset
    cases field <;> first | rfl | cases unset
  have laid : Overlaid overriding narrow overriddenNarrow :=
    (overlay_flags_iff _ _ _).mp (by decide +kernel)
  have built := (builds (fileOf narrowText) overriddenNarrow).mpr
    ⟨narrow, narrow_read, by decide +kernel, laid, by decide +kernel⟩
  have equal := (alike _ _ narrow crossed narrow_read crossed_read same).1 (by decide +kernel) (by decide +kernel)
  exact ⟨narrow_read, crossed_read, by decide +kernel, built, equal ▸ built, rfl⟩

def emptyText : String := "\x7b\"width\": 0, \"room_padding\": 2\x7d"

theorem replaced_width_refused :
    Base overriding (fileOf emptyText) { narrow with width := 0 } ∧ Base overriding (fileOf narrowText) narrow
      ∧ (∀ field, overriding.sets field = false → ({ narrow with width := 0 } : Config Float).Agree narrow field)
      ∧ buildConfig overriding (fileOf emptyText)
        = .error ["loading options from options.json", "map bounds must be positive, got 0x100"]
      ∧ buildConfig overriding (fileOf narrowText) = .ok overriddenNarrow := by
  refine ⟨⟨_, rfl, by decide +kernel⟩, narrow_read, fun field unset => ?_, by decide +kernel, by decide +kernel⟩
  cases field <;> first | rfl | cases unset

end Command

end Floorplan
