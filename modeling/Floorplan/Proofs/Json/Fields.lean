import Mathlib.Data.List.Nodup
import Floorplan.Proofs.Json.RoundTrip

set_option autoImplicit false

namespace Floorplan.Json

variable {φ : Type} {name : φ → String} {gives : φ → Json → Prop} {shown : List φ}
  {members : List (Text × Json)} {all : List φ} {fields : List (String × Json)}

-- The members of an object that shows fields in this order; members of other names stand anywhere.
inductive Document (name : φ → String) (gives : φ → Json → Prop) : List φ → List (Text × Json) → Prop where
  | empty : Document name gives [] []
  | field (f : φ) (value : Json) (shown : List φ) (members : List (Text × Json)) (given : gives f value)
      (rest : Document name gives shown members) :
      Document name gives (f :: shown) ((some (name f), value) :: members)
  | unknown (other : String) (value : Json) (shown : List φ) (members : List (Text × Json))
      (foreign : ∀ f, name f ≠ other) (rest : Document name gives shown members) :
      Document name gives shown ((some other, value) :: members)

def Repeats (name : φ → String) (members : List (Text × Json)) : Prop :=
  ∃ f, 2 ≤ (members.map (·.1)).count (some (name f))

structure Found (name : φ → String) (gives : φ → Json → Prop) (shown : List φ)
    (fields : List (String × Json)) : Prop where
  given : ∀ f ∈ shown, ∃ value, gives f value ∧ fields.lookup (name f) = some value
  absent : ∀ f, f ∉ shown → fields.lookup (name f) = none

theorem Found.push (injective : Function.Injective name) (found : Found name gives shown fields) (f : φ)
    (value : Json) (given : gives f value) : Found name gives (f :: shown) ((name f, value) :: fields) where
  given := by
    intro g inside
    by_cases same : g = f
    · subst same
      exact ⟨value, given, List.lookup_cons_self⟩
    · obtain ⟨read, gave, looked⟩ := found.given g ((List.mem_cons.mp inside).resolve_left same)
      refine ⟨read, gave, ?_⟩
      rw [List.lookup_cons, beq_eq_false_iff_ne.mpr fun equal => same (injective equal)]
      exact looked
  absent := by
    intro g outside
    rw [List.mem_cons, not_or] at outside
    rw [List.lookup_cons, beq_eq_false_iff_ne.mpr fun equal => outside.1 (injective equal)]
    exact found.absent g outside.2

theorem known_document (document : Document name gives shown members) (injective : Function.Injective name)
    (complete : ∀ f, f ∈ all) :
    ∃ known, knownMembers? (all.map name) members = some known ∧ known.map (·.1) = shown.map name
      ∧ Found name gives shown known := by
  induction document with
  | empty => exact ⟨[], rfl, rfl, ⟨fun _ inside => absurd inside List.not_mem_nil, fun _ _ => rfl⟩⟩
  | field f value shown members given rest ih =>
      obtain ⟨known, run, names, found⟩ := ih
      refine ⟨(name f, value) :: known, ?_, by rw [List.map_cons, List.map_cons, names],
        found.push injective f value given⟩
      have listed : (all.map name).contains (name f) = true :=
        List.contains_iff_mem.mpr (List.mem_map_of_mem (complete f))
      rw [knownMembers?, run, Option.map_some, if_pos listed]
  | unknown other value shown members foreign rest ih =>
      obtain ⟨known, run, names, found⟩ := ih
      refine ⟨known, ?_, names, found⟩
      have unlisted : ¬ (all.map name).contains other = true := by
        rw [List.contains_iff_mem, List.mem_map]
        rintro ⟨f, _, same⟩
        exact foreign f same
      rw [knownMembers?, run, Option.map_some, if_neg unlisted]

theorem fields_document (document : Document name gives shown members) (injective : Function.Injective name)
    (complete : ∀ f, f ∈ all) (once : shown.Nodup) :
    ∃ fields, fields? (all.map name) (.object members) = some fields ∧ Found name gives shown fields := by
  obtain ⟨known, run, names, found⟩ := known_document document injective complete
  refine ⟨known, ?_, found⟩
  have distinct : (known.map (·.1)).Nodup := by
    rw [names]
    exact once.map injective
  change (knownMembers? (all.map name) members).bind _ = _
  rw [run]
  exact if_pos distinct

theorem Found.read [DecidableEq φ] {β : Type} [JsonForm β] (found : Found name gives shown fields) (f : φ)
    (x default : β) (reads : ∀ value, gives f value → JsonForm.read? value = some x) :
    fieldOr? fields (name f) default = some (if f ∈ shown then x else default) := by
  rw [fieldOr?]
  by_cases inside : f ∈ shown
  · obtain ⟨value, given, looked⟩ := found.given f inside
    rw [looked, if_pos inside]
    exact reads value given
  · rw [found.absent f inside, if_neg inside]

theorem known_count (members : List (Text × Json)) (names : List String) (known : List (String × Json))
    (run : knownMembers? names members = some known) (other : String) (listed : other ∈ names) :
    (known.map (·.1)).count other = (members.map (·.1)).count (some other) := by
  induction members generalizing known with
  | nil =>
      cases run
      rfl
  | cons member rest ih =>
      match member with
      | (none, _) => cases run
      | (some first, value) =>
          rw [knownMembers?, Option.map_eq_some_iff] at run
          obtain ⟨behind, run, rfl⟩ := run
          have counted := ih behind run
          rw [List.map_cons, List.count_cons, ← counted]
          split
          next =>
            rw [List.map_cons, List.count_cons]
            simp
          next unlisted =>
              have different : first ≠ other := by
                rintro rfl
                exact unlisted (List.contains_iff_mem.mpr listed)
              simp [different]

theorem repeated_unread (repeats : Repeats name members) (complete : ∀ f, f ∈ all) :
    fields? (all.map name) (.object members) = none := by
  obtain ⟨f, twice⟩ := repeats
  change (knownMembers? (all.map name) members).bind _ = none
  cases run : knownMembers? (all.map name) members with
  | none => rfl
  | some known =>
      apply if_neg
      intro distinct
      have counted := known_count members _ known run (name f) (List.mem_map_of_mem (complete f))
      have once := List.nodup_iff_count_le_one.mp distinct (name f)
      omega

theorem known_mem (members : List (Text × Json)) (names : List String) (known : List (String × Json))
    (run : knownMembers? names members = some known) (label : String) (value : Json) (listed : label ∈ names)
    (inside : (some label, value) ∈ members) : (label, value) ∈ known := by
  induction members generalizing known with
  | nil => cases inside
  | cons member rest ih =>
      match member with
      | (none, _) => cases run
      | (some first, content) =>
          rw [knownMembers?, Option.map_eq_some_iff] at run
          obtain ⟨behind, run, rfl⟩ := run
          rcases List.mem_cons.mp inside with same | inside
          · cases same
            rw [if_pos (List.contains_iff_mem.mpr listed)]
            exact List.mem_cons_self
          · have kept := ih behind run inside
            split
            · exact List.mem_cons_of_mem _ kept
            · exact kept

theorem lookup_once (fields : List (String × Json)) (distinct : (fields.map (·.1)).Nodup) (label : String)
    (value : Json) (inside : (label, value) ∈ fields) : fields.lookup label = some value := by
  induction fields with
  | nil => cases inside
  | cons field rest ih =>
      obtain ⟨absent, others⟩ := List.nodup_cons.mp distinct
      rcases List.mem_cons.mp inside with same | inside
      · cases same
        exact List.lookup_cons_self
      · have different : label ≠ field.1 := by
          rintro rfl
          exact absent (List.mem_map_of_mem (f := (·.1)) inside)
        rw [List.lookup_cons, beq_eq_false_iff_ne.mpr different]
        exact ih others inside

theorem member_found (run : fields? (all.map name) (.object members) = some fields) (complete : ∀ f, f ∈ all)
    (f : φ) (value : Json) (inside : (some (name f), value) ∈ members) :
    fields.lookup (name f) = some value := by
  obtain ⟨known, knownRun, kept⟩ := Option.bind_eq_some_iff.mp run
  have distinct : (known.map (·.1)).Nodup := by
    by_contra twice
    rw [if_neg twice] at kept
    cases kept
  rw [if_pos distinct] at kept
  cases kept
  have listed : name f ∈ all.map name := List.mem_map_of_mem (complete f)
  exact lookup_once fields distinct (name f) value (known_mem members _ fields knownRun _ value listed inside)

theorem record_document (content : φ → Json) (fields : List φ)
    (each : ∀ f ∈ fields, gives f (asRead (content f))) :
    ∃ members, asRead (record (fields.map fun f => (name f, content f))) = .object members
      ∧ Document name gives fields members := by
  induction fields with
  | nil => exact ⟨[], rfl, .empty⟩
  | cons f rest ih =>
      obtain ⟨members, shape, document⟩ := ih fun g inside => each g (List.mem_cons_of_mem f inside)
      refine ⟨(some (name f), asRead (content f)) :: members, ?_,
        .field f _ rest members (each f List.mem_cons_self) document⟩
      cases shape
      rfl

section Written

variable {β : Type} [JsonForm β]

theorem known_written (names : List String) (members : List (String × Json))
    (listed : ∀ member ∈ members, member.1 ∈ names) :
    knownMembers? names (members.map fun member => (some member.1, member.2)) = some members := by
  induction members with
  | nil => rfl
  | cons member rest ih =>
      have others := ih fun other inside => listed other (List.mem_cons_of_mem member inside)
      have known : names.contains member.1 = true := List.contains_iff_mem.mpr (listed member List.mem_cons_self)
      rw [List.map_cons, knownMembers?, others, Option.map_some, if_pos known]

theorem record_as_read (members : List (String × Json)) :
    asRead (record members) =
      .object ((members.map fun member => (member.1, asRead member.2)).map
        fun member => (some member.1, member.2)) := by
  induction members with
  | nil => rfl
  | cons member rest ih =>
      injection ih with behind
      exact congrArg Json.object (congrArg ((some member.1, asRead member.2) :: ·) behind)

theorem fields_written (names : List String) (members : List (String × Json)) (once : names.Nodup)
    (labelled : members.map (·.1) = names) :
    fields? names (asRead (record members)) = some (members.map fun member => (member.1, asRead member.2)) := by
  have same : (members.map fun member => (member.1, asRead member.2)).map (·.1) = names := by
    rw [List.map_map]
    exact labelled
  rw [record_as_read]
  change (knownMembers? _ _).bind _ = _
  rw [known_written, Option.bind_some, same]
  · exact if_pos once
  · intro member inside
    rw [← same]
    exact List.mem_map_of_mem inside

theorem record_round_trips (x : β) (names : List String) (members : List (String × Json))
    (build : List (String × Json) → Option β) (writes : JsonForm.write x = record members)
    (reads : ∀ json, (JsonForm.read? json : Option β) = (fields? names json).bind build) (once : names.Nodup)
    (labelled : members.map (·.1) = names)
    (built : build (members.map fun member => (member.1, asRead member.2)) = some x) : RoundTrips x := by
  rw [round_trips_iff, writes, reads, fields_written names members once labelled]
  exact built

theorem field_written (fields : List (String × Json)) (name : String) (x : β) (rereads : RoundTrips x)
    (looked : fields.lookup name = some (asRead (JsonForm.write x))) : field? fields name = some x := by
  rw [field?, looked]
  exact (round_trips_iff x).mp rereads

end Written

end Floorplan.Json
