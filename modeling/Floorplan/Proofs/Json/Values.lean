import Floorplan.Json.Layout
import Floorplan.Proofs.Json.Overlay

set_option autoImplicit false

namespace Floorplan

open Json (RoundTrips asRead field? field_written fields? parse? record record_round_trips round_trips_iff)
open Number (cellMax cellMin)

class Parts (β : Type) where
  doubles : β → List Float
  inWords : β → Prop

section Parts

variable {β γ : Type} [Parts β] [Parts γ]

instance : Parts Float where
  doubles := fun x => [x]
  inWords := fun _ => True

instance : Parts Bool where
  doubles := fun _ => []
  inWords := fun _ => True

instance : Parts Wall where
  doubles := fun _ => []
  inWords := fun _ => True

instance : Parts EdgeKind where
  doubles := fun _ => []
  inWords := fun _ => True

instance : Parts Budgets where
  doubles := fun _ => []
  inWords := fun _ => True

instance : Parts RoomId where
  doubles := fun _ => []
  inWords := fun id => id.index ≤ idMax

instance : Parts ConnectorId where
  doubles := fun _ => []
  inWords := fun id => id.index ≤ idMax

instance : Parts Cell where
  doubles := fun _ => []
  inWords := fun c => (cellMin ≤ c.x ∧ c.x ≤ cellMax) ∧ (cellMin ≤ c.y ∧ c.y ≤ cellMax)

instance : Parts (List β) where
  doubles := fun items => items.flatMap Parts.doubles
  inWords := fun items => ∀ item ∈ items, Parts.inWords item

instance : Parts (β × γ) where
  doubles := fun (a, b) => Parts.doubles a ++ Parts.doubles b
  inWords := fun (a, b) => Parts.inWords a ∧ Parts.inWords b

instance : Parts (Point Float) where
  doubles := fun p => [p.x, p.y]
  inWords := fun _ => True

instance : Parts (Rect Float) where
  doubles := fun r => [r.x, r.y, r.width, r.height]
  inWords := fun _ => True

instance : Parts (Door Float) where
  doubles := fun d => Parts.doubles d.anchor
  inWords := fun _ => True

instance : Parts (Room Float) where
  doubles := fun r => Parts.doubles r.rect ++ Parts.doubles r.doors
  inWords := fun r => Parts.inWords r.id

instance : Parts (Edge Float) where
  doubles := fun e => [e.weight]
  inWords := fun e => Parts.inWords (e.a, e.b)

instance : Parts (Geometry Float) where
  doubles
    | .segments rects => Parts.doubles rects
    | .path _ => []
    | .doorway => []
  inWords
    | .segments _ => True
    | .path cells => Parts.inWords cells
    | .doorway => True

instance : Parts (Connector Float) where
  doubles := fun c => Parts.doubles c.doors ++ Parts.doubles c.geometry
  inWords := fun c => Parts.inWords c.id ∧ Parts.inWords c.rooms ∧ Parts.inWords c.geometry

instance : Parts Occupant where
  doubles := fun _ => []
  inWords
    | .room id => Parts.inWords id
    | .connector id => Parts.inWords id

def DoublesReread (x : β) : Prop := ∀ double ∈ Parts.doubles x, RoundTrips double

theorem doubles_absent (x : β) (absent : Parts.doubles x = []) : DoublesReread x := by
  intro double inside
  rw [absent] at inside
  cases inside

structure FaithfulForm (β : Type) [JsonForm β] [Parts β] : Prop where
  reread : ∀ x : β, Parts.inWords x → DoublesReread x → RoundTrips x
  inWords : ∀ json (x : β), JsonForm.read? json = some x → Parts.inWords x

end Parts

section Plain

variable {β γ : Type} [JsonForm β] [JsonForm γ] [Parts β] [Parts γ]

theorem double_faithful : FaithfulForm Float where
  reread := fun x _ doubles => doubles x List.mem_cons_self
  inWords := fun _ _ _ => trivial

theorem flag_faithful : FaithfulForm Bool where
  reread := fun _ _ _ => (round_trips_iff _).mpr rfl
  inWords := fun _ _ _ => trivial

theorem wall_faithful : FaithfulForm Wall where
  reread := fun wall _ _ =>
    Json.named_round_trips (fun _ => rfl) (fun _ => rfl) wall (by cases wall <;> rfl)
  inWords := fun _ _ _ => trivial

theorem edge_kind_faithful : FaithfulForm EdgeKind where
  reread := fun kind _ _ =>
    Json.named_round_trips (fun _ => rfl) (fun _ => rfl) kind (by cases kind <;> rfl)
  inWords := fun _ _ _ => trivial

theorem counted_faithful (make : Nat → β) (index : β → Nat)
    (writes : ∀ x : β, JsonForm.write x = Json.ofNat (index x))
    (reads : ∀ json, (JsonForm.read? json : Option β) = (Json.countUpTo? idMax json).map make)
    (words : ∀ x : β, Parts.inWords x ↔ index x ≤ idMax) (makes : ∀ x, make (index x) = x)
    (counts : ∀ n, index (make n) = n) : FaithfulForm β where
  reread := by
    intro x word _
    rw [round_trips_iff, writes, reads, Json.count_as_read (index x) idMax ((words x).mp word) (by decide),
      Option.map_some, makes]
  inWords := by
    intro json x run
    rw [reads] at run
    obtain ⟨n, read, rfl⟩ := Option.map_eq_some_iff.mp run
    rw [words, counts]
    exact Json.count_within json idMax n read

theorem room_id_faithful : FaithfulForm RoomId :=
  counted_faithful RoomId.mk RoomId.index (fun _ => rfl) (fun _ => rfl) (fun _ => .rfl) (fun _ => rfl) fun _ => rfl

theorem connector_id_faithful : FaithfulForm ConnectorId :=
  counted_faithful ConnectorId.mk ConnectorId.index (fun _ => rfl) (fun _ => rfl) (fun _ => .rfl) (fun _ => rfl)
    fun _ => rfl

theorem list_faithful (items : FaithfulForm β) : FaithfulForm (List β) where
  reread := by
    intro list words doubles
    apply Json.list_round_trips
    intro item inside
    apply items.reread item (words item inside)
    intro double part
    exact doubles double (List.mem_flatMap.mpr ⟨item, inside, part⟩)
  inWords := by
    intro json list run
    change Json.list? _ json = _ at run
    rw [Json.list?.eq_def] at run
    split at run
    next elements =>
      intro x inside
      obtain ⟨element, read⟩ := Json.items_read elements list run x inside
      exact items.inWords element x read
    · cases run

theorem pair_faithful (first : FaithfulForm β) (second : FaithfulForm γ) : FaithfulForm (β × γ) where
  reread := by
    intro pair words doubles
    have apart := List.forall_mem_append.mp doubles
    exact Json.pair_round_trips pair.1 pair.2 (first.reread pair.1 words.1 apart.1)
      (second.reread pair.2 words.2 apart.2)
  inWords := by
    intro json pair run
    change Json.pair? _ _ json = _ at run
    rw [Json.pair?.eq_def] at run
    split at run
    next a b =>
      obtain ⟨x, readFirst, run⟩ := Option.bind_eq_some_iff.mp run
      obtain ⟨y, readSecond, run⟩ := Option.bind_eq_some_iff.mp run
      cases run
      exact ⟨first.inWords a x readFirst, second.inWords b y readSecond⟩
    · cases run

theorem cell_number_within (fields : List (String × Json)) (name : String) (i : Int)
    (run : cellNumber? fields name = some i) : cellMin ≤ i ∧ i ≤ cellMax := by
  obtain ⟨json, _, read⟩ := Option.bind_eq_some_iff.mp run
  exact Json.whole_within json cellMin cellMax i (by decide) (by decide) read

theorem cell_faithful : FaithfulForm Cell where
  reread := by
    rintro cell ⟨⟨left, right⟩, top, bottom⟩ _
    simp only [cellMin, cellMax] at left right top bottom
    have x := Json.whole_as_read cell.x cellMin cellMax left right (by omega)
    have y := Json.whole_as_read cell.y cellMin cellMax top bottom (by omega)
    refine record_round_trips cell _ _ _ rfl (fun _ => rfl) (by decide) rfl ?_
    change (Json.wholeIn? cellMin cellMax (asRead (Json.ofInt cell.x))).bind _ = _
    rw [x]
    change (Json.wholeIn? cellMin cellMax (asRead (Json.ofInt cell.y))).bind _ = _
    rw [y]
    rfl
  inWords := by
    intro json cell run
    obtain ⟨fields, _, run⟩ := Option.bind_eq_some_iff.mp run
    obtain ⟨x, xRead, run⟩ := Option.bind_eq_some_iff.mp run
    obtain ⟨y, yRead, run⟩ := Option.bind_eq_some_iff.mp run
    cases run
    exact ⟨cell_number_within fields "x" x xRead, cell_number_within fields "y" y yRead⟩

end Plain

section Composed

theorem field_in_words {β : Type} [JsonForm β] [Parts β] (faithful : FaithfulForm β) (fields : List (String × Json))
    (name : String) (x : β) (run : field? fields name = some x) : Parts.inWords x := by
  obtain ⟨json, _, read⟩ := Option.bind_eq_some_iff.mp run
  exact faithful.inWords json x read

theorem point_faithful : FaithfulForm (Point Float) where
  reread := by
    intro p _ doubles
    obtain ⟨x, y⟩ : RoundTrips p.x ∧ RoundTrips p.y := by
      simpa [DoublesReread, Parts.doubles] using doubles
    refine record_round_trips p _ _ _ rfl (fun _ => rfl) (by decide) rfl ?_
    rw [field_written _ "x" p.x x rfl, field_written _ "y" p.y y rfl]
    rfl
  inWords := fun _ _ _ => trivial

theorem rect_faithful : FaithfulForm (Rect Float) where
  reread := by
    intro r _ doubles
    obtain ⟨x, y, width, height⟩ : RoundTrips r.x ∧ RoundTrips r.y ∧ RoundTrips r.width
        ∧ RoundTrips r.height := by
      simpa [DoublesReread, Parts.doubles] using doubles
    refine record_round_trips r _ _ _ rfl (fun _ => rfl) (by decide) rfl ?_
    rw [field_written _ "x" r.x x rfl, field_written _ "y" r.y y rfl,
      field_written _ "width" r.width width rfl, field_written _ "height" r.height height rfl]
    rfl
  inWords := fun _ _ _ => trivial

theorem door_faithful : FaithfulForm (Door Float) where
  reread := by
    intro d _ doubles
    have wall := wall_faithful.reread d.wall trivial (doubles_absent d.wall rfl)
    have anchor := point_faithful.reread d.anchor trivial doubles
    refine record_round_trips d _ _ _ rfl (fun _ => rfl) (by decide) rfl ?_
    rw [field_written _ "wall" d.wall wall rfl, field_written _ "anchor" d.anchor anchor rfl]
    rfl
  inWords := fun _ _ _ => trivial

theorem room_faithful : FaithfulForm (Room Float) where
  reread := by
    intro r words doubles
    have apart := List.forall_mem_append.mp doubles
    have id := room_id_faithful.reread r.id words (doubles_absent r.id rfl)
    have rect := rect_faithful.reread r.rect trivial apart.1
    have doors := (list_faithful door_faithful).reread r.doors (fun _ _ => trivial) apart.2
    refine record_round_trips r _ _ _ rfl (fun _ => rfl) (by decide) rfl ?_
    rw [field_written _ "id" r.id id rfl, field_written _ "rect" r.rect rect rfl,
      field_written _ "doors" r.doors doors rfl]
    rfl
  inWords := by
    intro json r run
    obtain ⟨fields, _, run⟩ := Option.bind_eq_some_iff.mp run
    obtain ⟨id, idRead, run⟩ := Option.bind_eq_some_iff.mp run
    obtain ⟨rect, _, run⟩ := Option.bind_eq_some_iff.mp run
    obtain ⟨doors, _, run⟩ := Option.bind_eq_some_iff.mp run
    cases run
    exact field_in_words room_id_faithful fields "id" id idRead

theorem edge_faithful : FaithfulForm (Edge Float) where
  reread := by
    intro e words doubles
    have a := room_id_faithful.reread e.a words.1 (doubles_absent e.a rfl)
    have b := room_id_faithful.reread e.b words.2 (doubles_absent e.b rfl)
    have weight := double_faithful.reread e.weight trivial doubles
    have kind := edge_kind_faithful.reread e.kind trivial (doubles_absent e.kind rfl)
    refine record_round_trips e _ _ _ rfl (fun _ => rfl) (by decide) rfl ?_
    rw [field_written _ "a" e.a a rfl, field_written _ "b" e.b b rfl,
      field_written _ "weight" e.weight weight rfl, field_written _ "kind" e.kind kind rfl]
    rfl
  inWords := by
    intro json e run
    obtain ⟨fields, _, run⟩ := Option.bind_eq_some_iff.mp run
    obtain ⟨a, aRead, run⟩ := Option.bind_eq_some_iff.mp run
    obtain ⟨b, bRead, run⟩ := Option.bind_eq_some_iff.mp run
    obtain ⟨weight, _, run⟩ := Option.bind_eq_some_iff.mp run
    obtain ⟨kind, _, run⟩ := Option.bind_eq_some_iff.mp run
    cases run
    exact ⟨field_in_words room_id_faithful fields "a" a aRead, field_in_words room_id_faithful fields "b" b bRead⟩

theorem geometry_faithful : FaithfulForm (Geometry Float) where
  reread := by
    intro geometry words doubles
    rw [round_trips_iff]
    cases geometry with
    | segments rects =>
        have content := (list_faithful rect_faithful).reread rects (fun _ _ => trivial) doubles
        change (JsonForm.read? (asRead (JsonForm.write rects))).map Geometry.segments = _
        rw [(round_trips_iff rects).mp content, Option.map_some]
    | path cells =>
        have content := (list_faithful cell_faithful).reread cells words
          (doubles_absent cells (by simp [Parts.doubles]))
        change (JsonForm.read? (asRead (JsonForm.write cells))).map Geometry.path = _
        rw [(round_trips_iff cells).mp content, Option.map_some]
    | doorway => rfl
  inWords := by
    intro json geometry run
    change Geometry.read? json = _ at run
    rw [Geometry.read?.eq_def] at run
    split at run
    · cases run
      trivial
    · cases run
      trivial
    · obtain ⟨rects, _, rfl⟩ := Option.map_eq_some_iff.mp run
      trivial
    next content =>
      obtain ⟨cells, read, rfl⟩ := Option.map_eq_some_iff.mp run
      exact (list_faithful cell_faithful).inWords content cells read
    · cases run

theorem connector_faithful : FaithfulForm (Connector Float) where
  reread := by
    rintro c ⟨idWord, roomWords, cellWords⟩ doubles
    have apart := List.forall_mem_append.mp doubles
    have id := connector_id_faithful.reread c.id idWord (doubles_absent c.id rfl)
    have rooms := (pair_faithful room_id_faithful room_id_faithful).reread c.rooms roomWords
      (doubles_absent c.rooms rfl)
    have doors := (pair_faithful door_faithful door_faithful).reread c.doors ⟨trivial, trivial⟩ apart.1
    have geometry := geometry_faithful.reread c.geometry cellWords apart.2
    have forced := flag_faithful.reread c.forced trivial (doubles_absent c.forced rfl)
    refine record_round_trips c _ _ _ rfl (fun _ => rfl) (by decide) rfl ?_
    rw [field_written _ "id" c.id id rfl, field_written _ "rooms" c.rooms rooms rfl,
      field_written _ "doors" c.doors doors rfl, field_written _ "geometry" c.geometry geometry rfl,
      field_written _ "forced" c.forced forced rfl]
    rfl
  inWords := by
    intro json c run
    obtain ⟨fields, _, run⟩ := Option.bind_eq_some_iff.mp run
    obtain ⟨id, idRead, run⟩ := Option.bind_eq_some_iff.mp run
    obtain ⟨rooms, roomsRead, run⟩ := Option.bind_eq_some_iff.mp run
    obtain ⟨doors, _, run⟩ := Option.bind_eq_some_iff.mp run
    obtain ⟨geometry, geometryRead, run⟩ := Option.bind_eq_some_iff.mp run
    obtain ⟨forced, _, run⟩ := Option.bind_eq_some_iff.mp run
    cases run
    exact ⟨field_in_words connector_id_faithful fields "id" id idRead,
      field_in_words (pair_faithful room_id_faithful room_id_faithful) fields "rooms" rooms roomsRead,
      field_in_words geometry_faithful fields "geometry" geometry geometryRead⟩

theorem occupant_faithful : FaithfulForm Occupant where
  reread := by
    intro occupant words _
    rw [round_trips_iff]
    cases occupant with
    | room id =>
        have content := room_id_faithful.reread id words (doubles_absent id rfl)
        change (JsonForm.read? (asRead (JsonForm.write id))).map Occupant.room = _
        rw [(round_trips_iff id).mp content, Option.map_some]
    | connector id =>
        have content := connector_id_faithful.reread id words (doubles_absent id rfl)
        change (JsonForm.read? (asRead (JsonForm.write id))).map Occupant.connector = _
        rw [(round_trips_iff id).mp content, Option.map_some]
  inWords := by
    intro json occupant run
    change Occupant.read? json = _ at run
    rw [Occupant.read?.eq_def] at run
    split at run
    next content =>
      obtain ⟨id, read, rfl⟩ := Option.map_eq_some_iff.mp run
      exact room_id_faithful.inWords content id read
    next content =>
      obtain ⟨id, read, rfl⟩ := Option.map_eq_some_iff.mp run
      exact connector_id_faithful.inWords content id read
    · cases run

theorem budgets_faithful : FaithfulForm Budgets where
  reread := by
    intro budgets _ _
    obtain ⟨members, shape, document⟩ := Config.budgets_document budgets
    rw [round_trips_iff, shape]
    change Budgets.read? (.object members) = _
    rw [budgets.read_document BudgetField.all members document (by decide)]
    rfl
  inWords := fun _ _ _ => trivial

end Composed

-- Values are read back from what is written for them, and what is read from a text is so again from its own.
def Rereads (β : Type) [JsonForm β] [Parts β] : Prop :=
  (∀ x : β, Parts.inWords x → DoublesReread x → RoundTrips x)
    ∧ ∀ (text : String) (x : β), (parse? text).bind JsonForm.read? = some x → DoublesReread x → RoundTrips x

theorem FaithfulForm.rereads {β : Type} [JsonForm β] [Parts β] (faithful : FaithfulForm β) : Rereads β := by
  refine ⟨faithful.reread, ?_⟩
  intro text x accepted doubles
  obtain ⟨json, _, read⟩ := Option.bind_eq_some_iff.mp accepted
  exact faithful.reread x (faithful.inWords json x read) doubles

theorem layout_values_reread :
    Rereads (Point Float) ∧ Rereads (Rect Float) ∧ Rereads Wall ∧ Rereads (Door Float) ∧ Rereads (Room Float)
      ∧ Rereads RoomId ∧ Rereads (Edge Float) ∧ Rereads Cell ∧ Rereads (Geometry Float)
      ∧ Rereads (Connector Float) ∧ Rereads Occupant ∧ Rereads Budgets :=
  ⟨point_faithful.rereads, rect_faithful.rereads, wall_faithful.rereads, door_faithful.rereads,
    room_faithful.rereads, room_id_faithful.rereads, edge_faithful.rereads, cell_faithful.rereads,
    geometry_faithful.rereads, connector_faithful.rereads, occupant_faithful.rereads, budgets_faithful.rereads⟩

theorem far_connector_and_shuffled_room_reread :
    let connector : Connector Float :=
      { id := ⟨4294967295⟩, rooms := (⟨0⟩, ⟨4294967295⟩)
        doors := (⟨.right, ⟨-2.5, 0.1⟩⟩, ⟨.top, ⟨1e300, -0.0⟩⟩)
        geometry := .path [⟨-2147483648, 0⟩, ⟨-2147483647, 2147483647⟩], forced := true }
    let doors := "[[\"left\",[0.5,3]],\x7b\"anchor\":[4.5,3],\"note\":[],\"wall\":\x7b\"right\":null\x7d\x7d]"
    let text := "\x7b\"doors\":" ++ doors ++ ",\"rect\":[0.5,1,4,4e0],\"id\":7\x7d"
    let room : Room Float :=
      { id := ⟨7⟩, rect := ⟨0.5, 1, 4, 4⟩, doors := [⟨.left, ⟨0.5, 3⟩⟩, ⟨.right, ⟨4.5, 3⟩⟩] }
    RoundTrips connector ∧ (parse? text).bind JsonForm.read? = some room ∧ RoundTrips room := by
  intro connector doors text room
  have connectorDoubles : DoublesReread connector := by
    simp only [DoublesReread, RoundTrips]
    decide +kernel
  have roomDoubles : DoublesReread room := by
    simp only [DoublesReread, RoundTrips]
    decide +kernel
  obtain ⟨_, _, _, _, rooms, _, _, _, _, connectors, _⟩ := layout_values_reread
  have read : (parse? text).bind JsonForm.read? = some room := by decide +kernel
  have words : Parts.inWords connector := by
    simp only [connector, Parts.inWords]
    decide
  exact ⟨connectors.1 connector words connectorDoubles, read, rooms.2 text room read roomDoubles⟩

end Floorplan
