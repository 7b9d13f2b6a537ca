import Floorplan.Proofs.Grid.Complete
import Floorplan.Proofs.Words.Agreement

set_option autoImplicit false

namespace Floorplan

open Floorplan.Random (Draw Rng)

def patientRules : RouteRules Rat := { gapRules with perEdge := 16 }

def thinRules : RouteRules Rat := { patientRules with bounds := .whole 0 0 2 3, thickness := -4 }

def thinUpper : Room Rat := .new ⟨0⟩ (.whole 0 0 1 1)

def thinLower : Room Rat := .new ⟨1⟩ (.whole 1 2 1 1)

def thinRooms : List (Room Rat) :=
  [thinUpper, thinLower, .new ⟨2⟩ (.whole 1 0 1 2), .new ⟨3⟩ (.whole 0 1 1 2)]

theorem thin_on_map : ∀ room ∈ thinRooms, ∃ s, OnMap ⟨0, 0, 2, 3⟩ room s :=
  List.forall_mem_cons.mpr ⟨on_map ⟨0⟩ 0 0 (by decide) (by decide) (by constructor <;> decide) (by decide),
    List.forall_mem_cons.mpr ⟨on_map ⟨1⟩ 1 2 (by decide) (by decide) (by constructor <;> decide) (by decide),
      List.forall_mem_cons.mpr ⟨on_map ⟨2⟩ 1 0 (by decide) (by decide) (by constructor <;> decide) (by decide),
        List.forall_mem_singleton.mpr
          (on_map ⟨3⟩ 0 1 (by decide) (by decide) (by constructor <;> decide) (by decide))⟩⟩⟩

end Floorplan
