import BoardBind.Declarations
import BoardBind.Proofs.Graph.Edges

/-! # Declarations as they are met

What a reader of a source has collected is determined by the units, ports and instances it met, in that
order: of the instances each is kept once. So what one part of a source adds is told by what is met in
it, and not by what was collected before.
-/

namespace BoardBind.Declarations

variable {units : List DesignUnit} {ports : List (String × Port)} {instances : List Instance}
  {unit : String}

/-- The declarations of a source in which these were met. -/
def collected (units : List DesignUnit) (ports : List (String × Port)) (instances : List Instance) :
    Declarations where
  units := units
  ports := ports
  instances := instances.eraseDups

theorem addUnit_collected (unit : DesignUnit) :
    (collected units ports instances).addUnit unit = collected (units ++ [unit]) ports instances := rfl

theorem addInstance_collected (i : Instance) :
    (collected units ports instances).addInstance i = collected units ports (instances ++ [i]) := by
  rw [addInstance, collected, collected, eraseDups_concat]
  simp only [List.mem_eraseDups]
  split_ifs <;> rfl

section ports

variable (declared : ∃ u ∈ units, u.name = unit)

include declared

theorem addPort_collected (port : Port) : (collected units ports instances).addPort unit port =
    collected units (ports ++ [(unit, port)]) instances := by
  have known : (collected units ports instances).declares unit := by
    simpa [declares, collected] using declared
  rw [addPort, if_pos known]
  rfl

theorem foldl_addPort_collected (new : List Port) :
    new.foldl (fun found port => found.addPort unit port) (collected units ports instances) =
      collected units (ports ++ new.map fun port => (unit, port)) instances := by
  induction new generalizing ports with
  | nil => rw [List.foldl_nil, List.map_nil, List.append_nil]
  | cons port new ih =>
    rw [List.foldl_cons, addPort_collected declared, ih, List.append_assoc, List.singleton_append,
      List.map_cons]

end ports

end BoardBind.Declarations
