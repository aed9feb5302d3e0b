import BusFabric.Fabric.Build
import BusFabric.Proofs.Fabric.Untimed

set_option autoImplicit false

namespace BusFabric.Fabric

open Bridge (Conversion)

def Config.retimed (device ram : Nat) (config : Config) : Config :=
  { config with deviceLatency := device, ramLatency := ram }

def SlaveAgent.retimed (device ram : Nat) : SlaveAgent → SlaveAgent
  | split bridge link memory => .split bridge link { memory with latency := ram }
  | .device endpoint => .device { endpoint with latency := device }

def Parts.retimed (device ram : Nat) (parts : Parts) : Parts :=
  { parts with slaves := parts.slaves.map (Prod.map id (·.retimed device ram)) }

def retimed (device ram : Nat) (fabric : Fabric) : Fabric :=
  { fabric with crossbar := { fabric.crossbar with
      slots := fabric.crossbar.slots.map fun slot =>
        { slot with agent := slot.agent.retimed device ram } } }

section

variable {Problem First Second Result Changed : Type} {change : Result → Changed}

theorem bind_map {convert : First → Second} {step : Except Problem First}
    {step' : Except Problem Second} (first : step' = step.map convert)
    {next : First → Except Problem Result} {next' : Second → Except Problem Changed}
    (rest : ∀ result, next' (convert result) = (next result).map change) :
    (step' >>= next') = (step >>= next).map change := by
  subst first
  cases step with
  | error problem => rfl
  | ok result => exact rest result

theorem bind_map_same {step : Except Problem First} {next : First → Except Problem Result}
    {next' : First → Except Problem Changed}
    (rest : ∀ result, next' result = (next result).map change) :
    (step >>= next') = (step >>= next).map change :=
  have same : step = step.map id := by cases step <;> rfl
  bind_map same rest

theorem mapError_map {Other : Type} (name : Problem → Other) (convert : First → Second)
    (step : Except Problem First) :
    (step.map convert).mapError name = (step.mapError name).map convert := by
  cases step <;> rfl

end

section

variable (device ram : Nat) (config : Config)

theorem slaveAgent_retimed (port : Port) :
    slaveAgent port (config.retimed device ram) =
      (slaveAgent port config).map (·.retimed device ram) := by
  have width : (config.retimed device ram).width = config.width := rfl
  unfold slaveAgent
  rw [width]
  dsimp only
  split
  · split <;> rfl
  · cases Conversion.between .simpleSync config.width port.protocol port.dataWidth <;> rfl

theorem Parts.add_retimed (parts : Parts) (port : Port) :
    (parts.retimed device ram).add (config.retimed device ram) port =
      (parts.add config port).map (·.retimed device ram) := by
  have width : (config.retimed device ram).width = config.width := rfl
  have map : (parts.retimed device ram).map = parts.map := rfl
  have bus : (parts.retimed device ram).registerBus = parts.registerBus := rfl
  unfold add
  rw [width, map, bus, slaveAgent_retimed, mapError_map]
  split
  · exact bind_map_same fun agent => rfl
  · split
    · split
      · rfl
      · split <;> rfl
    · refine bind_map_same fun map => bind_map rfl fun agent => congrArg Except.ok ?_
      simp [retimed]

theorem Parts.foldlM_retimed (parts : Parts) (ports : List Port) :
    ports.foldlM (fun (parts : Parts) port => parts.add (config.retimed device ram) port)
        (parts.retimed device ram) =
      (ports.foldlM (fun (parts : Parts) port => parts.add config port) parts).map
        (·.retimed device ram) := by
  induction ports generalizing parts with
  | nil => rfl
  | cons port ports ih =>
    rw [List.foldlM_cons, List.foldlM_cons, add_retimed]
    cases parts.add config port with
    | error error => rfl
    | ok next => exact ih next

theorem Parts.addBanks_retimed (parts : Parts) :
    (parts.retimed device ram).addBanks (config.retimed device ram) =
      (parts.addBanks config).map (Prod.map (·.retimed device ram) id) := by
  have bus : (parts.retimed device ram).registerBus = parts.registerBus := rfl
  have map : (parts.retimed device ram).map = parts.map := rfl
  have width : (config.retimed device ram).width = config.width := rfl
  have region : (config.retimed device ram).region = config.region := rfl
  have banks : (config.retimed device ram).banks = config.banks := rfl
  unfold addBanks
  rw [bus, map, width, region, banks]
  dsimp only
  cases parts.registerBus with
  | none =>
    dsimp only
    split <;> rfl
  | some bus =>
    refine bind_map_same fun allocator => bind_map_same fun placed => bind_map_same fun _ => ?_
    cases Device.Registers.ofLayout? placed.layout with
    | none => rfl
    | some registers =>
      refine congrArg Except.ok (Prod.ext ?_ rfl)
      simp [retimed]
      rfl

/-- With other latencies the same is built, but for the latencies, or refused for the same
reason. -/
theorem build_retimed :
    build (config.retimed device ram) = (build config).map (·.retimed device ram) := by
  have width : (config.retimed device ram).width = config.width := rfl
  have ports : (config.retimed device ram).ports = config.ports := rfl
  have required : (config.retimed device ram).checkRequired = config.checkRequired := rfl
  unfold build
  rw [width, ports, required]
  refine bind_map_same fun _ => bind_map_same fun _ => bind_map_same fun _ =>
    bind_map (Parts.foldlM_retimed device ram config {} (sortByNumber config.ports)) fun parts =>
    bind_map (parts.addBanks_retimed device ram config) fun banked => congrArg Except.ok ?_
  simp only [Parts.retimed, retimed, Crossbar.create, List.map_map]
  rfl

end

theorem untimed_retimed (device ram : Nat) (fabric : Fabric) :
    (fabric.retimed device ram).untimed = fabric.untimed := by
  unfold untimed retimed
  dsimp only
  rw [List.map_map]
  congr 2
  refine List.map_congr_left fun slot _ => ?_
  unfold untimedSlot Function.comp
  dsimp only
  cases slot.agent <;> rfl

end BusFabric.Fabric
