import BusFabric.Proofs.Fabric.Windows
import BusFabric.Proofs.RegisterBank.Registration

set_option autoImplicit false

namespace BusFabric

variable {fault : ArithmeticFault}

/-- What is wrong with a declaration or a setting has nothing to do with the map. -/
theorem mapError_config_ne {α : Type} {made : Except ConfigError α} {error : MapError} :
    made.mapError BuildError.config ≠ .error (.map error) := by
  intro failed
  obtain ⟨_, _, same⟩ := Except.mapError_eq_error.mp failed
  cases same

namespace AddressMap

variable {map : AddressMap} {port : Port} {alignment span : Nat}

theorem insert?_ne_arithmetic (positive : 0 < alignment) (window : Window) :
    map.insert? window alignment span ≠ .error (.arithmetic fault) := by
  intro stopped
  unfold insert? at stopped
  dsimp only at stopped
  repeat' split at stopped
  all_goals cases stopped
  omega

theorem insertAll_ne_arithmetic (positive : 0 < alignment) (windows : List Window) :
    (map.insertAll alignment span windows).2 ≠ .error (.arithmetic fault) := by
  induction windows generalizing map with
  | nil => nofun
  | cons window rest ih =>
    unfold insertAll
    split
    · exact ih
    · rename_i error refused
      rintro ⟨⟩
      exact insert?_ne_arithmetic positive window refused

/-- Arithmetic stops the registration of a port only if its lines cannot be counted. -/
theorem registerPort?_arithmetic
    (stopped : map.registerPort? port = .error (.map (.arithmetic fault))) :
    fault = .overflow ∧ port.addressableBytes? = none := by
  unfold registerPort? at stopped
  split at stopped
  · obtain ⟨cause, refused, same⟩ := Except.mapError_eq_error.mp stopped
    obtain rfl := BuildError.map.inj same
    unfold register? at refused
    split at refused
    · rename_i uncounted
      cases refused
      exact ⟨rfl, uncounted⟩
    · exact absurd refused (insert?_ne_arithmetic (by unfold Port.naturalAlignment; omega) _)
  · cases stopped

end AddressMap

namespace RegisterBank.Allocator

variable {allocator after : Allocator} {declaration : Declaration} {window : Window}

theorem place_ne_arithmetic (wide : 0 < allocator.dataWidth) (name : String) (index : Nat)
    (contents : Contents) :
    allocator.place name index contents ≠ .error (.map (.arithmetic fault)) := by
  have countable : contents.isCountable allocator.dataWidth = true := by
    cases contents with
    | registers registers => simp [Contents.isCountable, Nat.ne_of_gt wide]
    | memory words => rfl
  unfold place
  dsimp only
  rw [countable]
  repeat' split
  all_goals simp_all

theorem allocate_ne_arithmetic (wide : 0 < allocator.dataWidth) :
    allocator.allocate declaration ≠ .error (.map (.arithmetic fault)) := by
  unfold allocate
  split
  · exact place_ne_arithmetic wide _ _ _
  · split
    · nofun
    · exact place_ne_arithmetic wide _ _ _

end RegisterBank.Allocator

theorem RegisterBank.Allocator.allocateAll_ne_arithmetic {allocator : Allocator}
    (powerOfTwo : allocator.granularity.isPowerOfTwo) (wide : 0 < allocator.dataWidth)
    (calls : List Declaration) :
    allocator.allocateAll calls ≠ .error (.map (.arithmetic fault)) := by
  induction calls generalizing allocator with
  | nil => nofun
  | cons call rest ih =>
    unfold allocateAll
    split
    · rename_i after window placed
      obtain ⟨_, _, _, rfl, _⟩ := (allocate_eq_ok powerOfTwo).mp placed
      exact ih powerOfTwo wide
    · rename_i error refused
      rintro ⟨⟩
      exact allocate_ne_arithmetic wide refused

namespace Fabric

open Bridge (Conversion)

variable {config : Config} {parts after : Parts} {port : Port}

theorem Parts.add_arithmetic (stopped : parts.add config port = .error (.map (.arithmetic fault))) :
    fault = .overflow ∧ port.role = .slave ∧ port.protocol ≠ .registerBus ∧
      port.addressableBytes? = none := by
  unfold add at stopped
  split at stopped
  · rcases Except.bind_eq_error.mp stopped with failed | ⟨_, _, done⟩
    · exact absurd failed mapError_config_ne
    · cases done
  · rename_i answers
    split at stopped
    · repeat' split at stopped
      all_goals cases stopped
    · rename_i plain
      rcases Except.bind_eq_error.mp stopped with failed | ⟨_, _, rest⟩
      · obtain ⟨overflow, uncounted⟩ := AddressMap.registerPort?_arithmetic failed
        exact ⟨overflow, answers, plain, uncounted⟩
      · rcases Except.bind_eq_error.mp rest with failed | ⟨_, _, done⟩
        · exact absurd failed mapError_config_ne
        · cases done

theorem Parts.foldlM_arithmetic {ports : List Port}
    (stopped : ports.foldlM (fun parts port => parts.add config port) parts =
      .error (.map (.arithmetic fault))) :
    fault = .overflow ∧ ∃ port ∈ ports, port.role = .slave ∧ port.protocol ≠ .registerBus ∧
      port.addressableBytes? = none := by
  induction ports generalizing parts with
  | nil => cases stopped
  | cons port rest ih =>
    rw [List.foldlM_cons] at stopped
    rcases Except.bind_eq_error.mp stopped with failed | ⟨_, _, later⟩
    · obtain ⟨overflow, found⟩ := Parts.add_arithmetic failed
      exact ⟨overflow, port, List.mem_cons_self, found⟩
    · obtain ⟨overflow, other, member, found⟩ := ih later
      exact ⟨overflow, other, List.mem_cons_of_mem _ member, found⟩

/-- Behind a register bus of a width that is allowed, every access of the registers has an answer.
-/
theorem exists_registers {bus : Port} {origin : Address} {granularity stride maxBanks : Nat}
    {start allocator : RegisterBank.Allocator} {calls : List RegisterBank.Declaration}
    (created : RegisterBank.Allocator.create bus origin granularity stride maxBanks = .ok start)
    (allocated : start.allocateAll calls = .ok allocator) (positive : 0 < stride)
    (lanes : bus.dataWidth / 8 ≤ 16) :
    ∃ registers, Device.Registers.ofLayout? allocator.layout = some registers := by
  have follows := RegisterBank.Allocator.follows_of_allocateAll created allocated
  obtain ⟨powerOfTwo, _, rfl⟩ := RegisterBank.Allocator.create_eq_ok.mp created
  have regular : (Device.RegisterFile.ofLayout allocator.layout).IsRegular := by
    rw [follows.whole]
    exact ⟨Nat.pos_of_isPowerOfTwo powerOfTwo, positive, lanes⟩
  exact ⟨_, dif_pos regular⟩

theorem Parts.addBanks_ne_arithmetic (width : 0 < config.width / 8)
    (carries : ∀ bus, parts.registerBus = some bus →
      bus.dataWidth ∈ Port.allowedWidths .registerBus) :
    parts.addBanks config ≠ .error (.map (.arithmetic fault)) := by
  intro stopped
  unfold addBanks at stopped
  dsimp only at stopped
  split at stopped
  · rename_i bus carried
    have allowed : bus.dataWidth = 8 ∨ bus.dataWidth = 16 ∨ bus.dataWidth = 32 := by
      simpa [Port.allowedWidths] using carries bus carried
    rcases Except.bind_eq_error.mp stopped with failed | ⟨start, created, rest⟩
    · exact absurd failed mapError_config_ne
    rw [Except.mapError_eq_ok] at created
    obtain ⟨powerOfTwo, _, whole⟩ := RegisterBank.Allocator.create_eq_ok.mp created
    rcases Except.bind_eq_error.mp rest with failed | ⟨allocator, allocated, rest⟩
    · rw [whole] at failed
      exact RegisterBank.Allocator.allocateAll_ne_arithmetic powerOfTwo
        (show 0 < bus.dataWidth by omega) _ failed
    rcases Except.bind_eq_error.mp rest with failed | ⟨_, _, rest⟩
    · obtain ⟨_, refused, same⟩ := Except.mapError_eq_error.mp failed
      obtain rfl := BuildError.map.inj same
      have follows := RegisterBank.Allocator.follows_of_allocateAll created allocated
      have stride : allocator.stride = config.width / 8 := (follows.fixed created).2.2.2.2
      exact AddressMap.insertAll_ne_arithmetic (show 0 < allocator.stride by omega) _ refused
    · obtain ⟨registers, regular⟩ := exists_registers created allocated width (by omega)
      rw [regular] at rest
      cases rest
  · split at stopped
    all_goals cases stopped

/-- Nothing but the lines of a slave, where they are too many to be counted, stops a build by
arithmetic. Nothing is divided by zero. -/
theorem build_arithmetic (stopped : build config = .error (.map (.arithmetic fault))) :
    fault = .overflow ∧ ∃ port ∈ config.ports, port.role = .slave ∧ port.protocol ≠ .registerBus ∧
      port.addressableBytes? = none := by
  unfold build at stopped
  rcases Except.bind_eq_error.mp stopped with failed | ⟨_, _, rest⟩
  · exact absurd failed mapError_config_ne
  rcases Except.bind_eq_error.mp rest with failed | ⟨conversion, converts, rest⟩
  · exact absurd failed mapError_config_ne
  rcases Except.bind_eq_error.mp rest with failed | ⟨_, checked, rest⟩
  · exact absurd failed mapError_config_ne
  rcases Except.bind_eq_error.mp rest with failed | ⟨first, folded, rest⟩
  · obtain ⟨overflow, port, member, found⟩ := Parts.foldlM_arithmetic failed
    exact ⟨overflow, port, mem_sortByNumber.mp member, found⟩
  rcases Except.bind_eq_error.mp rest with failed | ⟨_, _, done⟩
  · rw [Except.mapError_eq_ok] at converts checked
    have regular := Conversion.isRegular_of_between converts
    obtain ⟨rfl, _⟩ := Conversion.eq_of_between converts
    have reflects := Parts.Reflects.nil.foldlM folded
    refine absurd failed (Parts.addBanks_ne_arithmetic
      (Nat.pos_of_isPowerOfTwo regular.source.isCell.isPowerOfTwo) ?_)
    intro bus carried
    obtain ⟨member, carries⟩ := reflects.bus bus carried
    have valid := (checkPorts_eq_ok.mp checked).1 bus (mem_sortByNumber.mp member)
    unfold Port.validate at valid
    rw [carries] at valid
    split at valid
    · cases valid
    · rename_i allowed
      exact Decidable.not_not.mp allowed
  · cases done

end Fabric

end BusFabric
