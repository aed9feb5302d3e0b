import BusFabric.Proofs.Fabric.Play
import BusFabric.Proofs.Fabric.Store

set_option autoImplicit false

namespace BusFabric

namespace Bridge.Outbound

def bare (bridge : Outbound) : Outbound :=
  { port := bridge.port, conversion := bridge.conversion, windowBase := bridge.windowBase }

namespace Junction

variable (junction : Junction)

@[simp] theorem accept_bare : junction.accept.bridge.bare = junction.bridge.bare := by
  unfold accept
  split <;> rfl

theorem advanceWrite_bare (carrier : Carrier) :
    (junction.advanceWrite carrier).bridge.bare = junction.bridge.bare := by
  simp only [advanceWrite]
  split
  · split <;> rfl
  · rfl

theorem advanceRead_bare (carrier : Carrier) :
    (junction.advanceRead carrier).1.bridge.bare = junction.bridge.bare := by
  simp only [advanceRead]
  split
  · rfl
  · split
    · rfl
    · split
      · rfl
      · split <;> rfl

theorem step_bare : junction.step.1.bridge.bare = junction.bridge.bare := by
  unfold step
  split
  · rfl
  · rw [← accept_bare junction]
    dsimp only
    split
    · rfl
    · split
      · exact advanceWrite_bare _ _
      · exact advanceRead_bare _ _

theorem tick_bare (cycle : Nat) : (junction.tick cycle).1.bridge.bare = junction.bridge.bare := by
  unfold tick
  split
  · rfl
  · exact step_bare junction

end Junction

end Bridge.Outbound

namespace Split.Ram

def bare (ram : Ram) : Ram :=
  { name := ram.name, busBytes := ram.busBytes, latency := ram.latency }

variable (ram : Ram) (link : Link)

theorem acceptWrite_bare : (ram.acceptWrite link).1.bare = ram.bare := by
  unfold acceptWrite
  split <;> rfl

theorem storeBeat_bare : (ram.storeBeat link).1.bare = ram.bare := by
  unfold storeBeat
  split
  · dsimp only
    split <;> rfl
  · rfl

theorem tickWrite_bare : (ram.tickWrite link).1.bare = ram.bare := by
  unfold tickWrite
  dsimp only
  split
  · rfl
  · exact (storeBeat_bare _ _).trans (acceptWrite_bare _ _)

theorem tickRead_bare : (ram.tickRead link).1.bare = ram.bare := by
  have accepted : (ram.acceptRead link).1.bare = ram.bare := by
    unfold acceptRead
    split <;> rfl
  rw [← accepted]
  unfold tickRead driveBeat
  dsimp only
  split
  · rfl
  · split
    · rfl
    · split <;> rfl

theorem tick_bare : (ram.tick link).1.bare = ram.bare :=
  (tickRead_bare _ _).trans (tickWrite_bare ram link)

end Split.Ram

namespace Device

def Registers.withBanks (registers : Registers) (banks : List BankState) : Registers where
  file := { registers.file with banks }
  regular := registers.regular.exchange banks

theorem Registers.withBanks_write {registers after : Registers} {offset : Address} {data : Data}
    {select : Strobe} (written : registers.write offset data select = .ok after)
    (banks : List BankState) : after.withBanks banks = registers.withBanks banks := by
  have stored := registers.write?_file offset data select
  rw [written] at stored
  have shape := RegisterFile.eq_of_write? stored
  unfold withBanks
  congr 1
  rw [shape]

def bare : Device → Device
  | sram ram => .sram { ram with memory := {} }
  | registers file => .registers (file.withBanks [])

theorem write_bare {device after : Device} {offset : Address} {data : Data} {select : Strobe}
    (wrote : device.write offset data select = .ok after) : after.bare = device.bare := by
  cases device with
  | sram ram =>
    unfold write Sram.write at wrote
    cases place : ram.wordAt offset with
    | error error => simp [place, Except.map] at wrote
    | ok address =>
      simp only [place, Except.map, Except.ok.injEq] at wrote
      rw [← wrote]
      rfl
  | registers file =>
    unfold write at wrote
    cases written : file.write offset data select with
    | error error => simp [written, Except.map] at wrote
    | ok next =>
      simp only [written, Except.map, Except.ok.injEq] at wrote
      rw [← wrote]
      exact congrArg Device.registers (Registers.withBanks_write written [])

def Endpoint.bare (endpoint : Endpoint) : Endpoint :=
  { device := endpoint.device.bare, base := endpoint.base, latency := endpoint.latency }

theorem Endpoint.tick_bare (endpoint : Endpoint) (link : Simple.Link) :
    (endpoint.tick link).1.bare = endpoint.bare := by
  have performed (request : Simple.Request) (offset : Address) :
      (endpoint.device.perform offset request).1.bare = endpoint.device.bare := by
    unfold perform
    split
    · split
      · rename_i wrote
        exact write_bare wrote
      · rfl
    · split <;> rfl
  unfold tick
  split
  · rfl
  · split
    · rfl
    · unfold bare
      dsimp only
      rw [performed]

end Device

namespace Fabric

open Crossbar (Slot)
open Simple (Request Response)

def emptied : Device → Device
  | .sram sram => .sram { sram with memory := {} }
  | .registers registers =>
    .registers (registers.withBanks
      (registers.file.banks.map fun state => { state with written := {} }))

/-- The agent without its record and its turn. -/
def MasterAgent.pristine : MasterAgent → MasterAgent
  | split script link bridge =>
    .split { script with completions := #[] } link { bridge with preferRead := false }
  | simple script => .simple { script with completions := #[] }

/-- The agent without its contents and its counters. -/
def SlaveAgent.pristine : SlaveAgent → SlaveAgent
  | split bridge link ram =>
    .split { bridge with nextId := 0 } link { ram with memory := {}, waited := 0 }
  | device endpoint =>
    .device { endpoint with device := emptied endpoint.device, waited := 0, accesses := 0 }

/-- The fabric without all that finished traffic leaves behind: what the memories hold, the records
and the counters, and whose turn it is. -/
def pristine (fabric : Fabric) : Fabric :=
  { fabric with
    cycle := 0
    crossbar := { fabric.crossbar with
      lanes := fabric.crossbar.lanes.map fun lane => { lane with agent := lane.agent.pristine }
      slots := fabric.crossbar.slots.map fun slot =>
        { slot with lastRank := none, agent := slot.agent.pristine }
      decodeErrors := 0 }
    faults := #[]
    grants := #[] }

def SlaveAgent.bare : SlaveAgent → SlaveAgent
  | split bridge _ ram => .split bridge.bare {} ram.bare
  | device endpoint => .device endpoint.bare

theorem tickSlot_bare (cycle : Nat) (slot : Slot SlaveAgent) :
    (tickSlot cycle slot).1.agent.bare = slot.agent.bare := by
  unfold tickSlot
  split
  · rename_i bridge split ram agent
    rw [agent]
    unfold SlaveAgent.bare
    dsimp only
    rw [Bridge.Outbound.Junction.tick_bare, Split.Ram.tick_bare]
  · rename_i endpoint agent
    rw [agent]
    unfold SlaveAgent.bare
    dsimp only
    rw [Device.Endpoint.tick_bare]

theorem Serves.bare {request : Request} {response : Response} {slot after : Slot SlaveAgent}
    {count : Nat} (serves : Serves request response slot count after) :
    after.agent.bare = slot.agent.bare := by
  induction serves with
  | @answers slot after _ ticks _ =>
    have same := tickSlot_bare 0 slot
    rw [ticks] at same
    exact same
  | @waits slot next after _ _ ticks _ ih =>
    have same := tickSlot_bare 0 slot
    rw [ticks] at same
    exact ih.trans same

section

variable {simpleBytes : Nat} {isServed : Address → Prop} {place : Address → Address}
  {rests : (Address → Byte) → SlaveAgent → Prop}

/-- A store that leaves nothing but contents and counters behind is, between two requests, what it
was but for these. -/
theorem Store.settles (store : Store simpleBytes isServed place rests)
    (leaves : ∀ {bytes agent}, rests bytes agent → agent.pristine = agent.bare)
    (first : SlaveAgent) :
    Store simpleBytes isServed place
      (fun bytes agent => rests bytes agent ∧ agent.pristine = first) where
  settled := fun resting => store.settled resting.1
  waits := by
    intro bytes slot resting free
    obtain ⟨following, link, rest, ticks⟩ := store.waits slot resting.1 free
    have same := tickSlot_bare 0 slot
    rw [ticks] at same
    refine ⟨following, link, ⟨rest, ?_⟩, ticks⟩
    rw [leaves rest, same, ← leaves resting.1, resting.2]
  serves := by
    intro bytes slot request resting waits served
    obtain ⟨count, after, serves, rest⟩ := store.serves slot resting.1 waits served
    refine ⟨count, after, serves, rest, ?_⟩
    rw [leaves rest, serves.bare, ← leaves resting.1, resting.2]

end

theorem Idles.pristine {conversion : Bridge.Conversion} {windowBase : Address}
    {bytes : Address → Byte} {agent : SlaveAgent}
    (idles : Idles conversion windowBase bytes agent) : agent.pristine = agent.bare := by
  obtain @⟨bridge, ram, _, _, running, idle, rest, _, _⟩ := idles
  obtain ⟨_, _, _, _, _, _⟩ := bridge
  obtain ⟨_, _, _, _, _, _, _, _⟩ := ram
  obtain ⟨write, owed, read⟩ := rest
  dsimp only at running idle write owed read
  subst running idle write owed read
  rfl

theorem Sits.pristine {size wordBytes : Nat} {base : Address} {bytes : Address → Byte}
    {agent : SlaveAgent} (sits : Sits size wordBytes base bytes agent) :
    agent.pristine = agent.bare := by
  obtain @⟨endpoint, sram, device, _, _, _, _⟩ := sits
  unfold SlaveAgent.pristine SlaveAgent.bare Device.Endpoint.bare
  dsimp only
  rw [device]
  rfl

/-- What no tick and no push changes of a fabric, beside parts of its crossbar. -/
def fixtures (fabric : Fabric) : Nat × RegisterBank.Layout × Option Platform × Bool :=
  (fabric.width, fabric.layout, fabric.platform, fabric.recordsGrants)

theorem fixtures_ticks (fabric : Fabric) (count : Nat) :
    (fabric.ticks count).fixtures = fabric.fixtures := by
  induction count generalizing fabric with
  | zero => rfl
  | succ count ih => exact ih fabric.tick

end Fabric

end BusFabric
