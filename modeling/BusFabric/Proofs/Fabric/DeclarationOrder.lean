import BusFabric.Proofs.Fabric.Routes
import BusFabric.Proofs.Fabric.Slaves

set_option autoImplicit false

namespace BusFabric.Fabric

open Bridge (Conversion)

/-- Ports are in ascending order of their numbers. -/
def Ordered (ports : List Port) : Prop :=
  ports.Pairwise fun earlier later => earlier.id.number ≤ later.id.number

theorem Ordered.insertByNumber {ports : List Port} (ordered : Ordered ports) (port : Port) :
    Ordered (insertByNumber port ports) := by
  induction ports with
  | nil => exact List.pairwise_singleton _ port
  | cons next rest ih =>
    obtain ⟨least, tail⟩ := List.pairwise_cons.mp ordered
    unfold Fabric.insertByNumber
    split
    · rename_i before
      refine List.pairwise_cons.mpr ⟨fun other member => ?_, ordered⟩
      rcases List.mem_cons.mp member with rfl | later
      · exact before
      · exact Nat.le_trans before (least other later)
    · rename_i behind
      refine List.pairwise_cons.mpr ⟨fun other member => ?_, ih tail⟩
      rcases mem_insertByNumber.mp member with rfl | held
      · omega
      · exact least other held

theorem ordered_sortByNumber (ports : List Port) : Ordered (sortByNumber ports) := by
  induction ports with
  | nil => exact .nil
  | cons port rest ih => exact ih.insertByNumber port

/-- Ports of different numbers have one order of their numbers. -/
theorem sortByNumber_eq_of_perm {ports others : List Port} (same : ports.Perm others)
    (numbered : (ports.map (·.id)).Nodup) : sortByNumber others = sortByNumber ports := by
  have sorted : (sortByNumber others).Perm (sortByNumber ports) :=
    (perm_sortByNumber others).trans (same.symm.trans (perm_sortByNumber ports).symm)
  refine sorted.eq_of_pairwise ?_ (ordered_sortByNumber others) (ordered_sortByNumber ports)
  intro port other listed held before behind
  have number : port.id.number = other.id.number := Nat.le_antisymm before behind
  have id : port.id = other.id := congrArg PortId.mk number
  have member : port ∈ ports := same.mem_iff.mpr (mem_sortByNumber.mp listed)
  exact List.inj_on_of_nodup_map numbered member (mem_sortByNumber.mp held) id

/-- The check asks for nothing that depends on the order of the ports. -/
theorem checkPorts_perm {ports others : List Port} (same : ports.Perm others) :
    checkPorts [] ports = .ok () ↔ checkPorts [] others = .ok () := by
  simp only [checkPorts_eq_ok, same.mem_iff, (same.map (·.id)).nodup_iff]

section

variable {config : Config} {ports : List Port}

def Config.declaring (config : Config) (ports : List Port) : Config :=
  { config with ports }

/-- Once the ports are checked, the same is built, or refused for the same reason. -/
theorem build_declaring (same : config.ports.Perm ports)
    (checked : checkPorts [] config.ports = .ok ()) :
    build (config.declaring ports) = build config := by
  have numbered := (checkPorts_eq_ok.mp checked).2.1
  have passes : checkPorts [] (config.declaring ports).ports = checkPorts [] config.ports :=
    ((checkPorts_perm same).mp checked).trans checked.symm
  have sorted : sortByNumber (config.declaring ports).ports = sortByNumber config.ports :=
    sortByNumber_eq_of_perm same numbered
  unfold build
  rw [passes, sorted]
  rfl

/-- Ports that do not pass the check are what is wrong, unless something is wrong before. -/
theorem build_of_refused {problem : ConfigError}
    (refused : checkPorts [] config.ports = .error problem) :
    build config = (do
      config.checkRequired.mapError .config
      let _ ← (Conversion.between .wideSplit config.width .simpleSync config.width).mapError .config
      .error (.config problem)) := by
  unfold build
  rw [refused]
  rfl

/-- The declaration order of the ports is irrelevant: what is built of them in one order is built of
them in every order, so that it publishes the same and does the same, whatever is pushed and however
many cycles are run. Where nothing is built, the reason is the same as well, unless it lies in the
ports themselves: then a different one of several invalid ports may come first. -/
theorem declaration_order_is_irrelevant (config : Config) (ports : List Port)
    (same : config.ports.Perm ports) :
    let reordered := config.declaring ports
    (∀ fabric, build config = .ok fabric ↔ build reordered = .ok fabric) ∧
    (∀ fabric other, build config = .ok fabric → build reordered = .ok other →
      other.description = fabric.description ∧
        ∀ actions, other.play actions = fabric.play actions) ∧
    (build reordered = build config ∨
      ∃ problem problem', checkPorts [] config.ports = .error problem ∧
        checkPorts [] ports = .error problem' ∧ build config = .error (.config problem) ∧
        build reordered = .error (.config problem')) := by
  intro reordered
  have alike : build reordered = build config ∨
      ∃ problem problem', checkPorts [] config.ports = .error problem ∧
        checkPorts [] ports = .error problem' ∧ build config = .error (.config problem) ∧
        build reordered = .error (.config problem') := by
    cases checked : checkPorts [] config.ports with
    | ok _ => exact .inl (build_declaring same checked)
    | error problem =>
      cases checked' : checkPorts [] ports with
      | ok _ =>
        rw [(checkPorts_perm same).mpr checked'] at checked
        cases checked
      | error problem' =>
        have here := build_of_refused checked
        have there := @build_of_refused reordered problem' checked'
        have required : reordered.checkRequired = config.checkRequired := rfl
        have width : reordered.width = config.width := rfl
        rw [required, width] at there
        rw [here, there]
        cases config.checkRequired with
        | error missing => exact .inl rfl
        | ok _ =>
          cases Conversion.between .wideSplit config.width .simpleSync config.width with
          | error unfit => exact .inl rfl
          | ok _ => exact .inr ⟨problem, problem', rfl, rfl, rfl, rfl⟩
  have both : ∀ fabric, build config = .ok fabric ↔ build reordered = .ok fabric := by
    intro fabric
    rcases alike with same | ⟨_, _, _, _, here, there⟩
    · rw [same]
    · rw [here, there]
      exact iff_of_false nofun nofun
  refine ⟨both, fun fabric other built built' => ?_, alike⟩
  obtain rfl : fabric = other := Except.ok.inj (((both fabric).mp built).symm.trans built')
  exact ⟨rfl, fun _ => rfl⟩

/-- Two masters, the register bus and a memory, declared from the last one to the first. -/
theorem register_host_reversed :
    registerHost.ports.Perm registerHost.ports.reverse ∧
      ∃ fabric other, build registerHost = .ok fabric ∧
        build (registerHost.declaring registerHost.ports.reverse) = .ok other ∧
        other.description = fabric.description ∧
        ∀ actions, other.play actions = fabric.play actions := by
  have same := (List.reverse_perm registerHost.ports).symm
  have built : build registerHost = .ok _ := rfl
  obtain ⟨both, alike, _⟩ := declaration_order_is_irrelevant registerHost _ same
  have built' := (both _).mp built
  exact ⟨same, _, _, built, built', alike _ _ built built'⟩

end

end BusFabric.Fabric
