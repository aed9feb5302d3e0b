import BusFabric.Bench.Crossbar
import BusFabric.Bench.Serve
import BusFabric.CommandLine.Directory
import BusFabric.Main
import BusFabric.Proofs.Fabric.SerialDevices
import BusFabric.Proofs.Bridge.InboundBursts
import BusFabric.Proofs.Fabric.WordMemory
import BusFabric.Proofs.Fabric.RoundTrip
import BusFabric.Proofs.Crossbar.Ownership
import BusFabric.Proofs.Crossbar.Fairness
import BusFabric.Proofs.Fabric.Routing
import BusFabric.Proofs.Fabric.Origins
import BusFabric.Proofs.Bridge.InboundWords
import BusFabric.Proofs.Bridge.OutboundLog
import BusFabric.Proofs.Bridge.OutboundAnswers
import BusFabric.Proofs.Bridge.InboundOrder
import BusFabric.Proofs.Fabric.Slaves
import BusFabric.Proofs.Bridge.InboundHalts
import BusFabric.Proofs.Bridge.InboundTurns
import BusFabric.Proofs.Fabric.Masters
import BusFabric.Proofs.Crossbar.Changes
import BusFabric.Proofs.Crossbar.Solo
import BusFabric.Proofs.Fabric.Retiming
import BusFabric.Proofs.Fabric.Scripts
import BusFabric.Proofs.Fabric.Faults
import BusFabric.Proofs.Fabric.Ending
import BusFabric.Proofs.Fabric.Stillness
import BusFabric.Proofs.Fabric.Solo
import BusFabric.Proofs.AddressMap.Calls
import BusFabric.Proofs.AddressMap.Admission
import BusFabric.Proofs.Bridge.Collisions
import BusFabric.Proofs.Fabric.Spans
import BusFabric.Proofs.Fabric.Overflow
import BusFabric.Proofs.Bridge.InboundFaults
import BusFabric.Proofs.RegisterBank.Placement
import BusFabric.Proofs.RegisterBank.Registration
import BusFabric.Proofs.Device.RegisterWords
import BusFabric.Proofs.Device.PublishedWords
import BusFabric.Proofs.Device.RegisterHistory
import BusFabric.Proofs.Fabric.Published
import BusFabric.Proofs.Fabric.Forwarding
import BusFabric.Proofs.Fabric.Routes
import BusFabric.Proofs.Fabric.DeclarationOrder
import BusFabric.Proofs.Split.Writes
import BusFabric.Proofs.Split.RamBursts
import BusFabric.Proofs.Fabric.Latency
import BusFabric.Proofs.Crossbar.Independence
import BusFabric.Proofs.RegisterBank.Declarations
import BusFabric.Proofs.AddressMap.Reach
import BusFabric.Proofs.Split.Addressing
import BusFabric.Proofs.Bridge.Grouping
import BusFabric.Proofs.Memory.History
