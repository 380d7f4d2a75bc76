import PciBus.Desk
import PciBus.Main
import PciBus.Probe
import PciBus.Proofs.Action.Paired
import PciBus.Proofs.Bar.Confinement
import PciBus.Proofs.Bar.Decoding
import PciBus.Proofs.Bar.Table
import PciBus.Proofs.Bus.Access
import PciBus.Proofs.Bus.History
import PciBus.Proofs.Files.Names
import PciBus.Proofs.Files.Territory
import PciBus.Proofs.Handle.Calls
import PciBus.Proofs.Handle.Confined
import PciBus.Proofs.Handle.Flag
import PciBus.Proofs.Handle.InPlace
import PciBus.Proofs.Handle.Mapped
import PciBus.Proofs.Handle.Sharing
import PciBus.Proofs.Handle.Use
import PciBus.Proofs.Handle.Visit
import PciBus.Proofs.Location.Digits
import PciBus.Proofs.Location.FilterText
import PciBus.Proofs.Location.Identity
import PciBus.Proofs.Location.Name
import PciBus.Proofs.Mapping.Shared
import PciBus.Proofs.NameDatabase.Sections
import PciBus.Proofs.Probe.Acceptance
import PciBus.Proofs.Probe.ArgumentList
import PciBus.Proofs.Probe.Criterion
import PciBus.Proofs.Probe.Inspection
import PciBus.Proofs.Probe.Override
import PciBus.Proofs.Probe.Restoration
import PciBus.Proofs.Probe.Walk
import PciBus.Proofs.Scan.Enumeration
import PciBus.Proofs.Scan.Kernel
import PciBus.Proofs.Scan.Listing
import PciBus.Proofs.Scan.Mirror
import PciBus.Proofs.Scan.ResourceTable
import PciBus.Proofs.Scan.Writing
import PciBus.Proofs.Session.Backends
import PciBus.Proofs.Session.Bystander
import PciBus.Proofs.Session.Drain
import PciBus.Proofs.Session.FailedWrite
import PciBus.Proofs.Session.Interleaving
import PciBus.Proofs.Session.Ledger
import PciBus.Proofs.Session.Opened
import PciBus.Proofs.Session.Opening
import PciBus.Proofs.Session.Origin
import PciBus.Proofs.Session.Pending
import PciBus.Proofs.Session.Resolution
import PciBus.Proofs.Session.Rollback
import PciBus.Proofs.Session.Run
import PciBus.Proofs.Session.Shutdown
import PciBus.Proofs.Session.Tenancy
import PciBus.Proofs.Session.Workshop
import PciBus.Proofs.Settings.Parameters
import PciBus.Proofs.Settings.Reading
import PciBus.Proofs.Text.Cut
import PciBus.Proofs.Text.Numeral
import PciBus.Proofs.Whitelist.Ambiguity
import PciBus.Proofs.Whitelist.Selection
import PciBus.Session
import PciBus.Settings
