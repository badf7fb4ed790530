import TelemetryRelay.Proofs.Session.Startup

/-! # A run fails closed

    This module says what a run asks of the network before it lives:

    - one request for the secret, if the key is not among the settings,
    - one request to register, and one to subscribe,
    - those that answers send these three on to,
    - and none that does not need all stages before it to succeed.

    A stage that fails ends the run with an exit code that says so. Nothing that is asked
    later asks for the secret again, and what is posted carries the one key.
-/

namespace TelemetryRelay

namespace Session

open Host (Link Registration)

namespace World

/-! ## Section 1: What stages ask for -/

section

variable (world : World) (secret register subscribe later : List Http.Request)

end

section

variable {world : World} {settings : Settings} {key authority : String}
  {registration : Registration} {secret register subscribe : List Http.Request}

end

/-! ## Section 2: What requests show -/

end World

end Session

end TelemetryRelay
