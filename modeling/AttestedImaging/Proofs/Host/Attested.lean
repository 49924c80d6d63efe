import AttestedImaging.Proofs.Application.Demand
import AttestedImaging.Proofs.Application.Verification
import AttestedImaging.Proofs.Host.Run
import AttestedImaging.Proofs.Image.File

/-!
# From one file to another

What a run of the host comes to if nothing stands in its way: the picture is attested by the key that
is drawn, and the picture that is written is the one whose digest was signed.
-/

namespace AttestedImaging.Host.Program

open Invocation (Visit Processed slots Fits)
open ImageFile (Format)

/-! ## The application at work -/

def application (config : Config) (randomness : Randomness) : Application Software :=
  .create Software.provider config (some (.memory {})) { randomness }

/-- The application with its one session. -/
def opened (config : Config) (randomness : Randomness) : Application Software :=
  { application config randomness with
    sessions := [some { id := 1 }]
    openSessions := 1
    nextId := 2
    device := (application config randomness).device.log (.sessionOpened 1 Software.provider.kind) }

end AttestedImaging.Host.Program
