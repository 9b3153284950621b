import Yaaos.Gateway.Run

set_option autoImplicit false

namespace Yaaos.Gateway

open Yaaos.Base

variable (env : ClaimEnv) (agentId : WireUuid) (request : ClaimRequest) (state : QueueState)
  (sha256 : String → String) (hydrated : AgentCommandKind → Bool)

end Yaaos.Gateway
