import TorchComms.Device.LevelZero
import TorchComms.Device.XpuApi
import TorchComms.Device.Proof.Discovery
import TorchComms.Device.Proof.Bounds
import TorchComms.Device.Proof.Lifecycle
import TorchComms.Xccl.StoreKey
import TorchComms.Xccl.Hints
import TorchComms.Xccl.Proof.Hints
import TorchComms.Xccl.Bootstrap
import TorchComms.Xccl.Proof.Ownership
import TorchComms.Xccl.Proof.CallTrace
import TorchComms.Xccl.Rendezvous
import TorchComms.Xccl.Proof.Convergence
import TorchComms.Xccl.Proof.Barrier
import TorchComms.Xccl.Proof.Agreement
import TorchComms.Xccl.Proof.Alignment
import TorchComms.Xccl.Proof.Progress
import TorchComms.Xccl.Constructor
import TorchComms.Xccl.Proof.Construction
import TorchComms.Xccl.Proof.ExchangeMethod
