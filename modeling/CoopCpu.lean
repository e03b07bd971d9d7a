import CoopCpu.CommandLine
import CoopCpu.History
import CoopCpu.Host
import CoopCpu.Listing
import CoopCpu.Main
import CoopCpu.Proofs.Addressing
import CoopCpu.Proofs.AttachOrder
import CoopCpu.Proofs.BitTable
import CoopCpu.Proofs.Bypass
import CoopCpu.Proofs.DecodeFaults
import CoopCpu.Proofs.Delivery
import CoopCpu.Proofs.EagerStop
import CoopCpu.Proofs.FailedService
import CoopCpu.Proofs.FaultAtomicity
import CoopCpu.Proofs.Halting
import CoopCpu.Proofs.KeyConservation
import CoopCpu.Proofs.KeyboardTape
import CoopCpu.Proofs.KeyboardWindow
import CoopCpu.Proofs.LargerMemory
import CoopCpu.Proofs.Listing
import CoopCpu.Proofs.Lock
import CoopCpu.Proofs.ManualTable
import CoopCpu.Proofs.MemoryFrame
import CoopCpu.Proofs.Objections
import CoopCpu.Proofs.Privacy
import CoopCpu.Proofs.RawRuns
import CoopCpu.Proofs.Runway
import CoopCpu.Proofs.SavedState
import CoopCpu.Proofs.Service
import CoopCpu.Proofs.SlotIsolation
import CoopCpu.Proofs.Start
import CoopCpu.Proofs.TableRefusal
import CoopCpu.Proofs.TableValidation
