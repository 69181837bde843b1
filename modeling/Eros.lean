import Eros.Lib.Synchronous
import Eros.TmrMasking
import Eros.DmrFailSilence
import Eros.LockstepExact
import Eros.ModeExit
import Eros.LockstepFlag
import Eros.Handshake
import Eros.CheckpointTearing
import Eros.HotSwitch
import Eros.VotedHarts
import Eros.TmrRecovery
import Eros.DelayFifo
import Eros.FsmPhases
import Eros.ModeExclusion
import Eros.QuiescentIdle
import Eros.GroupRecovery
import Eros.SafeSystem
import Eros.ErrorPath
import Eros.MasterLatch
import Eros.IsolatedPair
import Eros.Lib.Outstanding
import Eros.ResponseLines
import Eros.IsolationResponses
import Eros.PhantomResponses
import Eros.HaltPhases
import Eros.BootDispatch
import Eros.AddrDecRespMux
import Eros.AddrDecode
import Eros.ErrorHistory
import Eros.ExternalStop
import Eros.DataRoute
import Eros.CompletionInterrupt
import Eros.NToOneXbar
import Eros.VoterBlame
import Eros.CheckRf
import Eros.Lib.VolatileRoutine
import Eros.SafeStop
import Eros.LockstepPort
import Eros.StalledLockstep
import Eros.Lib.LinkerScript
import Eros.LinkScript
import Eros.SaveArea
import Eros.Lib.Tournament
import Eros.Lib.RoundRobin
import Eros.RrArb
import Eros.ArbiterRuns
import Eros.Lib.SharedMemory
import Eros.XbarVarlat
import Eros.GenRom
import Eros.RegBus
import Eros.SystemXbar
import Eros.Lib.Rv32Decode
import Eros.BootRomCode
import Eros.CsrPath
import Eros.Lib.Progress
import Eros.ModeStart
import Eros.RecoveryReturn
import Eros.ModeSwitch
import Eros.ModeReturn
import Eros.ModeEnd
import Eros.Lib.BlockCipher
import Eros.Aes
import Eros.AesKeys
import Eros.AesModes
import Eros.AesCounter
import Eros.Heap
import Eros.ErosGen
import Eros.Lib.Slot
import Eros.DataRuns
import Eros.PrivateRegs
import Eros.BusSystem
