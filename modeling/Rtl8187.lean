import Rtl8187.MgmtQueue
import Rtl8187.Lib.Bytes
import Rtl8187.Lib.StreamCipher
import Rtl8187.Frame
import Rtl8187.SkBuff
import Rtl8187.Arc4
import Rtl8187.Crypt
import Rtl8187.CryptWep
import Rtl8187.CryptCcmp
import Rtl8187.CryptTable
import Rtl8187.Lib.Recorder
import Rtl8187.Replay
import Rtl8187.Device
import Rtl8187.Encrypt
import Rtl8187.MgmtFrames
import Rtl8187.Softmac
import Rtl8187.Tx
import Rtl8187.FragCache
import Rtl8187.Rx
import Rtl8187.DeviceSteps
import Rtl8187.RxSteps
import Rtl8187.Ownership
import Rtl8187.Reassembly
import Rtl8187.OneKey
import Rtl8187.Lib.Epochs
import Rtl8187.CcmpNumbers
import Rtl8187.TkipNumbers
import Rtl8187.CcmpHeader
import Rtl8187.KeyReuse
import Rtl8187.TkipCache
import Rtl8187.TkipRoundTrip
import Rtl8187.Join
import Rtl8187.Works
import Rtl8187.StationRun
import Rtl8187.StationSteps
import Rtl8187.NetSteps
import Rtl8187.Semaphore
import Rtl8187.Handshake
import Rtl8187.Stop
import Rtl8187.Plaintext
import Rtl8187.Lib.Skip
import Rtl8187.Lib.Traced
import Rtl8187.ParserReads
import Rtl8187.StackEntry
import Rtl8187.WepIvs
import Rtl8187.Lib.Slots
import Rtl8187.TxRing
import Rtl8187.TxQueue
import Rtl8187.Lengths
import Rtl8187.Radio
import Rtl8187.TxSteps
import Rtl8187.TxRuns
import Rtl8187.TxWake
import Rtl8187.RxReads
import Rtl8187.Lib.Chunks
import Rtl8187.XmitFragments
import Rtl8187.RateAdaptive
import Rtl8187.RfPower
import Rtl8187.Decapsulation
import Rtl8187.FragmentSizing
import Rtl8187.Lib.KeyedTable
import Rtl8187.NetworkList
import Rtl8187.Lib.PutWrite
import Rtl8187.MgmtRoom
import Rtl8187.BeaconRoundTrip
import Rtl8187.CryptLife
import Rtl8187.KeyConfig
import Rtl8187.KeyAtomic
import Rtl8187.Lib.Locks
import Rtl8187.LockedFrames
import Rtl8187.LockedWorks
import Rtl8187.LockedTx
import Rtl8187.LockedKeys
import Rtl8187.PowerSave
import Rtl8187.LockDiscipline
import Rtl8187.TimDecode
import Rtl8187.RawTransmit
import Rtl8187.PoolResidue
import Rtl8187.Sealing
import Rtl8187.Gathering
import Rtl8187.RoundTrip
import Rtl8187.TkipFragments
import Rtl8187.Lib.HashChains
import Rtl8187.DuplicateFilter
import Rtl8187.InfraFilter
import Rtl8187.Lib.WrapClock
import Rtl8187.Eviction
import Rtl8187.Lib.CyclicScan
import Rtl8187.ScanOrder
import Rtl8187.MgmtReads
import Rtl8187.ProbeAnswer
import Rtl8187.SharedKey
import Rtl8187.TxTime
import Rtl8187.RateLadder
import Rtl8187.DigGain
import Rtl8187.AssocIds
import Rtl8187.RxUrb
import Rtl8187.TxImage
import Rtl8187.DecryptReads
import Rtl8187.KeyCounters
import Rtl8187.WepKeys
import Rtl8187.PsSleep
import Rtl8187.Lib.Printing
import Rtl8187.ScanText
import Rtl8187.ChannelPlan
import Rtl8187.WpaElement
import Rtl8187.EntryChange
import Rtl8187.ElementOrder
import Rtl8187.Lib.CStrings
import Rtl8187.SupplicantIoctl
import Rtl8187.Lib.RoundCipher
import Rtl8187.Lib.Rijndael
import Rtl8187.Lib.RijndaelNumbers
import Rtl8187.Lib.Words
import Rtl8187.Aes
import Rtl8187.AesTables
import Rtl8187.AesCipher
import Rtl8187.Lib.Buffered
import Rtl8187.Michael
import Rtl8187.Lib.Gather
import Rtl8187.ScatterWalk
import Rtl8187.Lib.BlockModes
import Rtl8187.CipherModes
import Rtl8187.Cell
import Rtl8187.QuietSteps
import Rtl8187.CipherTfm
import Rtl8187.Digest
import Rtl8187.Eeprom
import Rtl8187.Led
import Rtl8187.LedLink
import Rtl8187.LedStuck
