import Sounder.Lib.Machine
import Sounder.Lib.Retry
import Sounder.Lib.WorkQueue
import Sounder.Lib.Frames
import Sounder.Lib.Serial
import Sounder.Lib.Mutex
import Sounder.Board
import Sounder.Lib.Paged
import Sounder.Lib.Ledger
import Sounder.Npca110.Tables
import Sounder.Npca110.Driver
import Sounder.Npca110.Chip
import Sounder.Npca110.System
import Sounder.Npca110.Route
import Sounder.Npca110.Configured
import Sounder.Npca110.Framing
import Sounder.Npca110.Ioctl
import Sounder.Npca110.Interleaving
import Sounder.Npca110.Node
import Sounder.Ntp8230.Tables
import Sounder.Ntp8230.Driver
import Sounder.Ntp8230.Chip
import Sounder.Ntp8230.Convergence
import Sounder.Ntp8230.Passes
import Sounder.Ntp8230.Unmute
import Sounder.Ntp8230.Pages
import Sounder.Ntp8230.Silence
import Sounder.Transfer
import Sounder.Identity
import Sounder.Hal.Sound
import Sounder.Hal.Lock
import Sounder.Hal.Descriptors
import Sounder.AuxSwitch
import Sounder.Npca110.Settling
import Sounder.Module.Load
import Sounder.Module.Teardown
import Sounder.Module.Flag
import Sounder.Lib.Semaphore
import Sounder.Lib.Gate
import Sounder.DeviceFile
import Sounder.Npca110.Delay
import Sounder.Detection
import Sounder.Npca110.File
import Sounder.Ntp8230.File
import Sounder.Module.Publish
import Sounder.Npca110.Pins
import Sounder.Lib.Simulation
import Sounder.Session
import Sounder.Joint
import Sounder.Lib.Memo
import Sounder.Registry
import Sounder.Lib.Drain
import Sounder.Module.Completion
import Sounder.Module.Clients
import Sounder.Hal.Progress
import Sounder.Lib.Linear
import Sounder.Service
