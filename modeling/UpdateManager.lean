import UpdateManager.Database
import UpdateManager.Fsm.Persistence
import UpdateManager.Fsm.History
import UpdateManager.Fsm.Downloads
import UpdateManager.Overlay
import UpdateManager.Fsm.Overlay
import UpdateManager.UpdateHandler
import UpdateManager.SimpleHandler
import UpdateManager.Async
import UpdateManager.Staged
import UpdateManager.Efi.Binary
import UpdateManager.Efi.DevicePath
import UpdateManager.Fsm.Priority
import UpdateManager.Fsm.Passes
import UpdateManager.Fsm.Prepare
import UpdateManager.Fsm.Outcome
import UpdateManager.StateController
import UpdateManager.HandlerDatabase
import UpdateManager.Database.Store
import UpdateManager.Efi.Boot
import UpdateManager.Fsm.Sequence
import UpdateManager.Fsm.Reboots
