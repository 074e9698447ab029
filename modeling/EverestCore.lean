import EverestCore.Auth.Authorization
import EverestCore.Auth.Reservation.Availability
import EverestCore.Auth.Reservation.Expiry
import EverestCore.Auth.Reservation.Notifications
import EverestCore.Eebus.AppliedLimit
import EverestCore.Energy.Optimizer
import EverestCore.Evse.Charger.EmergencyShutdown
import EverestCore.Evse.Charger.EnableDisable
import EverestCore.Evse.Charger.SessionEvents
import EverestCore.Evse.Iec.ConnectorLock
import EverestCore.Evse.Iec.PlugEvents
import EverestCore.Evse.Iec.PowerEdge
import EverestCore.Evse.ShutdownSignal
import EverestCore.Framework.MessageOrder
import EverestCore.Framework.TopicFilter
import EverestCore.Iso15118.D2.PlugAndCharge
import EverestCore.Iso15118.PowerPathRelease
import EverestCore.McsDataLink.Consistency
import EverestCore.Ocpp.CombineProfiles
import EverestCore.Ocpp.Connectivity.ActiveSlot
import EverestCore.Ocpp.Connectivity.SecurityLevel
import EverestCore.Ocpp.MessageQueue.BootNotification
import EverestCore.Ocpp.MessageQueue.Persistence
import EverestCore.Ocpp.MessageQueue.Promises
import EverestCore.Ocpp.MessageQueue.WakeUp
import EverestCore.Ocpp.StackLevelLaw
import EverestCore.Ocpp.V16.TransactionId
import EverestCore.Ocpp.V2.DynamicSchedule
import EverestCore.Ocpp.V2.NotifyReportSplitter
import EverestCore.Ocpp.V2.ProfileConflicts
import EverestCore.PersistentSessionStorage.Paging
import EverestCore.SerialCommHub.Reads
import EverestCore.Slac.MatchDeadline
