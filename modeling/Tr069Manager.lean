import Tr069Manager.Lib.Runs
import Tr069Manager.Lib.Tagged
import Tr069Manager.ScheduleDownload.DataModel
import Tr069Manager.ScheduleDownload.TimeWindow
import Tr069Manager.ScheduleDownload.Transfers
import Tr069Manager.ScheduleDownload.Plugin
import Tr069Manager.ScheduleDownload.Outcomes
import Tr069Manager.ScheduleDownload.View
import Tr069Manager.ScheduleDownload.Isolation
import Tr069Manager.ScheduleDownload.Effects
import Tr069Manager.ScheduleDownload.Finality
import Tr069Manager.ScheduleDownload.Lock
import Tr069Manager.ScheduleDownload.Attempts
import Tr069Manager.ScheduleDownload.Windows
import Tr069Manager.ScheduleDownload.WindowLife
import Tr069Manager.ScheduleDownload.WindowTimes
import Tr069Manager.ScheduleDownload.RunTime
import Tr069Manager.ScheduleDownload.RestartState
import Tr069Manager.ScheduleDownload.GivingUp
import Tr069Manager.AcsTransfers.DataModel
import Tr069Manager.AcsTransfers.TimedOut
import Tr069Manager.AcsTransfers.FirmwareDownload
import Tr069Manager.FirmwareImage.Attribution
import Tr069Manager.Reports.Path
import Tr069Manager.Reports.Daemon
import Tr069Manager.Reports.Once
import Tr069Manager.Cookies.Jar
import Tr069Manager.Cookies.Meaning
import Tr069Manager.Lib.IndexLoop
import Tr069Manager.SetParameterValues.DataModel
import Tr069Manager.SetParameterValues.Validate
import Tr069Manager.SetParameterValues.Apply
import Tr069Manager.SetParameterValues.Outcome
import Tr069Manager.SetParameterValues.EachOnce
import Tr069Manager.SetParameterValues.Examined
import Tr069Manager.SetParameterValues.Complete
import Tr069Manager.Subscriptions.DataModel
import Tr069Manager.Subscriptions.Invariant
import Tr069Manager.Subscriptions.Notification
import Tr069Manager.AcsTransfers.TimedTransfers
import Tr069Manager.AcsTransfers.Startup
import Tr069Manager.AcsTransfers.OwnTimers
import Tr069Manager.AcsTransfers.UndisturbedRuns
import Tr069Manager.AcsTransfers.Uploads
import Tr069Manager.AcsTransfers.UploadRuns
import Tr069Manager.Parameters.DataModel
import Tr069Manager.Parameters.AmxParameter
import Tr069Manager.Parameters.GetValues
import Tr069Manager.Parameters.Aliases
import Tr069Manager.Parameters.Answers
import Tr069Manager.Parameters.ValueRules
import Tr069Manager.Lib.Sorted
import Tr069Manager.Parameters.ReadValues
import Tr069Manager.Parameters.SortedValues
import Tr069Manager.Parameters.NameRules
import Tr069Manager.Parameters.ReadNames
import Tr069Manager.Parameters.AccessRules
import Tr069Manager.Parameters.ParameterNames
import Tr069Manager.Parameters.NamesWalk
import Tr069Manager.Parameters.InstanceMode
import Tr069Manager.Cookies.RoundTrip
import Tr069Manager.Lib.StringPointer
import Tr069Manager.Cookies.TokenScan
import Tr069Manager.Timers.TimerMap
import Tr069Manager.ConnectionRequests.RateLimit
import Tr069Manager.AcsAddress.Selection
import Tr069Manager.AcsAddress.Dns
import Tr069Manager.AcsAddress.NextLookup
import Tr069Manager.AcsAddress.LookupDelay
import Tr069Manager.AcsAddress.CurrentAddresses
import Tr069Manager.AcsAddress.Bootstrap
import Tr069Manager.ConnectionRequests.OneServer
import Tr069Manager.ConnectionRequests.Authentication
import Tr069Manager.AcsSession.AuthRetries
import Tr069Manager.AcsSession.Credentials
import Tr069Manager.AcsSession.SessionTime
import Tr069Manager.AcsSession.ResponseBuffer
import Tr069Manager.AcsSession.InformParameters
import Tr069Manager.ConnRequestAddress.JabberId
import Tr069Manager.ConnRequestAddress.Plugin
import Tr069Manager.ConnRequestAddress.Url
import Tr069Manager.ConnRequestAddress.Firewall
import Tr069Manager.ConnRequestAddress.LocalAddress
import Tr069Manager.SoftwareModules.DuStateChange
import Tr069Manager.SoftwareModules.Results
import Tr069Manager.AcsTransfers.Downloads
import Tr069Manager.AcsTransfers.DownloadFiles
import Tr069Manager.ManageableDevices.HostList
import Tr069Manager.ManageableDevices.Plugin
import Tr069Manager.ManageableDevices.Listing
import Tr069Manager.ManageableDevices.Refinement
import Tr069Manager.ManageableDevices.DiscoveryOrder
import Tr069Manager.SetParameterValues.AliasPath
import Tr069Manager.Parameters.AliasRestore
import Tr069Manager.Parameters.AliasRewrite
import Tr069Manager.AcsTransfers.AllOrNothing
import Tr069Manager.AcsTransfers.TransferDelays
import Tr069Manager.AcsTransfers.UploadRouting
import Tr069Manager.Subscriptions.AddNotification
import Tr069Manager.Parameters.GsdmData
import Tr069Manager.Parameters.HashOrder
import Tr069Manager.Parameters.OrderFree
import Tr069Manager.Parameters.WildcardPaths
import Tr069Manager.Parameters.NamesErrors
import Tr069Manager.Parameters.GsdmCache
import Tr069Manager.Parameters.GsdmTransparent
import Tr069Manager.Lib.Feed
import Tr069Manager.Reports.System
import Tr069Manager.SoftwareModules.Requests
import Tr069Manager.SoftwareModules.Reported
import Tr069Manager.ScheduleDownload.Reported
import Tr069Manager.Subscriptions.Store
import Tr069Manager.Subscriptions.OwnWrites
import Tr069Manager.Parameters.ReadAll
import Tr069Manager.Parameters.ReadBack
import Tr069Manager.AcsTransfers.Queued
import Tr069Manager.ConnRequestAddress.ToDo
import Tr069Manager.ConnRequestAddress.Changes
import Tr069Manager.ConnectionRequests.Published
import Tr069Manager.ConnRequestAddress.Settling
import Tr069Manager.ConnectionRequests.ComesToRest
import Tr069Manager.ConnectionRequests.GetsThrough
import Tr069Manager.AcsSession.Wire
import Tr069Manager.AcsAddress.LookupEnds
import Tr069Manager.Lib.BackPointers
import Tr069Manager.AcsAddress.Polling
