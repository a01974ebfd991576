import ChatServerRedis.General.PastTime
import ChatServerRedis.General.Placement
import ChatServerRedis.General.Takeover
import ChatServerRedis.General.Transition
import ChatServerRedis.Model.Packet
import ChatServerRedis.Model.Sector
import ChatServerRedis.Model.Types
import ChatServerRedis.Model.ChatContents
import ChatServerRedis.Model.LoginContents
import ChatServerRedis.Model.Server
import ChatServerRedis.Verified.Handlers
import ChatServerRedis.Verified.Requests
import ChatServerRedis.Verified.LoginRequests
import ChatServerRedis.Verified.Steps
import ChatServerRedis.Verified.Lifecycle
import ChatServerRedis.Verified.PlayerCount
import ChatServerRedis.Verified.LoginMap
import ChatServerRedis.Verified.Monitoring
import ChatServerRedis.Verified.Registration
import ChatServerRedis.Verified.SectorGrid
import ChatServerRedis.Verified.Broadcast
import ChatServerRedis.Verified.Credentials
import ChatServerRedis.Verified.LoginKey
import ChatServerRedis.General.Windows
import ChatServerRedis.Model.LoginChatServer
import ChatServerRedis.Verified.ShutDown
import ChatServerRedis.Verified.Acceptance
import ChatServerRedis.Verified.MessageGrid
import ChatServerRedis.Verified.Occupancy
import ChatServerRedis.Verified.Crowd
import ChatServerRedis.General.Deferred
import ChatServerRedis.Model.Network
import ChatServerRedis.Verified.SectorInfoReplies
import ChatServerRedis.Model.CheckedLogin
import ChatServerRedis.Verified.LoginSafety
import ChatServerRedis.General.Interleaving
import ChatServerRedis.Verified.Interleaving
import ChatServerRedis.General.Locking
import ChatServerRedis.Verified.MonitorLock
import ChatServerRedis.General.TwoRuns
import ChatServerRedis.Verified.NamePrivacy
import ChatServerRedis.Verified.Addressing
import ChatServerRedis.Verified.OnceEach
import ChatServerRedis.General.CriticalSection
import ChatServerRedis.Model.MonitorSection
import ChatServerRedis.Verified.MonitorSections
import ChatServerRedis.Verified.Delivery
import ChatServerRedis.Verified.ClientView
import ChatServerRedis.General.Refinement
import ChatServerRedis.Model.Room
import ChatServerRedis.Verified.Notices
import ChatServerRedis.Verified.RoomView
import ChatServerRedis.Verified.RoomRefinement
import ChatServerRedis.General.Lockstep
import ChatServerRedis.Verified.Vacancy
import ChatServerRedis.Model.MonitoredServer
import ChatServerRedis.Verified.Reports
import ChatServerRedis.Verified.RoomDelivery
import ChatServerRedis.Verified.Authorship
import ChatServerRedis.General.Reduction
import ChatServerRedis.Verified.SameSessions
import ChatServerRedis.Model.LoginWorkers
import ChatServerRedis.Verified.LoginWorkers
