import ChatServerRedis.General.Deferred
import ChatServerRedis.Model.Server

/-! # The send queues of the sessions

`SendPacket` and `EnqPacket` put the pointer of a packet into the send queue of the
session; the bytes are read when the packet is transmitted.
-/

namespace ChatServerRedis

open Deferred

/-- The session and the packet a call queues. -/
def Call.sent : Call → Option (ULONGLONG × PacketRef)
  | .sendPacket sessionID packet | .enqPacket sessionID packet => some (sessionID, packet)
  | _ => none

/-- The bytes behind a pointer to a packet. -/
def Server.contentOf (server : Server) : PacketRef → List BYTE
  | .alloc payload => payload
  | .sectorInfo => server.sectorInfo.getD []

/-- Every queued pointer is stamped with the server that its request found. -/
def sendQueue : Medium Server Call ULONGLONG PacketRef Server (List BYTE) where
  sends := Call.sent
  stamp := id
  content := Server.contentOf

abbrev Network := Outbox Server ULONGLONG PacketRef Server

abbrev NetworkStep := Transition.Taken Network (Deferred.Event Event ULONGLONG)
  (Transmission ULONGLONG PacketRef Server (List BYTE))

def network (config : Config) : Transition.System Network (Deferred.Event Event ULONGLONG)
    (Transmission ULONGLONG PacketRef Server (List BYTE)) :=
  deferred (chatServer config) sendQueue

abbrev NetworkRun (config : Config) : List NetworkStep → Network → Prop :=
  Transition.Run (network config)

end ChatServerRedis
