import ChatServerRedis.General.LittleEndian
import ChatServerRedis.Model.Types

/-! # Packets

Extraction from a received packet, which is the list of the bytes not read yet,
and the payloads built in `SCCContents.cpp`.
-/

namespace ChatServerRedis

open Handlers

/-! ## Reading -/

/-- `>>` of a value of `width` bytes: throws when too few bytes remain. -/
def extract (width : Nat) (pPacket : List BYTE) : Handler (Nat × List BYTE) :=
  match LittleEndian.read width pPacket with
  | some field => pure field
  | none => raise .packetExtractFail

def extractWord (pPacket : List BYTE) : Handler (WORD × List BYTE) := do
  let (value, rest) ← extract 2 pPacket
  return (BitVec.ofNat 16 value, rest)

def extractInt64 (pPacket : List BYTE) : Handler (INT64 × List BYTE) := do
  let (value, rest) ← extract 8 pPacket
  return (BitVec.ofNat 64 value, rest)

/-- `GetPointer(size)`: the next `size` bytes, or null when fewer remain. -/
def getPointer (size : Nat) (pPacket : List BYTE) : Option (List BYTE) × List BYTE :=
  if size ≤ pPacket.length then (some (pPacket.take size), pPacket.drop size) else (none, pPacket)

/-! ## Building -/

def wordBytes (value : WORD) : List BYTE := LittleEndian.encode 2 value.toNat

def int64Bytes (value : INT64) : List BYTE := LittleEndian.encode 8 value.toNat

def wcharBytes {length : Nat} (text : Vector WCHAR length) : List BYTE :=
  text.toList.flatMap wordBytes

variable (config : Config)

def makeCsChatResLogin (status : BYTE) (accountNo : INT64) : List BYTE :=
  wordBytes config.csChatResLogin ++ [status] ++ int64Bytes accountNo

def makeCsChatResSectorMove (accountNo : INT64) (sectorX sectorY : WORD) : List BYTE :=
  wordBytes config.csChatResSectorMove ++ int64Bytes accountNo ++ wordBytes sectorX ++
    wordBytes sectorY

def makeCsChatResMessage (accountNo : INT64) (ID : Vector WCHAR idLen)
    (nickName : Vector WCHAR nickNameLen) (messageLen : WORD) (message : List BYTE) : List BYTE :=
  wordBytes config.csChatResMessage ++ int64Bytes accountNo ++ wcharBytes ID ++
    wcharBytes nickName ++ wordBytes messageLen ++ message.take messageLen.toNat

end ChatServerRedis
