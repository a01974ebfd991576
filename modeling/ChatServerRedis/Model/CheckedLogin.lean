import ChatServerRedis.Model.LoginContents

/-! # LoginContents.cpp with checked reads

The handlers of LOGIN over another comparison: they stop where `memcmp` reads behind the
reply of Redis.
-/

namespace ChatServerRedis.LoginContents

open Handlers

variable (config : Config)

/-- `memcmp(first, text, size) != 0` on a text that is `text` and its NUL, and nothing
    more. -/
def memcmpChecked (first : Option (List BYTE)) (text : List BYTE) (size : Nat) : Handler Bool :=
  match first with
  | none => stop .nullPointer
  | some bytes =>
    if text.length + 1 < size then stop .overRead
    else pure (decide (bytes.take size ≠ (text ++ [0]).take size))

def csChatReqLoginChecked (reply : Reply) (pPlayer : PlayerPtr) (pPacket : List BYTE) : Handler Unit :=
  csChatReqLoginOver config reply.isNull
    (fun pSessionKey => memcmpChecked pSessionKey reply.asString sessionKeyLen) pPlayer pPacket

def onRecvChecked (typeLocal : WORD) (reply : Reply) (pPacket : List BYTE) (pPlayer : PlayerPtr) :
    Handler Unit :=
  onRecvOver config (csChatReqLoginChecked config reply pPlayer) typeLocal pPacket pPlayer

end ChatServerRedis.LoginContents
