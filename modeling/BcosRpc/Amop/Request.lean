import BcosRpc.Amop.Client

/-!
# AMOP requests of an SDK

`onRecvAMOPRequest` is the whole exchange that a request starts: with the gateways, with a
local session when no gateway is active or the gateway reports an error, and the messages
sent back. `answeredOnce_iff` says for which exchanges exactly one message is sent back, with
the number of the request.
-/

/-- A message. A message that is built, or whose decoding failed, has no number. -/
structure WsMessage where
  type : Nat := 0
  status : Int := 0
  seq : Option Bytes := none
  data : Bytes := []
  deriving DecidableEq, Repr

namespace AMOPClientMessageType

def AMOP_REQUEST : Nat := 0x111

end AMOPClientMessageType

/-- A received request. -/
structure AmopRequest where
  seq : Bytes
  data : Bytes

def AmopRequest.message (request : AmopRequest) : WsMessage where
  type := AMOPClientMessageType.AMOP_REQUEST
  seq := some request.seq
  data := request.data

/-- The writing and reading of messages, and the topic of a request. -/
structure AmopCodec where
  encode : WsMessage → Bytes
  decode : Bytes → Option WsMessage
  buildRequest : Bytes → String

/-- The answer of the session a request is forwarded to: a response with the number of the
request, or an error without response. -/
inductive SessionAnswer (request : AmopRequest) where
  | response (message : WsMessage) (seq_eq : message.seq = some request.seq)
  | failed (error : Error)

structure GatewayAnswer where
  error : Option Error
  responseData : Bytes

/-- What a request meets: whether some gateway is active, the answer of the gateways, and, at
the moment a local session is looked for, the tables of the module, the sessions that are
connected, the values drawn to choose one, and the answer of the chosen one. -/
structure Surroundings (request : AmopRequest) where
  gatewayActive : Bool
  gateway : GatewayAnswer
  client : AMOPClient
  isConnected : WsSession → Bool
  rand : Nat → Nat
  answer : SessionAnswer request

/-- A message sent during the exchange: the request forwarded to a local session, or a message
back to the session the request came from. -/
inductive AmopOutput where
  | forward (session : WsSession) (message : WsMessage)
  | reply (message : WsMessage)

def textBytes (text : String) : Bytes := text.toUTF8.toList

namespace AmopCodec

variable (codec : AmopCodec) {request : AmopRequest}

/-- Decode a buffer into a message that was built; a failure leaves it as it is. -/
def decodeInto (message : WsMessage) (buffer : Bytes) : WsMessage :=
  (codec.decode buffer).getD message

/-- The buffer `sendMessageToClient` hands to its callback: the response, or an empty one. -/
def answerBuffer : SessionAnswer request → Bytes
  | .response message _ => codec.encode message
  | .failed _ => []

/-- Forward the request to a local session that subscribes to the topic, and send back what it
answers. The result is false when there is no such session. -/
def trySendAMOPRequestToLocalNode (x : Surroundings request) (topic : String) :
    Bool × List AmopOutput :=
  match x.client.randomChooseSession x.isConnected x.rand topic with
  | none => (false, [])
  | some session =>
      (true, [.forward session request.message,
        .reply (codec.decodeInto {} (codec.answerBuffer x.answer))])

/-- The message that no gateway is active. -/
def onGatewayInactivated (request : AmopRequest) : WsMessage where
  status := -1
  data := textBytes "error for the gateway is in-activated"
  seq := some request.seq

/-- The message with an error of the gateways. -/
def gatewayErrorMessage (request : AmopRequest) (error : Error) : WsMessage where
  status := error.errorCode
  data := textBytes <|
    if error.errorCode = -7 ∨ error.errorCode = -8 then
      "Access to gateway timed out, please check gateway alive"
    else error.errorMessage
  seq := some request.seq

/-- The callback of `asyncSendMessageByTopic`. -/
def onGatewayAnswer (x : Surroundings request) (topic : String) : List AmopOutput :=
  match x.gateway.error with
  | some error =>
      if Error.failed (some error) then
        let (sent, out) := codec.trySendAMOPRequestToLocalNode x topic
        if sent then out else [.reply (gatewayErrorMessage request error)]
      else
        [.reply { codec.decodeInto {} x.gateway.responseData with seq := some request.seq }]
  | none => [.reply { codec.decodeInto {} x.gateway.responseData with seq := some request.seq }]

def onRecvAMOPRequest (request : AmopRequest) (x : Surroundings request) : List AmopOutput :=
  let topic := codec.buildRequest request.data
  if !x.gatewayActive then
    .reply (onGatewayInactivated request) :: (codec.trySendAMOPRequestToLocalNode x topic).2
  else codec.onGatewayAnswer x topic

end AmopCodec

/-! ### The messages sent back -/

/-- The messages sent back. -/
def replies (o : List AmopOutput) : List WsMessage :=
  o.filterMap fun
    | .reply message => some message
    | .forward .. => none

/-- Exactly one message is sent back, with the number of the request. -/
def AnsweredOnce (request : AmopRequest) (o : List AmopOutput) : Prop :=
  ∃ message, replies o = [message] ∧ message.seq = some request.seq

/-- The session answers with a response. -/
def SessionAnswer.IsResponse {request : AmopRequest} : SessionAnswer request → Prop
  | .response _ _ => True
  | .failed _ => False

/-- When no gateway is active, no local session subscribes to the topic. When the gateways
report an error, no local session does, or the chosen one responds. -/
def Surroundings.AnswersOnce {request : AmopRequest} (topic : String)
    (x : Surroundings request) : Prop :=
  if x.gatewayActive then
    Error.failed x.gateway.error = true → x.client.HasSession topic → x.answer.IsResponse
  else ¬ x.client.HasSession topic

namespace AmopCodec

variable (codec : AmopCodec) {request : AmopRequest} (x : Surroundings request) (topic : String)

/-- The request is not sent to a local session when there is none. -/
theorem trySend_of_not_hasSession (h : ¬ x.client.HasSession topic) :
  codec.trySendAMOPRequestToLocalNode x topic = (false, [])
  := by
  rw [trySendAMOPRequestToLocalNode,
    (AMOPClient.randomChooseSession_eq_none_iff _ _ _ _).mpr h]

theorem trySend_of_hasSession (h : x.client.HasSession topic) :
  ∃ session, codec.trySendAMOPRequestToLocalNode x topic = (true,
    [.forward session request.message,
      .reply (codec.decodeInto {} (codec.answerBuffer x.answer))])
  := by
  rw [trySendAMOPRequestToLocalNode]
  cases hchosen : x.client.randomChooseSession x.isConnected x.rand topic with
  | none => exact absurd h ((AMOPClient.randomChooseSession_eq_none_iff _ _ _ _).mp hchosen)
  | some session => exact ⟨session, rfl⟩

variable {codec x}

/-- The message a local session leads to has the number of the request exactly when the
session responds. -/
theorem seq_decodeInto_iff (hempty : codec.decode [] = none)
    (hround : ∀ message seq_eq, x.answer = .response message seq_eq →
      codec.decode (codec.encode message) = some message) :
  (codec.decodeInto {} (codec.answerBuffer x.answer)).seq = some request.seq
    ↔ x.answer.IsResponse
  := by
  cases hanswer : x.answer with
  | response message seq_eq =>
      have hdecode := hround message seq_eq hanswer
      simp [decodeInto, answerBuffer, hdecode, seq_eq, SessionAnswer.IsResponse]
  | failed error => simp [decodeInto, answerBuffer, hempty, SessionAnswer.IsResponse]

variable (request)

theorem answeredOnce_reply_iff (session : WsSession) (message : WsMessage) :
  AnsweredOnce request [.forward session request.message, .reply message]
    ↔ message.seq = some request.seq
  := by
  simp [AnsweredOnce, replies]

/-- Without an error of the gateways, their response is sent back. -/
theorem answeredOnce_onGatewayAnswer (codec : AmopCodec) (x : Surroundings request)
    (topic : String) (h : Error.failed x.gateway.error = false) :
  AnsweredOnce request (codec.onGatewayAnswer x topic)
  := by
  rw [onGatewayAnswer]
  cases herror : x.gateway.error with
  | none => simp [AnsweredOnce, replies]
  | some error =>
      rw [herror] at h
      simp [AnsweredOnce, replies, h]

/-- With an error of the gateways, the session that is tried decides. -/
theorem answeredOnce_onGatewayAnswer_failed_iff (codec : AmopCodec) (x : Surroundings request)
    (topic : String) (h : Error.failed x.gateway.error = true) :
  AnsweredOnce request (codec.onGatewayAnswer x topic)
    ↔ (x.client.HasSession topic →
      (codec.decodeInto {} (codec.answerBuffer x.answer)).seq = some request.seq)
  := by
  rw [onGatewayAnswer]
  cases herror : x.gateway.error with
  | none =>
      rw [herror] at h
      cases h
  | some error =>
      rw [herror] at h
      by_cases hlocal : x.client.HasSession topic
      · obtain ⟨session, hsend⟩ := codec.trySend_of_hasSession x topic hlocal
        simp [h, hsend, hlocal, answeredOnce_reply_iff]
      · have hsend := codec.trySend_of_not_hasSession x topic hlocal
        simp [h, hsend, hlocal, AnsweredOnce, replies, gatewayErrorMessage]

/-- When no gateway is active, the message that says so is the only one exactly when no local
session is tried. -/
theorem answeredOnce_inactivated_iff (codec : AmopCodec) (x : Surroundings request)
    (topic : String) :
  AnsweredOnce request (.reply (onGatewayInactivated request)
      :: (codec.trySendAMOPRequestToLocalNode x topic).2)
    ↔ ¬ x.client.HasSession topic
  := by
  by_cases hlocal : x.client.HasSession topic
  · obtain ⟨session, hsend⟩ := codec.trySend_of_hasSession x topic hlocal
    simp [hsend, hlocal, AnsweredOnce, replies]
  · have hsend := codec.trySend_of_not_hasSession x topic hlocal
    simp [hsend, hlocal, AnsweredOnce, replies, onGatewayInactivated]

/-- Exactly one message is sent back for a request, with its number, exactly when, with no
gateway active, no local session subscribes to the topic, and, with an error of the gateways,
no local session does or the chosen one responds. -/
theorem answeredOnce_iff (codec : AmopCodec) (x : Surroundings request)
    (hempty : codec.decode [] = none)
    (hround : ∀ message seq_eq, x.answer = .response message seq_eq →
      codec.decode (codec.encode message) = some message) :
  AnsweredOnce request (codec.onRecvAMOPRequest request x)
    ↔ x.AnswersOnce (codec.buildRequest request.data)
  := by
  rw [onRecvAMOPRequest, Surroundings.AnswersOnce]
  cases hactive : x.gatewayActive with
  | false => simp [answeredOnce_inactivated_iff]
  | true =>
      cases hfailed : Error.failed x.gateway.error with
      | false => simp [answeredOnce_onGatewayAnswer _ codec x _ hfailed]
      | true =>
          simp [answeredOnce_onGatewayAnswer_failed_iff _ codec x _ hfailed,
            seq_decodeInto_iff hempty hround]

/-- Messages with a header of the type, the status and the length of the number. -/
def headed : AmopCodec where
  encode message :=
    [UInt8.ofNat message.type, UInt8.ofNat message.status.toNat,
      UInt8.ofNat (message.seq.getD []).length] ++ message.seq.getD [] ++ message.data
  decode
    | type :: status :: length :: rest =>
        some ⟨type.toNat, status.toNat, some (rest.take length.toNat), rest.drop length.toNat⟩
    | _ => none
  buildRequest _ := "topic"

/-- A request whose topic a local session subscribes to, with no gateway active. -/
def inactiveGateway : Surroundings ⟨[1], []⟩ where
  gatewayActive := false
  gateway := ⟨none, []⟩
  client := ({} : AMOPClient).updateSessions ["topic"] ⟨0, "127.0.0.1:1"⟩
  isConnected _ := true
  rand _ := 0
  answer := .response { seq := some [1], data := [7] } rfl

theorem answeredOnce_iff_inactiveGateway :
  AnsweredOnce ⟨[1], []⟩ (headed.onRecvAMOPRequest ⟨[1], []⟩ inactiveGateway)
    ↔ inactiveGateway.AnswersOnce "topic"
  := by
  apply answeredOnce_iff ⟨[1], []⟩ headed inactiveGateway rfl
  intro message seq_eq hanswer
  obtain rfl := SessionAnswer.response.inj hanswer
  decide

/-- With no gateway active, a request that is forwarded to a local session has two messages
sent back. -/
theorem answeredOnce_counterexample :
  ¬ ∀ (request : AmopRequest) (codec : AmopCodec) (x : Surroundings request),
    codec.decode [] = none →
      (∀ message seq_eq, x.answer = .response message seq_eq →
        codec.decode (codec.encode message) = some message) →
      AnsweredOnce request (codec.onRecvAMOPRequest request x)
  := by
  intro h
  obtain ⟨message, hone, _⟩ := h ⟨[1], []⟩ headed inactiveGateway rfl <| by
    intro message seq_eq hanswer
    obtain rfl := SessionAnswer.response.inj hanswer
    decide
  have htwo : (replies (headed.onRecvAMOPRequest ⟨[1], []⟩ inactiveGateway)).length = 2 := by
    decide
  rw [hone] at htwo
  cases htwo

end AmopCodec
