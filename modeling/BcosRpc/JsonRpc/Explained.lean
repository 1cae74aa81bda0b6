import BcosRpc.JsonRpc.Errors

/-!
# Where errors come from

A response has an error because a service answered with it, or because an exception was caught;
and an exception of a request has one of a few reasons: the request cannot be read, its method is
unknown, a parameter of the method cannot be converted, the node it names cannot answer, or a
service throws. `errors_explained` says so of every request.
-/

/-! ### Exceptions -/

/-- The exceptions that the calls of a service throw. -/
inductive LedgerInterface.Throws (ledger : LedgerInterface) (e : RpcException) : Prop where
  | asyncGetBatchTxsByHashList {hashes : List HashType} {requireProof : Bool} :
      ledger.asyncGetBatchTxsByHashList hashes requireProof = .throws e → ledger.Throws e
  | asyncGetTransactionReceiptByHash {hash : HashType} {requireProof : Bool} :
      ledger.asyncGetTransactionReceiptByHash hash requireProof = .throws e → ledger.Throws e
  | asyncGetBlockNumberByHash {hash : HashType} :
      ledger.asyncGetBlockNumberByHash hash = .throws e → ledger.Throws e
  | asyncGetBlockDataByNumber {blockNumber : Int} {transactions : Bool} :
      ledger.asyncGetBlockDataByNumber blockNumber transactions = .throws e → ledger.Throws e
  | asyncGetBlockHashByNumber {blockNumber : Int} :
      ledger.asyncGetBlockHashByNumber blockNumber = .throws e → ledger.Throws e
  | asyncGetBlockNumber : ledger.asyncGetBlockNumber = .throws e → ledger.Throws e
  | asyncGetNodeListByType {type : NodeListType} :
      ledger.asyncGetNodeListByType type = .throws e → ledger.Throws e
  | asyncGetSystemConfigByKey {key : String} :
      ledger.asyncGetSystemConfigByKey key = .throws e → ledger.Throws e
  | asyncGetTotalTransactionCount :
      ledger.asyncGetTotalTransactionCount = .throws e → ledger.Throws e

inductive SchedulerInterface.Throws (scheduler : SchedulerInterface) (e : RpcException) :
    Prop where
  | call {transaction : Transaction} :
      scheduler.call transaction = .throws e → scheduler.Throws e
  | getCode {contractAddress : String} :
      scheduler.getCode contractAddress = .throws e → scheduler.Throws e

inductive TxPoolInterface.Throws (txpool : TxPoolInterface) (e : RpcException) : Prop where
  | asyncSubmit {transactionData : Bytes} :
      txpool.asyncSubmit transactionData = .throws e → txpool.Throws e
  | asyncGetPendingTransactionSize :
      txpool.asyncGetPendingTransactionSize = .throws e → txpool.Throws e

inductive ConsensusInterface.Throws (consensus : ConsensusInterface) (e : RpcException) :
    Prop where
  | asyncGetPBFTView : consensus.asyncGetPBFTView = .throws e → consensus.Throws e
  | asyncGetConsensusStatus :
      consensus.asyncGetConsensusStatus = .throws e → consensus.Throws e

inductive BlockSyncInterface.Throws (sync : BlockSyncInterface) (e : RpcException) : Prop where
  | asyncGetSyncInfo : sync.asyncGetSyncInfo = .throws e → sync.Throws e

namespace NodeService

/-- The services that are checked, and those that are not. -/
structure IsComplete (nodeService : NodeService) : Prop where
  ledger : nodeService.ledger.isSome
  scheduler : nodeService.scheduler.isSome
  txpool : nodeService.txpool.isSome
  consensus : nodeService.consensus.isSome
  sync : nodeService.sync.isSome
  blockFactory : nodeService.blockFactory.isSome

/-- The exceptions that the services of a node throw. -/
inductive Throws (nodeService : NodeService) (e : RpcException) : Prop where
  | ledger {ledger : LedgerInterface} :
      nodeService.ledger = some ledger → ledger.Throws e → nodeService.Throws e
  | scheduler {scheduler : SchedulerInterface} :
      nodeService.scheduler = some scheduler → scheduler.Throws e → nodeService.Throws e
  | txpool {txpool : TxPoolInterface} :
      nodeService.txpool = some txpool → txpool.Throws e → nodeService.Throws e
  | consensus {consensus : ConsensusInterface} :
      nodeService.consensus = some consensus → consensus.Throws e → nodeService.Throws e
  | sync {sync : BlockSyncInterface} :
      nodeService.sync = some sync → sync.Throws e → nodeService.Throws e

end NodeService

/-- The exceptions of a method that is called with a group and a node: the node has no service,
the service is not complete, or it throws. -/
inductive World.Raises (w : World) (groupID nodeName : String) : RpcException → Prop where
  | node {msg : String} : w.getNodeService groupID nodeName = none →
      w.Raises groupID nodeName (.jsonRpc JsonRpcError.NodeNotExistOrNotStarted msg)
  | service {nodeService : NodeService} {msg : String} :
      w.getNodeService groupID nodeName = some nodeService → ¬ nodeService.IsComplete →
      w.Raises groupID nodeName (.jsonRpc JsonRpcError.ServiceNotInitCompleted msg)
  | thrown {nodeService : NodeService} {e : RpcException} :
      w.getNodeService groupID nodeName = some nodeService → nodeService.Throws e →
      w.Raises groupID nodeName e

/-! ### Parameters -/

/-- The types of the parameters: `DATA` and `HASH` are strings that are decoded. -/
inductive ParamType where
  | STRING
  | BOOL
  | OPTIONAL_BOOL
  | INT64
  | DATA
  | HASH
  deriving DecidableEq

/-- A parameter cannot be converted to its type, with a message of the conversion. -/
def ParamType.Fails (framework : Framework) (params : Json) (index : Nat) (what : String) :
    ParamType → Prop
  | .STRING => params.stringAt index = .error what
  | .BOOL => params.boolAt index = .error what
  | .OPTIONAL_BOOL => params.optionalBoolAt index = .error what
  | .INT64 => params.int64At index = .error what
  | .DATA => params.stringAt index = .error what
      ∨ ∃ data, params.stringAt index = .ok data ∧ framework.decodeData data = .error what
  | .HASH => params.stringAt index = .error what
      ∨ ∃ text, params.stringAt index = .ok text ∧ framework.hashType text = .error what

namespace JsonRequest

/-- The parameters of a method: most have a group and a node only. -/
def parameters (method : String) : List ParamType :=
  match method with
  | "call" => [.STRING, .STRING, .STRING, .DATA]
  | "sendTransaction" => [.STRING, .STRING, .DATA, .BOOL]
  | "getTransaction" => [.STRING, .STRING, .HASH, .BOOL]
  | "getTransactionReceipt" => [.STRING, .STRING, .HASH, .BOOL]
  | "getBlockByHash" => [.STRING, .STRING, .HASH, .OPTIONAL_BOOL, .OPTIONAL_BOOL]
  | "getBlockByNumber" => [.STRING, .STRING, .INT64, .OPTIONAL_BOOL, .OPTIONAL_BOOL]
  | "getBlockHashByNumber" => [.STRING, .STRING, .INT64]
  | "getCode" => [.STRING, .STRING, .STRING]
  | "getSystemConfigByKey" => [.STRING, .STRING, .STRING]
  | "getGroupPeers" => [.STRING]
  | "getGroupInfo" => [.STRING]
  | "getPeers" => []
  | "getGroupList" => []
  | "getGroupInfoList" => []
  | _ => [.STRING, .STRING]

/-- A parameter of the method cannot be converted. -/
def BadParameter (framework : Framework) (request : JsonRequest) (what : String) : Prop :=
  ∃ index, ∃ type : ParamType, (parameters request.method)[index]? = some type
    ∧ type.Fails framework request.params index what

/-- A block factory makes no transaction of the parameters. -/
inductive Refuses (framework : Framework) (request : JsonRequest) (blockFactory : BlockFactory)
    (what : String) : Prop where
  | call {receiver data : String} {input : Bytes} : request.method = "call" →
      request.params.stringAt 2 = .ok receiver → request.params.stringAt 3 = .ok data →
      framework.decodeData data = .ok input →
      blockFactory.createCall receiver input = .error what →
      Refuses framework request blockFactory what
  | sendTransaction {data : String} {transactionData : Bytes} :
      request.method = "sendTransaction" → request.params.stringAt 2 = .ok data →
      framework.decodeData data = .ok transactionData →
      blockFactory.createTransaction transactionData = .error what →
      Refuses framework request blockFactory what

/-- The block factory of the node that a request names makes no transaction of its parameters. -/
def Refused (framework : Framework) (w : World) (request : JsonRequest) (what : String) : Prop :=
  ∃ groupID nodeName nodeService blockFactory, request.params.stringAt 0 = .ok groupID
    ∧ request.params.stringAt 1 = .ok nodeName
    ∧ w.getNodeService groupID nodeName = some nodeService
    ∧ nodeService.blockFactory = some blockFactory ∧ Refuses framework request blockFactory what

end JsonRequest

/-! ### Runs of the methods -/

namespace JsonRpcImpl_2_0

open Json

section

variable {framework : Framework} {w w₁ w₂ : World} {whole : List RpcEvent}
  {p : RpcEvent → Prop} {q : RpcException → Prop} {respFunc : RespFunc} {groupID nodeName : String}

/-- Within a whole run, the events and the exceptions of a part of a request. -/
abbrev Explains (whole : List RpcEvent) (p : RpcEvent → Prop) (q : RpcException → Prop)
    (m : RpcRun Unit) : Prop :=
  m.Within whole p q

/-- What the properties of the events and of the exceptions have to allow, and what a response
function shows for an answer that has arrived. -/
structure Allows (whole : List RpcEvent) (p : RpcEvent → Prop) (q : RpcException → Prop)
    (respFunc : RespFunc) : Prop where
  answer : ∀ error, p (.answer error)
  caught : ∀ e, q e → p (.caught e)
  respond : ∀ error result, (Error.failed error = true → .answer error ∈ whole) →
    Explains whole p q (respFunc error result)

theorem explains_orThrow_bind {α : Type} {x : Except String α} {f : α → RpcRun Unit}
    (hx : ∀ what, x = .error what → q (.std what))
    (hf : ∀ a, x = .ok a → Explains whole p q (f a)) :
  Explains whole p q (orThrow x >>= f)
  := by
  cases x with
  | error what => apply Run.within_throw (hx what rfl)
  | ok a => apply hf a rfl

theorem explains_ask (h : Allows whole p q respFunc) {α : Type} {reply : RpcReply α}
    {callback : Option Error → α → RpcRun Unit} (hthrows : ∀ e, reply = .throws e → q e)
    (hcallback : ∀ error a, .answer error ∈ whole → Explains whole p q (callback error a)) :
  Explains whole p q (reply.ask callback)
  := by
  apply Run.within_invoke h.caught reply hthrows
  intro answer
  apply Run.within_emit_bind
  · intro _
    apply h.answer
  · intro hmem
    apply hcallback _ _ hmem

theorem Allows.succeeds (h : Allows whole p q respFunc) {error : Option Error}
    (herror : ¬ Error.failed error = true) (result : Json) :
  Explains whole p q (respFunc error result)
  := by
  apply h.respond
  intro hfailed
  apply absurd hfailed herror

theorem Allows.fails (h : Allows whole p q respFunc) {error : Option Error}
    (hmem : .answer error ∈ whole) (result : Json) :
  Explains whole p q (respFunc error result)
  := h.respond error result fun _ => hmem

theorem explains_getNodeService_bind (hw : ∀ e, w.Raises groupID nodeName e → q e)
    (command : String) {f : NodeService → RpcRun Unit}
    (hf : ∀ nodeService, w.getNodeService groupID nodeName = some nodeService →
      Explains whole p q (f nodeService)) :
  Explains whole p q (getNodeService framework w groupID nodeName command >>= f)
  := by
  apply Run.within_require_bind
  · intro hnone
    apply hw _ (.node hnone)
  · apply hf

theorem explains_checkService_bind (hw : ∀ e, w.Raises groupID nodeName e → q e)
    {nodeService : NodeService} (hservice : w.getNodeService groupID nodeName = some nodeService)
    {S : Type} {service : Option S} (hpart : nodeService.IsComplete → service.isSome)
    (serviceName : String) {f : S → RpcRun Unit}
    (hf : ∀ s, service = some s → Explains whole p q (f s)) :
  Explains whole p q (checkService service serviceName >>= f)
  := by
  apply Run.within_require_bind
  · intro hnone
    apply hw _ (.service hservice _)
    intro hcomplete
    have hsome := hpart hcomplete
    rw [hnone] at hsome
    cases hsome
  · apply hf

theorem explains_askService (h : Allows whole p q respFunc)
    (hw : ∀ e, w.Raises groupID nodeName e → q e) {S α : Type}
    {service : NodeService → Option S}
    (hpart : ∀ nodeService, nodeService.IsComplete → (service nodeService).isSome)
    (serviceName command : String) {asks : S → RpcReply α}
    (hthrows : ∀ nodeService s e, service nodeService = some s → asks s = .throws e →
      nodeService.Throws e)
    (result : Option Error → α → Option Json) :
  Explains whole p q
    (askService framework w service serviceName groupID nodeName command asks result respFunc)
  := by
  apply explains_getNodeService_bind hw
  intro nodeService hservice
  apply explains_checkService_bind hw hservice (hpart nodeService)
  intro s hs
  apply explains_ask h
  · intro e he
    apply hw e (.thrown hservice (hthrows nodeService s e hs he))
  · intro error answer hmem
    apply Run.within_deref_bind
    intro jResp _
    apply h.fails hmem

/-- The services of the ledger that a method asks for. -/
theorem explains_askLedger (h : Allows whole p q respFunc)
    (hw : ∀ e, w.Raises groupID nodeName e → q e) (command : String) {α : Type}
    {asks : LedgerInterface → RpcReply α}
    (hthrows : ∀ ledger e, asks ledger = .throws e → ledger.Throws e)
    (result : Option Error → α → Option Json) :
  Explains whole p q
    (askService framework w NodeService.ledger "ledger" groupID nodeName command asks result
      respFunc)
  := by
  apply explains_askService h hw
  · intro nodeService hcomplete
    apply hcomplete.ledger
  · intro nodeService ledger e hledger he
    apply NodeService.Throws.ledger hledger (hthrows ledger e he)

/-- The messages of a text that cannot be decoded are allowed. -/
abbrev AllowsText {α : Type} (q : RpcException → Prop) (decoded : Except String α) : Prop :=
  ∀ what, decoded = .error what → q (.std what)

/-- The messages of a block factory that cannot use a text are allowed. -/
abbrev AllowsFactory {α : Type} (w : World) (q : RpcException → Prop) (groupID nodeName : String)
    (decoded : Except String Bytes) (creates : BlockFactory → Bytes → Except String α) : Prop :=
  ∀ nodeService blockFactory input what, w.getNodeService groupID nodeName = some nodeService →
    nodeService.blockFactory = some blockFactory → decoded = .ok input →
    creates blockFactory input = .error what → q (.std what)

theorem explains_call (h : Allows whole p q respFunc)
    (hw : ∀ e, w.Raises groupID nodeName e → q e) {receiver data : String}
    (hdata : AllowsText q (framework.decodeData data))
    (hcreate : AllowsFactory w q groupID nodeName (framework.decodeData data)
      fun blockFactory => blockFactory.createCall receiver) :
  Explains whole p q (call framework w groupID nodeName receiver data respFunc)
  := by
  apply explains_getNodeService_bind hw
  intro nodeService hservice
  apply Run.within_deref_bind
  intro blockFactory hfactory
  apply explains_orThrow_bind hdata
  intro input hinput
  apply explains_orThrow_bind (hcreate nodeService blockFactory input · hservice hfactory hinput)
  intro transaction _
  apply Run.within_deref_bind
  intro scheduler hscheduler
  apply explains_ask h
  · intro e he
    apply hw e (.thrown hservice (.scheduler hscheduler (.call he)))
  · intro error receipt hmem
    apply Run.within_ite
    · intro _
      apply h.fails hmem
    · intro _
      apply Run.within_deref_bind
      intro receipt _
      apply h.fails hmem

theorem explains_sendTransaction (h : Allows whole p q respFunc)
    (hw : ∀ e, w.Raises groupID nodeName e → q e) {data : String} (requireProof : Bool)
    (hdata : AllowsText q (framework.decodeData data))
    (hcreate : AllowsFactory w q groupID nodeName (framework.decodeData data)
      BlockFactory.createTransaction) :
  Explains whole p q
    (sendTransaction framework w groupID nodeName data requireProof respFunc)
  := by
  apply explains_orThrow_bind hdata
  intro transactionData hinput
  apply explains_getNodeService_bind hw
  intro nodeService hservice
  apply explains_checkService_bind hw hservice NodeService.IsComplete.txpool
  intro txpool htxpool
  apply Run.within_deref_bind
  intro blockFactory hfactory
  apply explains_orThrow_bind
    (hcreate nodeService blockFactory transactionData · hservice hfactory hinput)
  intro transaction _
  apply explains_ask h
  · intro e he
    apply hw e (.thrown hservice (.txpool htxpool (.asyncSubmit he)))
  · intro error submitResult hmem
    apply Run.within_ite
    · intro _
      apply h.fails hmem
    · intro _
      apply Run.within_deref_bind
      intro submitResult _
      apply Run.within_whenSome
      intro receipt _
      apply h.succeeds
      simp [Error.failed]

theorem explains_getTransaction (h : Allows whole p q respFunc)
    (hw : ∀ e, w.Raises groupID nodeName e → q e) {txHash : String}
    (hhash : AllowsText q (framework.hashType txHash)) (requireProof : Bool) :
  Explains whole p q
    (getTransaction framework w groupID nodeName txHash requireProof respFunc)
  := by
  apply explains_orThrow_bind hhash
  intro hash _
  apply explains_getNodeService_bind hw
  intro nodeService hservice
  apply explains_checkService_bind hw hservice NodeService.IsComplete.ledger
  intro ledger hledger
  apply explains_ask h
  · intro e he
    apply hw e (.thrown hservice (.ledger hledger (.asyncGetBatchTxsByHashList he)))
  · intro error answer hmem
    apply Run.within_ite
    · intro _
      apply h.fails hmem
    · intro _
      apply Run.within_deref_bind
      intro transactions _
      apply Run.within_deref_bind
      intro jResp _
      apply h.fails hmem

/-- The second query finds another world, and its error is dropped. -/
theorem explains_getTransactionReceipt (h : Allows whole p q respFunc)
    (hw₁ : ∀ e, w₁.Raises groupID nodeName e → q e)
    (hw₂ : ∀ e, w₂.Raises groupID nodeName e → q e) {txHash : String}
    (hhash : AllowsText q (framework.hashType txHash)) (requireProof : Bool) :
  Explains whole p q
    (getTransactionReceipt framework w₁ w₂ groupID nodeName txHash requireProof respFunc)
  := by
  apply explains_orThrow_bind hhash
  intro hash _
  apply explains_getNodeService_bind hw₁
  intro nodeService hservice
  apply explains_checkService_bind hw₁ hservice NodeService.IsComplete.ledger
  intro ledger hledger
  apply explains_ask h
  · intro e he
    apply hw₁ e (.thrown hservice (.ledger hledger (.asyncGetTransactionReceiptByHash he)))
  · intro error answer hmem
    apply Run.within_ite
    · intro _
      apply h.fails hmem
    · intro _
      apply Run.within_deref_bind
      intro receipt _
      apply explains_getTransaction _ hw₂ hhash
      refine ⟨h.answer, h.caught, ?_⟩
      intro _ jTx _
      apply h.succeeds
      simp [Error.failed]

theorem explains_getBlockByNumber (h : Allows whole p q respFunc)
    (hw : ∀ e, w.Raises groupID nodeName e → q e) (blockNumber : Int)
    (onlyHeader onlyTxHash : Bool) :
  Explains whole p q
    (getBlockByNumber framework w groupID nodeName blockNumber onlyHeader onlyTxHash respFunc)
  := by
  apply explains_askLedger h hw
  intro ledger e he
  apply LedgerInterface.Throws.asyncGetBlockDataByNumber he

theorem explains_getBlockByHash (h : Allows whole p q respFunc)
    (hw₁ : ∀ e, w₁.Raises groupID nodeName e → q e)
    (hw₂ : ∀ e, w₂.Raises groupID nodeName e → q e) {blockHash : String}
    (hhash : AllowsText q (framework.hashType blockHash)) (onlyHeader onlyTxHash : Bool) :
  Explains whole p q
    (getBlockByHash framework w₁ w₂ groupID nodeName blockHash onlyHeader onlyTxHash respFunc)
  := by
  apply explains_getNodeService_bind hw₁
  intro nodeService hservice
  apply explains_checkService_bind hw₁ hservice NodeService.IsComplete.ledger
  intro ledger hledger
  apply explains_orThrow_bind hhash
  intro hash _
  apply explains_ask h
  · intro e he
    apply hw₁ e (.thrown hservice (.ledger hledger (.asyncGetBlockNumberByHash he)))
  · intro error blockNumber hmem
    apply Run.within_ite
    · intro _
      apply h.fails hmem
    · intro _
      apply explains_getBlockByNumber h hw₂

theorem explains_getBlockHashByNumber (h : Allows whole p q respFunc)
    (hw : ∀ e, w.Raises groupID nodeName e → q e) (blockNumber : Int) :
  Explains whole p q
    (getBlockHashByNumber framework w groupID nodeName blockNumber respFunc)
  := by
  apply explains_getNodeService_bind hw
  intro nodeService hservice
  apply explains_checkService_bind hw hservice NodeService.IsComplete.ledger
  intro ledger hledger
  apply explains_ask h
  · intro e he
    apply hw e (.thrown hservice (.ledger hledger (.asyncGetBlockHashByNumber he)))
  · intro error hashValue _
    apply h.succeeds
    simp [Error.failed]

theorem explains_getCode (h : Allows whole p q respFunc)
    (hw : ∀ e, w.Raises groupID nodeName e → q e) (contractAddress : String) :
  Explains whole p q (getCode framework w groupID nodeName contractAddress respFunc)
  := by
  apply explains_getNodeService_bind hw
  intro nodeService hservice
  apply Run.within_deref_bind
  intro scheduler hscheduler
  apply explains_ask h
  · intro e he
    apply hw e (.thrown hservice (.scheduler hscheduler (.getCode he)))
  · intro error codeData hmem
    apply h.fails hmem

theorem explains_getPeers (h : Allows whole p q respFunc)
    (hpeers : ∀ e, w.asyncGetPeers = .throws e → q e) :
  Explains whole p q (getPeers w respFunc)
  := by
  apply explains_ask h hpeers
  intro error answer hmem
  apply Run.within_deref_bind
  intro jResp _
  apply h.fails hmem

theorem explains_getGroupPeers (h : Allows whole p q respFunc)
    (hpeers : ∀ e, w.asyncGetPeers = .throws e → q e) (groupID : String) :
  Explains whole p q (getGroupPeers w groupID respFunc)
  := by
  apply explains_ask h hpeers
  intro error answer hmem
  apply Run.within_ite
  · intro _
    apply h.fails hmem
  · intro _
    apply Run.within_deref_bind
    intro peersInfo _
    apply Run.within_deref_bind
    intro jResp _
    apply h.fails hmem

/-! ### Methods by name -/

/-- The reasons of the exceptions of a request that can be read: its method is unknown, one of its
parameters cannot be converted, the node it names raises it or makes no transaction, or the
gateway throws it. -/
inductive RaisedBy (framework : Framework) (w₁ w₂ : World) (request : JsonRequest) :
    RpcException → Prop where
  | method {msg : String} : (methodToFunc framework w₁ w₂).lookup request.method = none →
      RaisedBy framework w₁ w₂ request (.jsonRpc JsonRpcError.MethodNotFound msg)
  | parameter {what : String} : JsonRequest.BadParameter framework request what →
      RaisedBy framework w₁ w₂ request (.std what)
  | refused {what : String} : JsonRequest.Refused framework w₁ request what →
      RaisedBy framework w₁ w₂ request (.std what)
  | node {w : World} {groupID nodeName : String} {e : RpcException} : w = w₁ ∨ w = w₂ →
      request.params.stringAt 0 = .ok groupID → request.params.stringAt 1 = .ok nodeName →
      w.Raises groupID nodeName e → RaisedBy framework w₁ w₂ request e
  | peers {e : RpcException} : w₁.asyncGetPeers = .throws e →
      RaisedBy framework w₁ w₂ request e

/-- The reasons of the exceptions of a request are allowed. -/
abbrev AllowsRequest (framework : Framework) (w₁ w₂ : World) (q : RpcException → Prop)
    (request : JsonRequest) : Prop :=
  ∀ e, RaisedBy framework w₁ w₂ request e → q e

section

variable {request : JsonRequest} {name : String}
  (hq : AllowsRequest framework w₁ w₂ q request) (hmethod : request.method = name)

include hq hmethod

/-- A parameter is read as its type says. -/
theorem explains_parameter_bind {α : Type} {x : Except String α} {f : α → RpcRun Unit}
    (index : Nat) (type : ParamType)
    (htype : (JsonRequest.parameters name)[index]? = some type)
    (hx : ∀ what, x = .error what → type.Fails framework request.params index what)
    (hf : ∀ a, x = .ok a → Explains whole p q (f a)) :
  Explains whole p q (orThrow x >>= f)
  := by
  apply explains_orThrow_bind
  · intro what hwhat
    rw [← hmethod] at htype
    apply hq _ (.parameter ⟨index, type, htype, hx what hwhat⟩)
  · apply hf

/-- A string among the parameters, whether it is decoded later or not. -/
theorem explains_stringAt_bind {f : String → RpcRun Unit} (index : Nat) (type : ParamType)
    (htype : (JsonRequest.parameters name)[index]? = some type)
    (hstring : type = .STRING ∨ type = .DATA ∨ type = .HASH)
    (hf : ∀ a, request.params.stringAt index = .ok a → Explains whole p q (f a)) :
  Explains whole p q (orThrow (request.params.stringAt index) >>= f)
  := by
  apply explains_parameter_bind hq hmethod index type htype _ hf
  intro what hwhat
  rcases hstring with rfl | rfl | rfl
  · apply hwhat
  · apply Or.inl hwhat
  · apply Or.inl hwhat

/-- A method with a group and a node reads them first. -/
theorem explains_node_bind {f : (groupID nodeName : String) → RpcRun Unit}
    (hgroup : (JsonRequest.parameters name)[0]? = some .STRING)
    (hnode : (JsonRequest.parameters name)[1]? = some .STRING)
    (hf : ∀ groupID nodeName, request.params.stringAt 0 = .ok groupID →
      request.params.stringAt 1 = .ok nodeName → Explains whole p q (f groupID nodeName)) :
  Explains whole p q (do
    let groupID ← orThrow (request.params.stringAt 0)
    let nodeName ← orThrow (request.params.stringAt 1)
    f groupID nodeName)
  := by
  apply explains_stringAt_bind hq hmethod 0 .STRING hgroup (Or.inl rfl)
  intro groupID hgroup
  apply explains_stringAt_bind hq hmethod 1 .STRING hnode (Or.inl rfl)
  intro nodeName hnode
  apply hf groupID nodeName hgroup hnode

/-- A text among the parameters that cannot be decoded. -/
theorem allowsText_hash {index : Nat} {text : String}
    (htype : (JsonRequest.parameters name)[index]? = some .HASH)
    (htext : request.params.stringAt index = .ok text) :
  AllowsText q (framework.hashType text)
  := by
  intro what hwhat
  rw [← hmethod] at htype
  apply hq _ (.parameter ⟨index, .HASH, htype, Or.inr ⟨text, htext, hwhat⟩⟩)

theorem allowsText_data {index : Nat} {data : String}
    (htype : (JsonRequest.parameters name)[index]? = some .DATA)
    (hdata : request.params.stringAt index = .ok data) :
  AllowsText q (framework.decodeData data)
  := by
  intro what hwhat
  rw [← hmethod] at htype
  apply hq _ (.parameter ⟨index, .DATA, htype, Or.inr ⟨data, hdata, hwhat⟩⟩)

omit hmethod

/-- The node that a request names raises an exception. -/
theorem allows_node₁ (hgroup : request.params.stringAt 0 = .ok groupID)
    (hnode : request.params.stringAt 1 = .ok nodeName) :
  ∀ e, w₁.Raises groupID nodeName e → q e
  := fun _ hraises => hq _ (.node (Or.inl rfl) hgroup hnode hraises)

theorem allows_node₂ (hgroup : request.params.stringAt 0 = .ok groupID)
    (hnode : request.params.stringAt 1 = .ok nodeName) :
  ∀ e, w₂.Raises groupID nodeName e → q e
  := fun _ hraises => hq _ (.node (Or.inr rfl) hgroup hnode hraises)

/-- The node that a request names makes no transaction of its parameters. -/
theorem allowsFactory {α : Type} {decoded : Except String Bytes}
    {creates : BlockFactory → Bytes → Except String α}
    (hgroup : request.params.stringAt 0 = .ok groupID)
    (hnode : request.params.stringAt 1 = .ok nodeName)
    (hrefuses : ∀ blockFactory input what, decoded = .ok input →
      creates blockFactory input = .error what → JsonRequest.Refuses framework request blockFactory what) :
  AllowsFactory w₁ q groupID nodeName decoded creates
  := by
  intro nodeService blockFactory input what hservice hfactory hinput hwhat
  apply hq _ (.refused ⟨groupID, nodeName, nodeService, blockFactory, hgroup, hnode, hservice,
    hfactory, hrefuses blockFactory input what hinput hwhat⟩)

end

/-- What a method shows and throws. -/
theorem explains_method (h : Allows whole p q respFunc) {request : JsonRequest}
    (hq : AllowsRequest framework w₁ w₂ q request) :
  ∀ entry ∈ methodToFunc framework w₁ w₂, request.method = entry.1 →
    Explains whole p q (entry.2 request.params respFunc)
  := by
  have hresult : ∀ result, Explains whole p q (respFunc none result) := by
    intro result
    apply h.succeeds
    simp [Error.failed]
  have hledger : ∀ (method command : String) {α : Type} {asks : LedgerInterface → RpcReply α}
      (result : Option Error → α → Option Json),
      (JsonRequest.parameters method)[0]? = some .STRING →
      (JsonRequest.parameters method)[1]? = some .STRING →
      (∀ ledger e, asks ledger = .throws e → ledger.Throws e) →
      request.method = method →
      Explains whole p q (withNode (fun groupID nodeName => askService framework w₁
        NodeService.ledger "ledger" groupID nodeName command asks result) request.params
        respFunc) := by
    intro method command α asks result hgroup hnode hthrows hmethod
    apply explains_node_bind hq hmethod hgroup hnode
    intro groupID nodeName hgroup hnode
    apply explains_askLedger h (allows_node₁ hq hgroup hnode) command hthrows
  have hconsensus : ∀ (method command : String) {α : Type}
      {asks : ConsensusInterface → RpcReply α} (result : Option Error → α → Option Json),
      (JsonRequest.parameters method)[0]? = some .STRING →
      (JsonRequest.parameters method)[1]? = some .STRING →
      (∀ consensus e, asks consensus = .throws e → consensus.Throws e) →
      request.method = method →
      Explains whole p q (withNode (fun groupID nodeName => askService framework w₁
        NodeService.consensus "consensus" groupID nodeName command asks result) request.params
        respFunc) := by
    intro method command α asks result hgroup hnode hthrows hmethod
    apply explains_node_bind hq hmethod hgroup hnode
    intro groupID nodeName hgroup hnode
    apply explains_askService h (allows_node₁ hq hgroup hnode)
    · intro nodeService hcomplete
      apply hcomplete.consensus
    · intro nodeService consensus e hconsensus he
      apply NodeService.Throws.consensus hconsensus (hthrows consensus e he)
  simp only [methodToFunc, List.forall_mem_cons, List.not_mem_nil, false_implies, implies_true,
    and_true]
  refine ⟨?call, ?sendTransaction, ?getTransaction, ?getTransactionReceipt, ?getBlockByHash,
    ?getBlockByNumber, ?getBlockHashByNumber,
    hledger _ _ _ rfl rfl fun _ _ he => .asyncGetBlockNumber he, ?getCode,
    hledger _ _ _ rfl rfl fun _ _ he => .asyncGetNodeListByType he,
    hledger _ _ _ rfl rfl fun _ _ he => .asyncGetNodeListByType he,
    hconsensus _ _ _ rfl rfl fun _ _ he => .asyncGetPBFTView he, ?getPendingTxSize,
    ?getSyncStatus, hconsensus _ _ _ rfl rfl fun _ _ he => .asyncGetConsensusStatus he,
    ?getSystemConfigByKey, hledger _ _ _ rfl rfl fun _ _ he => .asyncGetTotalTransactionCount he,
    fun _ => explains_getPeers h fun e he => hq e (.peers he), ?getGroupPeers,
    fun _ => hresult _, ?getGroupInfo, fun _ => hresult _, ?getGroupNodeInfo⟩
  case call =>
    intro hmethod
    apply explains_node_bind hq hmethod rfl rfl
    intro groupID nodeName hgroup hnode
    apply explains_stringAt_bind hq hmethod 2 .STRING rfl (Or.inl rfl)
    intro receiver hreceiver
    apply explains_stringAt_bind hq hmethod 3 .DATA rfl (Or.inr (Or.inl rfl))
    intro data hdata
    apply explains_call h (allows_node₁ hq hgroup hnode) (allowsText_data hq hmethod rfl hdata)
    apply allowsFactory hq hgroup hnode
    intro blockFactory input what hinput hwhat
    apply JsonRequest.Refuses.call hmethod hreceiver hdata hinput hwhat
  case sendTransaction =>
    intro hmethod
    apply explains_node_bind hq hmethod rfl rfl
    intro groupID nodeName hgroup hnode
    apply explains_stringAt_bind hq hmethod 2 .DATA rfl (Or.inr (Or.inl rfl))
    intro data hdata
    apply explains_parameter_bind hq hmethod 3 .BOOL rfl fun _ hwhat => hwhat
    intro requireProof _
    apply explains_sendTransaction h (allows_node₁ hq hgroup hnode) requireProof
      (allowsText_data hq hmethod rfl hdata)
    apply allowsFactory hq hgroup hnode
    intro blockFactory input what hinput hwhat
    apply JsonRequest.Refuses.sendTransaction hmethod hdata hinput hwhat
  case getTransaction =>
    intro hmethod
    apply explains_node_bind hq hmethod rfl rfl
    intro groupID nodeName hgroup hnode
    apply explains_stringAt_bind hq hmethod 2 .HASH rfl (Or.inr (Or.inr rfl))
    intro txHash htext
    apply explains_parameter_bind hq hmethod 3 .BOOL rfl fun _ hwhat => hwhat
    intro requireProof _
    apply explains_getTransaction h (allows_node₁ hq hgroup hnode) (allowsText_hash hq hmethod rfl htext)
  case getTransactionReceipt =>
    intro hmethod
    apply explains_node_bind hq hmethod rfl rfl
    intro groupID nodeName hgroup hnode
    apply explains_stringAt_bind hq hmethod 2 .HASH rfl (Or.inr (Or.inr rfl))
    intro txHash htext
    apply explains_parameter_bind hq hmethod 3 .BOOL rfl fun _ hwhat => hwhat
    intro requireProof _
    apply explains_getTransactionReceipt h (allows_node₁ hq hgroup hnode)
      (allows_node₂ hq hgroup hnode) (allowsText_hash hq hmethod rfl htext)
  case getBlockByHash =>
    intro hmethod
    apply explains_node_bind hq hmethod rfl rfl
    intro groupID nodeName hgroup hnode
    apply explains_stringAt_bind hq hmethod 2 .HASH rfl (Or.inr (Or.inr rfl))
    intro blockHash htext
    apply explains_parameter_bind hq hmethod 3 .OPTIONAL_BOOL rfl fun _ hwhat => hwhat
    intro onlyHeader _
    apply explains_parameter_bind hq hmethod 4 .OPTIONAL_BOOL rfl fun _ hwhat => hwhat
    intro onlyTxHash _
    apply explains_getBlockByHash h (allows_node₁ hq hgroup hnode) (allows_node₂ hq hgroup hnode)
      (allowsText_hash hq hmethod rfl htext)
  case getBlockByNumber =>
    intro hmethod
    apply explains_node_bind hq hmethod rfl rfl
    intro groupID nodeName hgroup hnode
    apply explains_parameter_bind hq hmethod 2 .INT64 rfl fun _ hwhat => hwhat
    intro blockNumber _
    apply explains_parameter_bind hq hmethod 3 .OPTIONAL_BOOL rfl fun _ hwhat => hwhat
    intro onlyHeader _
    apply explains_parameter_bind hq hmethod 4 .OPTIONAL_BOOL rfl fun _ hwhat => hwhat
    intro onlyTxHash _
    apply explains_getBlockByNumber h (allows_node₁ hq hgroup hnode)
  case getBlockHashByNumber =>
    intro hmethod
    apply explains_node_bind hq hmethod rfl rfl
    intro groupID nodeName hgroup hnode
    apply explains_parameter_bind hq hmethod 2 .INT64 rfl fun _ hwhat => hwhat
    intro blockNumber _
    apply explains_getBlockHashByNumber h (allows_node₁ hq hgroup hnode)
  case getCode =>
    intro hmethod
    apply explains_node_bind hq hmethod rfl rfl
    intro groupID nodeName hgroup hnode
    apply explains_stringAt_bind hq hmethod 2 .STRING rfl (Or.inl rfl)
    intro contractAddress _
    apply explains_getCode h (allows_node₁ hq hgroup hnode)
  case getPendingTxSize =>
    intro hmethod
    apply explains_node_bind hq hmethod rfl rfl
    intro groupID nodeName hgroup hnode
    apply explains_askService h (allows_node₁ hq hgroup hnode)
    · intro nodeService hcomplete
      apply hcomplete.txpool
    · intro nodeService txpool e htxpool he
      apply NodeService.Throws.txpool htxpool (.asyncGetPendingTransactionSize he)
  case getSyncStatus =>
    intro hmethod
    apply explains_node_bind hq hmethod rfl rfl
    intro groupID nodeName hgroup hnode
    apply explains_askService h (allows_node₁ hq hgroup hnode)
    · intro nodeService hcomplete
      apply hcomplete.sync
    · intro nodeService sync e hsync he
      apply NodeService.Throws.sync hsync (.asyncGetSyncInfo he)
  case getSystemConfigByKey =>
    intro hmethod
    apply explains_node_bind hq hmethod rfl rfl
    intro groupID nodeName hgroup hnode
    apply explains_stringAt_bind hq hmethod 2 .STRING rfl (Or.inl rfl)
    intro keyValue _
    apply explains_askLedger h (allows_node₁ hq hgroup hnode)
    intro ledger e he
    apply LedgerInterface.Throws.asyncGetSystemConfigByKey he
  case getGroupPeers =>
    intro hmethod
    apply explains_stringAt_bind hq hmethod 0 .STRING rfl (Or.inl rfl)
    intro groupID _
    apply explains_getGroupPeers h fun e he => hq e (.peers he)
  case getGroupInfo =>
    intro hmethod
    apply explains_stringAt_bind hq hmethod 0 .STRING rfl (Or.inl rfl)
    intro groupID _
    apply hresult
  case getGroupNodeInfo =>
    intro hmethod
    apply explains_node_bind hq hmethod rfl rfl
    intro groupID nodeName _ _
    apply hresult

theorem explains_dispatch (h : Allows whole p q respFunc) {request : JsonRequest}
    (hq : AllowsRequest framework w₁ w₂ q request) :
  Explains whole p q (dispatch framework w₁ w₂ request respFunc)
  := by
  rw [dispatch]
  cases hlookup : (methodToFunc framework w₁ w₂).lookup request.method with
  | none => apply Run.within_throw (hq _ (.method hlookup))
  | some method =>
      have hentry := mem_methodToFunc_of_lookup framework w₁ w₂ hlookup
      apply explains_method h hq (request.method, method) hentry rfl

end

end JsonRpcImpl_2_0

/-! ### Responses with an error -/

/-- The error of a response. -/
def errorToJson (code : Int) (message : String) : Json :=
  Json.null
    |>.set "code" (.integer code)
    |>.set "message" (.string message)

/-- An error of a response has been answered by a service, or is that of an exception that was
caught. -/
def HasSource (whole : List RpcEvent) (jError : Json) : Prop :=
  (∃ e, .answer (some e) ∈ whole ∧ e.errorCode ≠ CommonError.SUCCESS
      ∧ jError = errorToJson (toInt32 e.errorCode) e.errorMessage)
    ∨ ∃ e, .caught e ∈ whole ∧ jError = errorToJson e.code e.what

/-- The events of a request: every error of a response has a source, and every exception that
is caught a reason. -/
def Sourced (whole : List RpcEvent) (q : RpcException → Prop) : RpcEvent → Prop
  | .answer _ => True
  | .caught e => q e
  | .sent response => ∀ jError, response.find "error" = some jError → HasSource whole jError

theorem find_error_toJsonResponse (response : JsonResponse) :
  (toJsonResponse response).find "error"
    = if response.error.code = 0 then none
      else some (errorToJson response.error.code response.error.message)
  := by
  rw [toJsonResponse]
  split <;> simp [errorToJson]

namespace JsonRpcImpl_2_0

/-- The reasons of the exceptions that the handling of a request shows: the request cannot be
read, or else it raises them. -/
inductive Raised (framework : Framework) (w₁ w₂ : World) (requestBody : String) :
    RpcException → Prop where
  | unread {e : RpcException} : parseRpcRequestJson framework requestBody = .error e →
      Raised framework w₁ w₂ requestBody e
  | request {request : JsonRequest} {e : RpcException} :
      parseRpcRequestJson framework requestBody = .ok request →
      RaisedBy framework w₁ w₂ request e → Raised framework w₁ w₂ requestBody e

variable {whole : List RpcEvent} {q : RpcException → Prop}

theorem explains_respond (response : JsonResponse) (hresponse : response.error.code = 0)
    (error : Option Error) (result : Json)
    (hmem : Error.failed error = true → .answer error ∈ whole) :
  Explains whole (Sourced whole q) q (response.respond error result)
  := by
  apply Run.within_emit
  intro _ jError hfind
  cases error with
  | none =>
      rw [find_error_toJsonResponse, if_pos hresponse] at hfind
      cases hfind
  | some e =>
      dsimp only at hfind
      split at hfind
      · rename_i hfailed
        rw [find_error_toJsonResponse] at hfind
        obtain ⟨_, heq⟩ := Option.ite_none_left_eq_some.mp hfind
        left
        use e
        refine ⟨hmem ?_, hfailed, (Option.some.inj heq).symm⟩
        apply Error.failed_eq_true_iff.mpr ⟨e, rfl, hfailed⟩
      · rw [find_error_toJsonResponse, if_pos hresponse] at hfind
        cases hfind

theorem explains_respondException (response : JsonResponse) {e : RpcException} (he : q e)
    {r : RpcException → Prop} :
  Run.Within whole (Sourced whole q) r (response.respondException e)
  := by
  apply Run.within_emit_bind
  · intro _
    apply he
  · intro hcaught
    apply Run.within_emit
    intro _ jError hfind
    rw [find_error_toJsonResponse] at hfind
    obtain ⟨_, heq⟩ := Option.ite_none_left_eq_some.mp hfind
    right
    exact ⟨e, hcaught, (Option.some.inj heq).symm⟩

/-- What a request shows has sources and reasons, and it throws nothing. -/
theorem within_onRPCRequest (framework : Framework) (w₁ w₂ : World) (uninitialized : Int)
    (requestBody : String) :
  Run.Within whole (Sourced whole (Raised framework w₁ w₂ requestBody)) (fun _ => False)
    (onRPCRequest framework w₁ w₂ uninitialized requestBody)
  := by
  rw [onRPCRequest]
  cases hparse : parseRpcRequestJson framework requestBody with
  | error e => apply explains_respondException _ (.unread hparse)
  | ok request =>
      apply Run.within_handle (r := Raised framework w₁ w₂ requestBody)
      · apply explains_dispatch
        · constructor
          · intro error
            trivial
          · intro e he
            apply he
          · apply explains_respond _ rfl
        · intro e he
          apply Raised.request hparse he
      · intro e he
        apply explains_respondException _ he

theorem sourced_onRPCRequest (framework : Framework) (w₁ w₂ : World) (uninitialized : Int)
    (requestBody : String) :
  (onRPCRequest framework w₁ w₂ uninitialized requestBody).Always
    (Sourced (onRPCRequest framework w₁ w₂ uninitialized requestBody).trace
      (Raised framework w₁ w₂ requestBody))
  := (within_onRPCRequest framework w₁ w₂ uninitialized requestBody (List.Subset.refl _)).1

theorem sent_of_mem_responses {trace : List RpcEvent} {response : Json}
    (h : response ∈ responses trace) :
  .sent response ∈ trace
  := by
  obtain ⟨event, hevent, hsome⟩ := List.mem_filterMap.mp h
  cases event with
  | sent sent =>
      obtain rfl := Option.some.inj hsome
      exact hevent
  | answer => cases hsome
  | caught => cases hsome

/-- Whatever is requested, in every state of the manager and with every answer of the services,
an error of a response was answered by a service or is that of a caught exception; every
exception that is caught has one of the reasons, and none leaves the handler. -/
theorem errors_explained (framework : Framework) (w₁ w₂ : World) (uninitialized : Int)
    (requestBody : String) :
  (∀ response ∈ responses (onRPCRequest framework w₁ w₂ uninitialized requestBody).trace,
      ∀ jError, response.find "error" = some jError →
        HasSource (onRPCRequest framework w₁ w₂ uninitialized requestBody).trace jError)
    ∧ (∀ e, .caught e ∈ (onRPCRequest framework w₁ w₂ uninitialized requestBody).trace →
      Raised framework w₁ w₂ requestBody e)
    ∧ ∀ e, (onRPCRequest framework w₁ w₂ uninitialized requestBody).outcome
      ≠ .error (.threw e)
  := by
  have hsourced := sourced_onRPCRequest framework w₁ w₂ uninitialized requestBody
  constructor
  · intro response hmem
    apply hsourced _ (sent_of_mem_responses hmem)
  · constructor
    · intro e he
      apply hsourced _ he
    · apply (within_onRPCRequest framework w₁ w₂ uninitialized requestBody
        (List.Subset.refl _)).2

end JsonRpcImpl_2_0
