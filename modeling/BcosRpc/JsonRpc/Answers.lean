import BcosRpc.JsonRpc.Dispatch

/-!
# One response for a request

What a request must meet for exactly one response to be sent. A method that asks one service
and checks its answer always responds; the others can dereference a null pointer, be it in the
list they are answered with, respond nothing to a transaction without a receipt, or throw in a
later callback, out of reach of the dispatcher.
-/

/-- The event of a response. -/
def RpcEvent.isSent : RpcEvent → Bool
  | .sent _ => true
  | _ => false

/-- A response function that sends one response. -/
def Responds (respFunc : RespFunc) : Prop :=
  ∀ error result, ∃ response, respFunc error result = Run.emit (.sent response)

theorem JsonResponse.responds_respond (response : JsonResponse) :
  Responds response.respond
  := by
  intro error result
  exact ⟨_, rfl⟩

/-! ### Rules -/

section

variable {α β : Type}

theorem Responds.settles {respFunc : RespFunc} (h : Responds respFunc) (error : Option Error)
    (result : Json) :
  (respFunc error result).Settles RpcEvent.isSent
  := by
  obtain ⟨response, heq⟩ := h error result
  rw [heq, Run.settles_emit]
  rfl

theorem Responds.answers {respFunc : RespFunc} (h : Responds respFunc) (error : Option Error)
    (result : Json) :
  (respFunc error result).Answers RpcEvent.isSent
  := by
  obtain ⟨response, heq⟩ := h error result
  rw [heq, Run.answers_emit]
  rfl

/-- Sending the answer of another request in place of it is a response. -/
theorem Responds.map {respFunc : RespFunc} (h : Responds respFunc)
    (error : Option Error → Option Error) (result : Json → Json) :
  Responds fun e j => respFunc (error e) (result j)
  := by
  intro e j
  apply h

@[simp]
theorem settles_orThrow_bind (x : Except String α) (f : α → RpcRun β) :
  (orThrow x >>= f).Settles RpcEvent.isSent
    ↔ ∀ a, x = .ok a → (f a).Settles RpcEvent.isSent
  := by
  rw [orThrow, Run.settles_ofExcept_bind]
  cases x <;> simp [Except.mapError]

@[simp]
theorem answers_orThrow_bind (x : Except String α) (f : α → RpcRun β) :
  (orThrow x >>= f).Answers RpcEvent.isSent
    ↔ ∃ a, x = .ok a ∧ (f a).Answers RpcEvent.isSent
  := by
  rw [orThrow, Run.answers_ofExcept_bind]
  cases x <;> simp [Except.mapError]

@[simp]
theorem settles_ask (reply : RpcReply α) (callback : Option Error → α → RpcRun Unit) :
  (reply.ask callback).Settles RpcEvent.isSent
    ↔ reply.Timed (fun answer => (callback answer.1 answer.2).Settles RpcEvent.isSent)
        (fun answer => (callback answer.1 answer.2).Answers RpcEvent.isSent)
  := by
  rw [RpcReply.ask, Run.settles_invoke (fun _ => rfl)]
  simp only [Run.settles_emit_bind RpcEvent.isSent (x := .answer _) rfl,
    Run.answers_emit_bind RpcEvent.isSent (x := .answer _) rfl]

@[simp]
theorem answers_ask (reply : RpcReply α) (callback : Option Error → α → RpcRun Unit) :
  (reply.ask callback).Answers RpcEvent.isSent
    ↔ reply.Any fun answer => (callback answer.1 answer.2).Answers RpcEvent.isSent
  := by
  rw [RpcReply.ask, Run.answers_invoke (fun _ => rfl)]
  simp only [Run.answers_emit_bind RpcEvent.isSent (x := .answer _) rfl]

end

namespace JsonRpcImpl_2_0

variable (framework : Framework) (w w₁ w₂ : World)

@[simp]
theorem settles_getNodeService_bind {β : Type} (groupID nodeName command : String)
    (f : NodeService → RpcRun β) :
  (getNodeService framework w groupID nodeName command >>= f).Settles RpcEvent.isSent
    ↔ ∀ nodeService, w.getNodeService groupID nodeName = some nodeService →
      (f nodeService).Settles RpcEvent.isSent
  := Run.settles_require_bind _ _ _ _

@[simp]
theorem answers_getNodeService_bind {β : Type} (groupID nodeName command : String)
    (f : NodeService → RpcRun β) :
  (getNodeService framework w groupID nodeName command >>= f).Answers RpcEvent.isSent
    ↔ ∃ nodeService, w.getNodeService groupID nodeName = some nodeService ∧
      (f nodeService).Answers RpcEvent.isSent
  := Run.answers_require_bind _ _ _ _

@[simp]
theorem settles_checkService_bind {S β : Type} (service : Option S) (serviceName : String)
    (f : S → RpcRun β) :
  (checkService service serviceName >>= f).Settles RpcEvent.isSent
    ↔ ∀ s, service = some s → (f s).Settles RpcEvent.isSent
  := Run.settles_require_bind _ _ _ _

@[simp]
theorem answers_checkService_bind {S β : Type} (service : Option S) (serviceName : String)
    (f : S → RpcRun β) :
  (checkService service serviceName >>= f).Answers RpcEvent.isSent
    ↔ ∃ s, service = some s ∧ (f s).Answers RpcEvent.isSent
  := Run.answers_require_bind _ _ _ _

/-! ### Methods that ask one service -/

/-- A method that asks one service responds when it can convert the answer. -/
theorem settles_askService {S α : Type} (service : NodeService → Option S) (serviceName : String)
    (groupID nodeName command : String) (asks : S → RpcReply α)
    (result : Option Error → α → Option Json) {respFunc : RespFunc} (h : Responds respFunc) :
  (askService framework w service serviceName groupID nodeName command asks result
    respFunc).Settles RpcEvent.isSent
    ↔ ∀ nodeService, w.getNodeService groupID nodeName = some nodeService →
      ∀ s, service nodeService = some s →
      (asks s).All fun answer => (result answer.1 answer.2).isSome
  := by
  simp only [askService, settles_getNodeService_bind, settles_checkService_bind, settles_ask,
    Run.settles_deref_bind, Run.answers_deref_bind, h.settles, h.answers, and_true,
    Reply.timed_self, ← Option.isSome_iff_exists]

/-- In a later callback the service must be there as well, and must not throw. -/
theorem answers_askService {S α : Type} (service : NodeService → Option S) (serviceName : String)
    (groupID nodeName command : String) (asks : S → RpcReply α)
    (result : Option Error → α → Option Json) {respFunc : RespFunc} (h : Responds respFunc) :
  (askService framework w service serviceName groupID nodeName command asks result
    respFunc).Answers RpcEvent.isSent
    ↔ ∃ nodeService, w.getNodeService groupID nodeName = some nodeService
      ∧ ∃ s, service nodeService = some s
      ∧ (asks s).Any fun answer => (result answer.1 answer.2).isSome
  := by
  simp only [askService, answers_getNodeService_bind, answers_checkService_bind, answers_ask,
    Run.answers_deref_bind, h.answers, and_true, ← Option.isSome_iff_exists]

/-! ### Answers that can be converted -/

@[simp]
theorem isSome_unlessFailed_iff {α : Type} (failed : Json) (result : α → Option Json)
    (error : Option Error) (answer : α) :
  (unlessFailed failed result error answer).isSome
    ↔ (¬ Error.failed error → (result answer).isSome)
  := by
  rw [unlessFailed]
  split
  · rename_i herror
    simp [herror]
  · rename_i herror
    simp [herror]

theorem isSome_firstToJson_iff (transactions : List (Option Transaction)) :
  (firstToJson transactions).isSome ↔ transactions.head? ≠ some none
  := by
  cases transactions with
  | nil => simp [firstToJson]
  | cons transaction transactions => cases transaction <;> simp [firstToJson]

theorem isSome_blockToJson_iff (onlyHeader onlyTxHash : Bool) (block : Option BlockData) :
  (blockToJson onlyHeader onlyTxHash block).isSome
    ↔ (onlyHeader = false → ∀ b, block = some b → none ∉ b.transactions)
  := by
  cases onlyHeader with
  | true => simp [blockToJson]
  | false => simp [blockToJson, BlockData.isSome_toJsonResp_iff]

theorem isSome_nodeListToJson_iff {nodeToJson : ConsensusNode → Option Json}
    (h : ∀ node, (nodeToJson node).isSome = node.nodeID.isSome)
    (nodes : Option (List (Option ConsensusNode))) :
  (nodeListToJson nodeToJson nodes).isSome
    ↔ ∀ list, nodes = some list → ∀ node ∈ list, ∃ n, node = some n ∧ n.nodeID.isSome
  := by
  rw [nodeListToJson, Json.isSome_tryArrayOf_iff]
  cases nodes with
  | none => simp
  | some list =>
      simp only [Option.getD_some, Option.isSome_bind, Option.any_eq_true, h, Option.some.injEq,
        forall_eq']

/-! ### Conditions -/

/-- A call meets a block factory, a scheduler, and a receipt with every answer that has no
error. -/
def CallAnswerable (req : Json) : Prop :=
  ∀ groupID, req.stringAt 0 = .ok groupID → ∀ nodeName, req.stringAt 1 = .ok nodeName →
  ∀ receiver, req.stringAt 2 = .ok receiver → ∀ data, req.stringAt 3 = .ok data →
  ∀ nodeService, w.getNodeService groupID nodeName = some nodeService →
  ∃ blockFactory, nodeService.blockFactory = some blockFactory ∧
  ∀ input, framework.decodeData data = .ok input →
  ∀ transaction, blockFactory.createCall receiver input = .ok transaction →
  ∃ scheduler, nodeService.scheduler = some scheduler ∧
  (scheduler.call transaction).All fun answer =>
    ¬ Error.failed answer.1 → ∃ receipt, answer.2 = some receipt

theorem settles_callI {respFunc : RespFunc} (h : Responds respFunc) (req : Json) :
  (callI framework w req respFunc).Settles RpcEvent.isSent ↔ CallAnswerable framework w req
  := by
  simp only [callI, call, CallAnswerable, settles_orThrow_bind, settles_getNodeService_bind,
    Run.settles_deref_bind, Run.answers_deref_bind, settles_ask, Run.settles_ite, Run.answers_ite,
    h.settles, h.answers, and_true, if_true_left, Reply.timed_self]

/-- A submission meets a block factory, and a receipt with every answer that has no error. -/
def SendTransactionAnswerable (req : Json) : Prop :=
  ∀ groupID, req.stringAt 0 = .ok groupID → ∀ nodeName, req.stringAt 1 = .ok nodeName →
  ∀ data, req.stringAt 2 = .ok data → ∀ requireProof, req.boolAt 3 = .ok requireProof →
  ∀ transactionData, framework.decodeData data = .ok transactionData →
  ∀ nodeService, w.getNodeService groupID nodeName = some nodeService →
  ∀ txpool, nodeService.txpool = some txpool →
  ∃ blockFactory, nodeService.blockFactory = some blockFactory ∧
  ∀ transaction, blockFactory.createTransaction transactionData = .ok transaction →
  (txpool.asyncSubmit transactionData).All fun answer =>
    ¬ Error.failed answer.1 → ∃ submitResult, answer.2 = some submitResult ∧
      ∃ receipt, submitResult.transactionReceipt = some receipt

theorem settles_sendTransactionI {respFunc : RespFunc} (h : Responds respFunc) (req : Json) :
  (sendTransactionI framework w req respFunc).Settles RpcEvent.isSent
    ↔ SendTransactionAnswerable framework w req
  := by
  simp only [sendTransactionI, sendTransaction, SendTransactionAnswerable, settles_orThrow_bind,
    settles_getNodeService_bind, settles_checkService_bind, Run.settles_deref_bind,
    Run.answers_deref_bind, settles_ask, Run.settles_ite, Run.answers_ite, h.settles, h.answers,
    and_true, if_true_left, Run.settles_whenSome, Run.answers_whenSome, Reply.timed_self]

/-- A transaction lookup meets a list with every answer that has no error, and its first
transaction is not null. -/
def LookupAnswerable (groupID nodeName : String) (hash : HashType) (requireProof : Bool) : Prop :=
  ∀ nodeService, w.getNodeService groupID nodeName = some nodeService →
  ∀ ledger, nodeService.ledger = some ledger →
  (ledger.asyncGetBatchTxsByHashList [hash] requireProof).All fun answer =>
    ¬ Error.failed answer.1 → ∃ transactions, answer.2.1 = some transactions
      ∧ transactions.head? ≠ some none

/-- A transaction lookup in a later callback finds its ledger, which does not throw. -/
def LookupAnswerableLater (groupID nodeName : String) (hash : HashType) (requireProof : Bool) :
    Prop :=
  ∃ nodeService, w.getNodeService groupID nodeName = some nodeService ∧
  ∃ ledger, nodeService.ledger = some ledger ∧
  (ledger.asyncGetBatchTxsByHashList [hash] requireProof).Any fun answer =>
    ¬ Error.failed answer.1 → ∃ transactions, answer.2.1 = some transactions
      ∧ transactions.head? ≠ some none

theorem settles_getTransaction {respFunc : RespFunc} (h : Responds respFunc)
    (groupID nodeName txHash : String) (requireProof : Bool) :
  (getTransaction framework w groupID nodeName txHash requireProof respFunc).Settles
      RpcEvent.isSent
    ↔ ∀ hash, framework.hashType txHash = .ok hash →
      LookupAnswerable w groupID nodeName hash requireProof
  := by
  simp only [getTransaction, LookupAnswerable, settles_orThrow_bind, settles_getNodeService_bind,
    settles_checkService_bind, Run.settles_deref_bind, Run.answers_deref_bind, settles_ask,
    Run.settles_ite, Run.answers_ite, h.settles, h.answers, and_true, if_true_left,
    Reply.timed_self, ← Option.isSome_iff_exists, isSome_firstToJson_iff]

theorem answers_getTransaction {respFunc : RespFunc} (h : Responds respFunc)
    (groupID nodeName txHash : String) (requireProof : Bool) :
  (getTransaction framework w groupID nodeName txHash requireProof respFunc).Answers
      RpcEvent.isSent
    ↔ ∃ hash, framework.hashType txHash = .ok hash ∧
      LookupAnswerableLater w groupID nodeName hash requireProof
  := by
  simp only [getTransaction, LookupAnswerableLater, answers_orThrow_bind,
    answers_getNodeService_bind, answers_checkService_bind, Run.answers_deref_bind, answers_ask,
    Run.answers_ite, h.answers, and_true, if_true_left, ← Option.isSome_iff_exists,
    isSome_firstToJson_iff]

def GetTransactionAnswerable (req : Json) : Prop :=
  ∀ groupID, req.stringAt 0 = .ok groupID → ∀ nodeName, req.stringAt 1 = .ok nodeName →
  ∀ txHash, req.stringAt 2 = .ok txHash → ∀ requireProof, req.boolAt 3 = .ok requireProof →
  ∀ hash, framework.hashType txHash = .ok hash →
  LookupAnswerable w groupID nodeName hash requireProof

theorem settles_getTransactionI {respFunc : RespFunc} (h : Responds respFunc) (req : Json) :
  (getTransactionI framework w req respFunc).Settles RpcEvent.isSent
    ↔ GetTransactionAnswerable framework w req
  := by
  simp only [getTransactionI, GetTransactionAnswerable, settles_orThrow_bind,
    settles_getTransaction framework w h]

/-- A receipt query meets a receipt with every answer that has no error, and the transaction
lookup that follows it does not fail in a way that leaves the request without a response: what
it throws is answered only when the receipt arrived before the query returned. -/
def GetTransactionReceiptAnswerable (req : Json) : Prop :=
  ∀ groupID, req.stringAt 0 = .ok groupID → ∀ nodeName, req.stringAt 1 = .ok nodeName →
  ∀ txHash, req.stringAt 2 = .ok txHash → ∀ requireProof, req.boolAt 3 = .ok requireProof →
  ∀ hash, framework.hashType txHash = .ok hash →
  ∀ nodeService, w₁.getNodeService groupID nodeName = some nodeService →
  ∀ ledger, nodeService.ledger = some ledger →
  (ledger.asyncGetTransactionReceiptByHash hash requireProof).Timed
    (fun answer => ¬ Error.failed answer.1 →
      (∃ receipt, answer.2.1 = some receipt) ∧ LookupAnswerable w₂ groupID nodeName hash requireProof)
    (fun answer => ¬ Error.failed answer.1 →
      (∃ receipt, answer.2.1 = some receipt)
        ∧ LookupAnswerableLater w₂ groupID nodeName hash requireProof)

theorem settles_getTransactionReceiptI {respFunc : RespFunc} (h : Responds respFunc)
    (req : Json) :
  (getTransactionReceiptI framework w₁ w₂ req respFunc).Settles RpcEvent.isSent
    ↔ GetTransactionReceiptAnswerable framework w₁ w₂ req
  := by
  have hinner : ∀ jResp, Responds fun _ jTx => respFunc none (withTransaction jResp jTx) :=
    fun jResp => h.map (fun _ => none) (withTransaction jResp)
  simp only [getTransactionReceiptI, getTransactionReceipt, GetTransactionReceiptAnswerable,
    settles_orThrow_bind, settles_getNodeService_bind, settles_checkService_bind,
    Run.settles_deref_bind, Run.answers_deref_bind, settles_ask, Run.settles_ite,
    Run.answers_ite, h.settles, h.answers, if_true_left,
    settles_getTransaction framework w₂ (hinner _), answers_getTransaction framework w₂ (hinner _)]
  simp +contextual only [Except.ok.injEq, forall_eq', exists_eq_left', exists_and_right]

/-- A block can be sent: only its header is asked for, or none of its transactions is null. -/
def BlockSendable (onlyHeader : Bool) (block : Option BlockData) : Prop :=
  onlyHeader = false → ∀ b, block = some b → none ∉ b.transactions

/-- A block query meets a block that can be sent with every answer that has no error. -/
def BlockAnswerable (groupID nodeName : String) (blockNumber : Int) (onlyHeader : Bool) : Prop :=
  ∀ nodeService, w.getNodeService groupID nodeName = some nodeService →
  ∀ ledger, nodeService.ledger = some ledger →
  (ledger.asyncGetBlockDataByNumber blockNumber !onlyHeader).All fun answer =>
    ¬ Error.failed answer.1 → BlockSendable onlyHeader answer.2

/-- A block query in a later callback finds its ledger, which does not throw. -/
def BlockAnswerableLater (groupID nodeName : String) (blockNumber : Int) (onlyHeader : Bool) :
    Prop :=
  ∃ nodeService, w.getNodeService groupID nodeName = some nodeService ∧
  ∃ ledger, nodeService.ledger = some ledger ∧
  (ledger.asyncGetBlockDataByNumber blockNumber !onlyHeader).Any fun answer =>
    ¬ Error.failed answer.1 → BlockSendable onlyHeader answer.2

theorem settles_getBlockByNumber {respFunc : RespFunc} (h : Responds respFunc)
    (groupID nodeName : String) (blockNumber : Int) (onlyHeader onlyTxHash : Bool) :
  (getBlockByNumber framework w groupID nodeName blockNumber onlyHeader onlyTxHash
    respFunc).Settles RpcEvent.isSent ↔ BlockAnswerable w groupID nodeName blockNumber onlyHeader
  := by
  simp only [getBlockByNumber, settles_askService framework w _ _ _ _ _ _ _ h, BlockAnswerable,
    isSome_unlessFailed_iff, isSome_blockToJson_iff, BlockSendable]

theorem answers_getBlockByNumber {respFunc : RespFunc} (h : Responds respFunc)
    (groupID nodeName : String) (blockNumber : Int) (onlyHeader onlyTxHash : Bool) :
  (getBlockByNumber framework w groupID nodeName blockNumber onlyHeader onlyTxHash
    respFunc).Answers RpcEvent.isSent
    ↔ BlockAnswerableLater w groupID nodeName blockNumber onlyHeader
  := by
  simp only [getBlockByNumber, answers_askService framework w _ _ _ _ _ _ _ h,
    BlockAnswerableLater, isSome_unlessFailed_iff, isSome_blockToJson_iff, BlockSendable]

def GetBlockByNumberAnswerable (req : Json) : Prop :=
  ∀ groupID, req.stringAt 0 = .ok groupID → ∀ nodeName, req.stringAt 1 = .ok nodeName →
  ∀ blockNumber, req.int64At 2 = .ok blockNumber →
  ∀ onlyHeader, req.optionalBoolAt 3 = .ok onlyHeader →
  ∀ onlyTxHash, req.optionalBoolAt 4 = .ok onlyTxHash →
  BlockAnswerable w groupID nodeName blockNumber onlyHeader

theorem settles_getBlockByNumberI {respFunc : RespFunc} (h : Responds respFunc) (req : Json) :
  (getBlockByNumberI framework w req respFunc).Settles RpcEvent.isSent
    ↔ GetBlockByNumberAnswerable w req
  := by
  simp only [getBlockByNumberI, GetBlockByNumberAnswerable, settles_orThrow_bind,
    settles_getBlockByNumber framework w h]

/-- A hash query finds a number, and the block query that follows can be answered: in a later
callback what it throws leaves the request without a response. -/
def GetBlockByHashAnswerable (req : Json) : Prop :=
  ∀ groupID, req.stringAt 0 = .ok groupID → ∀ nodeName, req.stringAt 1 = .ok nodeName →
  ∀ blockHash, req.stringAt 2 = .ok blockHash →
  ∀ onlyHeader, req.optionalBoolAt 3 = .ok onlyHeader →
  ∀ onlyTxHash, req.optionalBoolAt 4 = .ok onlyTxHash →
  ∀ nodeService, w₁.getNodeService groupID nodeName = some nodeService →
  ∀ ledger, nodeService.ledger = some ledger →
  ∀ hash, framework.hashType blockHash = .ok hash →
  (ledger.asyncGetBlockNumberByHash hash).Timed
    (fun answer => ¬ Error.failed answer.1 →
      BlockAnswerable w₂ groupID nodeName answer.2 onlyHeader)
    (fun answer => ¬ Error.failed answer.1 →
      BlockAnswerableLater w₂ groupID nodeName answer.2 onlyHeader)

theorem settles_getBlockByHashI {respFunc : RespFunc} (h : Responds respFunc) (req : Json) :
  (getBlockByHashI framework w₁ w₂ req respFunc).Settles RpcEvent.isSent
    ↔ GetBlockByHashAnswerable framework w₁ w₂ req
  := by
  simp only [getBlockByHashI, getBlockByHash, GetBlockByHashAnswerable, settles_orThrow_bind,
    settles_getNodeService_bind, settles_checkService_bind, settles_ask, Run.settles_ite,
    Run.answers_ite, h.settles, h.answers, settles_getBlockByNumber framework w₂ h,
    answers_getBlockByNumber framework w₂ h, if_true_left]

/-- A code query meets a scheduler. -/
def GetCodeAnswerable (req : Json) : Prop :=
  ∀ groupID, req.stringAt 0 = .ok groupID → ∀ nodeName, req.stringAt 1 = .ok nodeName →
  ∀ contractAddress, req.stringAt 2 = .ok contractAddress →
  ∀ nodeService, w.getNodeService groupID nodeName = some nodeService →
  ∃ scheduler, nodeService.scheduler = some scheduler

theorem settles_getCodeI {respFunc : RespFunc} (h : Responds respFunc) (req : Json) :
  (getCodeI framework w req respFunc).Settles RpcEvent.isSent ↔ GetCodeAnswerable w req
  := by
  simp only [getCodeI, getCode, GetCodeAnswerable, settles_orThrow_bind,
    settles_getNodeService_bind, Run.settles_deref_bind, settles_ask, h.settles, h.answers,
    Reply.timed_self, Reply.all_true, and_true]

/-- The parameters of a method name a group and a node that meet a condition. -/
def OfNode (condition : (groupID nodeName : String) → Prop) (req : Json) : Prop :=
  ∀ groupID, req.stringAt 0 = .ok groupID → ∀ nodeName, req.stringAt 1 = .ok nodeName →
  condition groupID nodeName

theorem settles_withNode_iff {method : (groupID nodeName : String) → RespFunc → RpcRun Unit}
    {respFunc : RespFunc} {condition : (groupID nodeName : String) → Prop}
    (h : ∀ groupID nodeName, (method groupID nodeName respFunc).Settles RpcEvent.isSent
      ↔ condition groupID nodeName) (req : Json) :
  (withNode method req respFunc).Settles RpcEvent.isSent ↔ OfNode condition req
  := by
  simp only [withNode, settles_orThrow_bind, h, OfNode]

/-- A query for the sealers or the observers meets nodes with their ids only, with every answer
that has no error. -/
def NodeListAnswerable (type : NodeListType) (groupID nodeName : String) : Prop :=
  ∀ nodeService, w.getNodeService groupID nodeName = some nodeService →
  ∀ ledger, nodeService.ledger = some ledger →
  (ledger.asyncGetNodeListByType type).All fun answer =>
    ¬ Error.failed answer.1 →
      ∀ nodes, answer.2 = some nodes → ∀ node ∈ nodes, ∃ n, node = some n ∧ n.nodeID.isSome

theorem settles_askNodeList {respFunc : RespFunc} (h : Responds respFunc)
    (type : NodeListType) (groupID nodeName command : String)
    {nodeToJson : ConsensusNode → Option Json}
    (hnode : ∀ node, (nodeToJson node).isSome = node.nodeID.isSome) :
  (askService framework w NodeService.ledger "ledger" groupID nodeName command
      (fun ledger => ledger.asyncGetNodeListByType type)
      (unlessFailed (.array []) (nodeListToJson nodeToJson)) respFunc).Settles RpcEvent.isSent
    ↔ NodeListAnswerable w type groupID nodeName
  := by
  simp only [settles_askService framework w _ _ _ _ _ _ _ h, isSome_unlessFailed_iff,
    isSome_nodeListToJson_iff hnode, NodeListAnswerable]

/-- A query for the peers meets peers that are not null, with every answer that has no error. -/
def GetPeersAnswerable : Prop :=
  w.asyncGetPeers.All fun answer => ¬ Error.failed answer.1 →
    ∀ peersInfo, answer.2.2 = some peersInfo → none ∉ peersInfo

theorem settles_getPeers {respFunc : RespFunc} (h : Responds respFunc) :
  (getPeers w respFunc).Settles RpcEvent.isSent ↔ GetPeersAnswerable w
  := by
  simp only [getPeers, GetPeersAnswerable, settles_ask, Run.settles_deref_bind,
    Run.answers_deref_bind, h.settles, h.answers, and_true, Reply.timed_self,
    ← Option.isSome_iff_exists, isSome_unlessFailed_iff, isSome_gatewayInfoToJson_iff]

/-- A query for the peers of a group meets the gateway itself and its peers, none of them null,
with every answer that has no error object. -/
def GetGroupPeersAnswerable (req : Json) : Prop :=
  ∀ groupID, req.stringAt 0 = .ok groupID →
  w.asyncGetPeers.All fun answer => ¬ answer.1.isSome →
    ∃ peersInfo, answer.2.2 = some peersInfo ∧ none ∉ peersInfo ++ [answer.2.1]

theorem settles_getGroupPeersI {respFunc : RespFunc} (h : Responds respFunc) (req : Json) :
  (getGroupPeersI w req respFunc).Settles RpcEvent.isSent ↔ GetGroupPeersAnswerable w req
  := by
  simp only [getGroupPeersI, getGroupPeers, GetGroupPeersAnswerable, settles_orThrow_bind,
    Run.settles_deref_bind, Run.answers_deref_bind, settles_ask, Run.settles_ite,
    Run.answers_ite, h.settles, h.answers, and_true, if_true_left, Reply.timed_self,
    ← Option.isSome_iff_exists, groupPeersToJson, Option.isSome_map,
    Pointers.isSome_mapM_id_iff]

/-! ### Requests -/

/-- A request can be answered: what its method needs of the world is there. -/
def Answerable (request : JsonRequest) : Prop :=
  match request.method with
  | "call" => CallAnswerable framework w₁ request.params
  | "sendTransaction" => SendTransactionAnswerable framework w₁ request.params
  | "getTransaction" => GetTransactionAnswerable framework w₁ request.params
  | "getTransactionReceipt" => GetTransactionReceiptAnswerable framework w₁ w₂ request.params
  | "getBlockByHash" => GetBlockByHashAnswerable framework w₁ w₂ request.params
  | "getBlockByNumber" => GetBlockByNumberAnswerable w₁ request.params
  | "getCode" => GetCodeAnswerable w₁ request.params
  | "getSealerList" => OfNode (NodeListAnswerable w₁ .CONSENSUS_SEALER) request.params
  | "getObserverList" => OfNode (NodeListAnswerable w₁ .CONSENSUS_OBSERVER) request.params
  | "getPeers" => GetPeersAnswerable w₁
  | "getGroupPeers" => GetGroupPeersAnswerable w₁ request.params
  | _ => True

theorem settles_withNode
    {method : (groupID nodeName : String) → RespFunc → RpcRun Unit} {respFunc : RespFunc}
    (h : ∀ groupID nodeName, (method groupID nodeName respFunc).Settles RpcEvent.isSent)
    (req : Json) :
  (withNode method req respFunc).Settles RpcEvent.isSent
  := by
  simp only [withNode, settles_orThrow_bind, h, implies_true]

/-- Every method of the table settles exactly when a request for it can be answered. -/
theorem settles_method {respFunc : RespFunc} (h : Responds respFunc) (params : Json) :
  ∀ entry ∈ methodToFunc framework w₁ w₂, (entry.2 params respFunc).Settles RpcEvent.isSent
    ↔ Answerable framework w₁ w₂ { method := entry.1, params }
  := by
  have hask : ∀ {S α : Type} (service : NodeService → Option S) (serviceName : String)
      (groupID nodeName command : String) (asks : S → RpcReply α)
      (result : Option Error → α → Option Json), (∀ error a, (result error a).isSome) →
      (askService framework w₁ service serviceName groupID nodeName command asks result
        respFunc).Settles RpcEvent.isSent := by
    intro S α service serviceName groupID nodeName command asks result hresult
    rw [settles_askService framework w₁ _ _ _ _ _ _ _ h]
    simp only [hresult, Reply.all_true, implies_true]
  have hanswer : ∀ {α : Type} (f : α → Json) error a,
      (unlessFailed .null (fun a => some (f a)) error a).isSome := by
    simp
  simp only [methodToFunc, List.forall_mem_cons, List.not_mem_nil, false_implies, implies_true,
    and_true]
  refine ⟨settles_callI framework w₁ h params, settles_sendTransactionI framework w₁ h params,
    settles_getTransactionI framework w₁ h params,
    settles_getTransactionReceiptI framework w₁ w₂ h params,
    settles_getBlockByHashI framework w₁ w₂ h params,
    settles_getBlockByNumberI framework w₁ h params, iff_of_true ?getBlockHashByNumber trivial,
    iff_of_true (settles_withNode (fun _ _ => hask _ _ _ _ _ _ _ fun _ _ => rfl) params) trivial,
    settles_getCodeI framework w₁ h params,
    settles_withNode_iff (fun _ _ => settles_askNodeList framework w₁ h _ _ _ _ ?sealer) params,
    settles_withNode_iff (fun _ _ => settles_askNodeList framework w₁ h _ _ _ _ ?observer) params,
    iff_of_true (settles_withNode (fun _ _ => hask _ _ _ _ _ _ _ (hanswer _)) params) trivial,
    iff_of_true (settles_withNode (fun _ _ => hask _ _ _ _ _ _ _ (hanswer _)) params) trivial,
    iff_of_true (settles_withNode (fun _ _ => hask _ _ _ _ _ _ _ (hanswer _)) params) trivial,
    iff_of_true (settles_withNode (fun _ _ => hask _ _ _ _ _ _ _ (hanswer _)) params) trivial,
    iff_of_true ?getSystemConfigByKey trivial,
    iff_of_true (settles_withNode (fun _ _ => hask _ _ _ _ _ _ _ (hanswer _)) params) trivial,
    settles_getPeers w₁ h, settles_getGroupPeersI w₁ h params,
    iff_of_true (h.settles _ _) trivial, iff_of_true ?getGroupInfo trivial,
    iff_of_true (h.settles _ _) trivial,
    iff_of_true (settles_withNode (fun _ _ => h.settles _ _) params) trivial⟩
  case getBlockHashByNumber =>
    simp only [getBlockHashByNumberI, getBlockHashByNumber, settles_orThrow_bind,
      settles_getNodeService_bind, settles_checkService_bind, settles_ask, h.settles, h.answers,
      Reply.timed_self, Reply.all_true, implies_true]
  case sealer =>
    intro node
    rw [sealerToJson, Option.isSome_map]
  case observer =>
    intro node
    rw [observerToJson, Option.isSome_map]
  case getSystemConfigByKey =>
    simp only [getSystemConfigByKeyI, getSystemConfigByKey, settles_orThrow_bind,
      hask _ _ _ _ _ _ _ (hanswer _), implies_true]
  case getGroupInfo =>
    simp only [getGroupInfoI, getGroupInfo, settles_orThrow_bind, h.settles, implies_true]

/-- A request for a method that is not in the table can be answered. -/
theorem answerable_of_lookup_eq_none {request : JsonRequest}
    (h : (methodToFunc framework w₁ w₂).lookup request.method = none) :
  Answerable framework w₁ w₂ request
  := by
  rw [Answerable]
  split
  case h_12 => trivial
  all_goals
    rename_i hmethod
    rw [hmethod] at h
    simp [methodToFunc, List.lookup_cons] at h

theorem settles_dispatch {respFunc : RespFunc} (h : Responds respFunc) (request : JsonRequest) :
  (dispatch framework w₁ w₂ request respFunc).Settles RpcEvent.isSent
    ↔ Answerable framework w₁ w₂ request
  := by
  rw [dispatch]
  cases hlookup : (methodToFunc framework w₁ w₂).lookup request.method with
  | none =>
      apply iff_of_true (Run.settles_throw _ _)
      apply answerable_of_lookup_eq_none framework w₁ w₂ hlookup
  | some method =>
      have hentry := mem_methodToFunc_of_lookup framework w₁ w₂ hlookup
      apply settles_method framework w₁ w₂ h request.params _ hentry

/-- Exactly one response is sent for a request exactly when it cannot be decoded or can be
answered. -/
theorem sentOnce_iff (uninitialized : Int) (requestBody : String) :
  (onRPCRequest framework w₁ w₂ uninitialized requestBody).Answers RpcEvent.isSent
    ↔ ∀ request, parseRpcRequestJson framework requestBody = .ok request →
      Answerable framework w₁ w₂ request
  := by
  rw [onRPCRequest]
  have hexception : ∀ (response : JsonResponse) e,
      (response.respondException e).Answers RpcEvent.isSent := by
    intro response e
    rw [JsonResponse.respondException, Run.answers_emit_bind _ rfl, Run.answers_emit]
    rfl
  cases hparse : parseRpcRequestJson framework requestBody with
  | error e =>
      apply iff_of_true (hexception _ e)
      rintro request hrequest
      cases hrequest
  | ok request =>
      dsimp only
      rw [Run.answers_handle_iff _ (hexception _), settles_dispatch _ _ _ (JsonResponse.responds_respond _)]
      simp only [Except.ok.injEq, forall_eq']

/-! ### A transaction without a receipt -/

/-- A request to submit a transaction. -/
def submitBody : String :=
  "\x7b\"jsonrpc\":\"2.0\",\"method\":\"sendTransaction\",\"id\":1,\"params\":[\"g\",\"n\",\"AA==\",false]\x7d"

def submitRequest : Json :=
  .object [("id", .integer 1), ("jsonrpc", .string "2.0"), ("method", .string "sendTransaction"),
    ("params", .array [.string "g", .string "n", .string "AA==", .boolean false])]

def submitFramework : Framework where
  parse body := if body = submitBody then .ok (some submitRequest) else .ok none
  decodeData _ := .ok [0]
  hashType _ := .ok HashType.zero
  transactionStatus _ := "None"
  logKV key value := "," ++ key ++ "=" ++ value

/-- A node whose pool answers a submission with a result that has no receipt. -/
def submitWorld : World where
  getNodeService _ _ := some
    { txpool := some
        { asyncSubmit := fun _ => .later (none, some
            { txHash := HashType.zero, status := 0, transactionReceipt := none })
          asyncGetPendingTransactionSize := .later (none, 0) }
      blockFactory := some
        { createCall := fun _ _ => .ok default
          createTransaction := fun _ => .ok default } }
  asyncGetPeers := .later (none, none, none)

theorem sentOnce_counterexample :
  ¬ ∀ (framework : Framework) (w₁ w₂ : World) (uninitialized : Int) (requestBody : String),
    (onRPCRequest framework w₁ w₂ uninitialized requestBody).Answers RpcEvent.isSent
  := by
  intro h
  have hsubmit := h submitFramework submitWorld submitWorld 0 submitBody
  revert hsubmit
  decide

end JsonRpcImpl_2_0
