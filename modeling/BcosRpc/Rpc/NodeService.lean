import BcosRpc.JsonRpc.Explained
import BcosRpc.Rpc.Services

/-!
# The services of a registered node

`buildNodeService` connects to the services that a node is registered with, and gives up when it
cannot connect to one. So the check of a method that a service is there never fails, whatever
was notified before and whatever happens between the queries of the method
(`RpcServer.services_initialized`).
-/

open Std

/-! ### Building the services -/

/-- The types of the services that a node is registered with. -/
inductive ServiceType where
  | LEDGER
  | SCHEDULER
  | TXPOOL
  | CONSENSUS
  deriving DecidableEq, Repr

/-- The descriptions of the services and the clients that connect to them: the name of a service
in the description of a node, empty when there is none, and its object. No object stands for a
service type that is unknown. -/
structure ServiceClients where
  SM_NODE : Int
  serviceName : ChainNodeInfo → ServiceType → String
  getServiceObjByType : ServiceType → Option String
  getPrxDesc : (serviceName serviceObj : String) → String
  createBlockFactory : (smCryptoSuite : Bool) → BlockFactory
  ledgerServiceClient : (prx : String) → BlockFactory → LedgerInterface
  schedulerServiceClient : (prx : String) → (smCryptoSuite : Bool) → SchedulerInterface
  txPoolServiceClient : (prx : String) → (smCryptoSuite : Bool) → BlockFactory → TxPoolInterface
  pbftServiceClient : (prx : String) → ConsensusInterface
  blockSyncServiceClient : (prx : String) → BlockSyncInterface

namespace ServiceClients

variable (clients : ServiceClients)

/-- A client of a service of a node. -/
def createServicePrx {S : Type} (type : ServiceType) (nodeInfo : ChainNodeInfo)
    (createServiceClient : (completedServiceName : String) → S) : Option S :=
  let serviceName := clients.serviceName nodeInfo type
  if serviceName = "" then none
  else
    (clients.getServiceObjByType type).map fun serviceObj =>
      createServiceClient (clients.getPrxDesc serviceName serviceObj)

def buildNodeService (nodeInfo : ChainNodeInfo) : Option NodeService := do
  let smCryptoSuite := decide (nodeInfo.nodeType = clients.SM_NODE)
  let blockFactory := clients.createBlockFactory smCryptoSuite
  let ledger ← clients.createServicePrx .LEDGER nodeInfo
    fun prx => clients.ledgerServiceClient prx blockFactory
  let scheduler ← clients.createServicePrx .SCHEDULER nodeInfo
    fun prx => clients.schedulerServiceClient prx smCryptoSuite
  let txpool ← clients.createServicePrx .TXPOOL nodeInfo
    fun prx => clients.txPoolServiceClient prx smCryptoSuite blockFactory
  let consensus ← clients.createServicePrx .CONSENSUS nodeInfo clients.pbftServiceClient
  let sync ← clients.createServicePrx .CONSENSUS nodeInfo clients.blockSyncServiceClient
  return { ledger, scheduler, txpool, consensus, sync, blockFactory }

theorem isComplete_of_buildNodeService {nodeInfo : ChainNodeInfo} {nodeService : NodeService}
    (h : clients.buildNodeService nodeInfo = some nodeService) :
  nodeService.IsComplete
  := by
  simp only [buildNodeService, bind, Option.bind_eq_some_iff] at h
  obtain ⟨ledger, _, scheduler, _, txpool, _, consensus, _, sync, _, heq⟩ := h
  obtain rfl := Option.some.inj heq
  constructor <;> rfl

end ServiceClients

/-! ### The services found -/

/-- A service that is found for a group is registered with a node of it. -/
theorem GroupManager.registered_of_getNodeService {Service : Type} {s : GroupManager Service}
    {rand : Nat} {groupID nodeName : String} {service : Service}
    (h : s.getNodeService rand groupID nodeName = some service) :
  ∃ nodeName, s.queryNodeService groupID nodeName = some service
  := by
  rw [getNodeService] at h
  split at h
  · rw [selectNode] at h
    split at h
    · rw [selectNodeRandomly] at h
      split at h
      · rename_i groupInfo services _ hservices
        obtain ⟨node, _, hnode⟩ := List.exists_of_findSome?_eq_some h
        use node.2.nodeName
        rw [queryNodeService, hservices]
        apply hnode
      · cases h
    · use s.selectNodeByBlockNumber rand groupID
  · use nodeName

namespace RpcServer

open JsonRpcImpl_2_0

variable {o e : List (WsSession × ServerMessage)} {s t : RpcServer NodeService}

/-- The services that an action builds are those of the factory. -/
def BuiltBy (clients : ServiceClients) : ServerAction NodeService → Prop
  | .asyncNotifyGroupInfo buildNodeService _ => buildNodeService = clients.buildNodeService
  | _ => True

/-- Every registered service is complete. -/
def AllComplete (s : RpcServer NodeService) : Prop :=
  ∀ groupID nodeName nodeService,
    s.groupManager.queryNodeService groupID nodeName = some nodeService → nodeService.IsComplete

theorem allComplete_step {clients : ServiceClients} (h : s.AllComplete)
    {action : ServerAction NodeService} (hbuilt : BuiltBy clients action)
    (hstep : (serverMachine NodeService).step s action = some (t, e)) :
  t.AllComplete
  := by
  intro g n nodeService hquery
  cases serviceStep hstep with
  | @update build groupInfo hmanager =>
      obtain rfl : build = clients.buildNodeService := hbuilt
      rw [hmanager] at hquery
      change (s.groupManager.updateGroupInfo _ groupInfo).queryNodeService g n = _ at hquery
      rw [GroupManager.queryNodeService_updateGroupInfo, Option.or_eq_some_iff] at hquery
      rcases hquery with hbefore | ⟨_, hnew⟩
      · apply h g n nodeService hbefore
      · obtain ⟨_, hbuild⟩ := Option.ite_none_right_eq_some.mp hnew
        obtain ⟨node, _, hbuild⟩ := Option.bind_eq_some_iff.mp hbuild
        apply clients.isComplete_of_buildNodeService hbuild
  | check _ hmanager =>
      rw [hmanager] at hquery
      apply h g n nodeService hquery
  | remove _ hmanager =>
      rw [hmanager] at hquery
      apply h g n nodeService
      apply ((GroupManager.queryNodeService_removeUnreachableNodeService _ _ _ _ _).mp hquery).1
  | leave _ hleft _ _ _ =>
      rw [hleft] at hquery
      apply h g n nodeService hquery

theorem allComplete_run {clients : ServiceClients} {actions : List (ServerAction NodeService)}
    (hbuilt : ∀ action ∈ actions, BuiltBy clients action) (h : s.AllComplete)
    (hrun : (serverMachine NodeService).run s actions = some (t, o)) :
  t.AllComplete
  := by
  have halong := Machine.along_of_forall_mem (M := serverMachine NodeService)
    (C := fun _ _ action => BuiltBy clients action)
    (fun action hmem _ _ => hbuilt action hmem) [] s
  apply (halong.invariant (I := fun _ s => s.AllComplete) _ h).run hrun
  intro _ _ _ _ _ h hbuilt hstep
  apply allComplete_step h hbuilt hstep

/-- A registered service throws an exception. -/
def Throws (s : RpcServer NodeService) (e : RpcException) : Prop :=
  ∃ groupID nodeName nodeService,
    s.groupManager.queryNodeService groupID nodeName = some nodeService ∧ nodeService.Throws e

/-- What a method sees of the server. -/
def world (s : RpcServer NodeService) (rand : Nat) (chainID : String)
    (asyncGetPeers : RpcReply (Option GatewayInfo × Option (List (Option GatewayInfo)))) : World :=
  s.groupManager.world rand chainID asyncGetPeers

/-- Where the services are complete, the code that says that a service is missing is one that a
service throws. -/
theorem throws_of_raises (h : s.AllComplete) {rand : Nat} {chainID groupID nodeName : String}
    {asyncGetPeers : RpcReply (Option GatewayInfo × Option (List (Option GatewayInfo)))}
    {e : RpcException} (hcode : e.code = JsonRpcError.ServiceNotInitCompleted)
    (hraises : (s.world rand chainID asyncGetPeers).Raises groupID nodeName e) :
  s.Throws e
  := by
  cases hraises with
  | node hnone => cases hcode
  | service hservice hincomplete =>
      obtain ⟨name, hquery⟩ := GroupManager.registered_of_getNodeService hservice
      apply absurd (h groupID name _ hquery) hincomplete
  | thrown hservice hthrows =>
      obtain ⟨name, hquery⟩ := GroupManager.registered_of_getNodeService hservice
      exact ⟨groupID, name, _, hquery, hthrows⟩

theorem code_of_parse {framework : Framework} {requestBody : String} {e : RpcException}
    (h : parseRpcRequestJson framework requestBody = .error e) :
  e.code ≠ JsonRpcError.ServiceNotInitCompleted
  := by
  rw [parseRpcRequestJson] at h
  split at h
  · cases h
    decide
  · cases h
    decide
  · cases h

/-- In every run of the server whose services are built by the factory, and whatever happens
between the two queries of a method, a request is answered that a service is not initialised
only if a service answers or throws this code itself. -/
theorem services_initialized {clients : ServiceClients}
    {before between : List (ServerAction NodeService)} {o' : List (WsSession × ServerMessage)}
    (hbuilt : ∀ action ∈ before ++ between, BuiltBy clients action)
    (hbefore : (serverMachine NodeService).run (start {}) before = some (s, o))
    (hbetween : (serverMachine NodeService).run s between = some (t, o'))
    (framework : Framework) (rand₁ rand₂ : Nat) (chainID : String)
    (asyncGetPeers : RpcReply (Option GatewayInfo × Option (List (Option GatewayInfo))))
    (uninitialized : Int) (requestBody : String) :
  ∀ response ∈ responses (onRPCRequest framework (s.world rand₁ chainID asyncGetPeers)
      (t.world rand₂ chainID asyncGetPeers) uninitialized requestBody).trace,
    ∀ message, response.find "error"
        = some (errorToJson JsonRpcError.ServiceNotInitCompleted message) →
      (∃ e, .answer (some e) ∈ (onRPCRequest framework (s.world rand₁ chainID asyncGetPeers)
          (t.world rand₂ chainID asyncGetPeers) uninitialized requestBody).trace
        ∧ toInt32 e.errorCode = JsonRpcError.ServiceNotInitCompleted)
      ∨ ∃ e, e.code = JsonRpcError.ServiceNotInitCompleted
        ∧ (s.Throws e ∨ t.Throws e ∨ asyncGetPeers = .throws e)
  := by
  have hs : s.AllComplete := by
    apply allComplete_run (fun action hmem => hbuilt action (List.mem_append_left _ hmem)) _ hbefore
    intro groupID nodeName nodeService hquery
    cases hquery
  have ht : t.AllComplete := by
    apply allComplete_run (fun action hmem => hbuilt action (List.mem_append_right _ hmem)) hs
      hbetween
  have hsourced := sourced_onRPCRequest framework (s.world rand₁ chainID asyncGetPeers)
    (t.world rand₂ chainID asyncGetPeers) uninitialized requestBody
  intro response hresponse message herror
  have hcode : ∀ {code : Int} {text : String},
      errorToJson JsonRpcError.ServiceNotInitCompleted message = errorToJson code text →
      code = JsonRpcError.ServiceNotInitCompleted := by
    intro code text heq
    have hfind := congrArg (Json.find "code") heq
    simp only [errorToJson, Json.find_set, String.reduceEq, if_true, if_false,
      Option.some.injEq, Json.integer.injEq] at hfind
    apply hfind.symm
  have hsource := hsourced _ (sent_of_mem_responses hresponse) _ herror
  rcases hsource with ⟨e, hanswer, _, heq⟩ | ⟨e, hcaught, heq⟩
  · left
    exact ⟨e, hanswer, hcode heq⟩
  · right
    use e
    use hcode heq
    have hraised := hsourced _ hcaught
    cases hraised with
    | unread hparse => apply absurd (hcode heq) (code_of_parse hparse)
    | request _ hraised =>
        cases hraised with
        | method _ => cases hcode heq
        | parameter _ => cases hcode heq
        | refused _ => cases hcode heq
        | node hworld _ _ hraises =>
            rcases hworld with rfl | rfl
            · left
              apply throws_of_raises hs (hcode heq) hraises
            · right
              left
              apply throws_of_raises ht (hcode heq) hraises
        | peers hthrows =>
            right
            right
            apply hthrows

/-- The error of a ledger that is not initialised itself. -/
def notInitError : Error where
  errorCode := JsonRpcError.ServiceNotInitCompleted
  errorMessage := "not init"

/-- Clients of services that answer every query with an error. -/
def failingClients : ServiceClients where
  SM_NODE := 1
  serviceName nodeInfo
    | .LEDGER => (nodeInfo.serviceInfo.lookup 0).getD ""
    | .SCHEDULER => (nodeInfo.serviceInfo.lookup 1).getD ""
    | .TXPOOL => (nodeInfo.serviceInfo.lookup 2).getD ""
    | .CONSENSUS => (nodeInfo.serviceInfo.lookup 3).getD ""
  getServiceObjByType _ := some "Obj"
  getPrxDesc serviceName serviceObj := serviceName ++ "." ++ serviceObj
  createBlockFactory _ := ⟨fun _ _ => .error "", fun _ => .error ""⟩
  ledgerServiceClient _ _ :=
    { failingLedger with asyncGetBlockNumber := .later (some notInitError, 0) }
  schedulerServiceClient _ _ :=
    ⟨fun _ => .later (some ledgerError, none), fun _ => .later (some ledgerError, [])⟩
  txPoolServiceClient _ _ _ :=
    ⟨fun _ => .later (some ledgerError, none), .later (some ledgerError, 0)⟩
  pbftServiceClient _ := ⟨.later (some ledgerError, 0), .later (some ledgerError, "")⟩
  blockSyncServiceClient _ := ⟨.later (some ledgerError, "")⟩

/-- A node with all its services. -/
def completeNode : ChainNodeInfo where
  nodeName := "n"
  serviceInfo := [(0, "ledger"), (1, "scheduler"), (2, "txpool"), (3, "consensus")]

/-- The node of the query is announced after its group is recorded, and a block of it is notified
meanwhile; its ledger answers that it is not initialised. -/
theorem services_initialized_notInit :
  ∃ s o t o', (serverMachine NodeService).run (start {}) [
      .asyncNotifyGroupInfo failingClients.buildNodeService { groupID := "g" },
      .asyncNotifyGroupInfo failingClients.buildNodeService
        (GroupInfo.appendNodeInfo completeNode { groupID := "g" })] = some (s, o)
    ∧ (serverMachine NodeService).run s [.asyncNotifyBlockNumber "g" "n" 5] = some (t, o')
    ∧ (∃ response ∈ responses (onRPCRequest queryFramework (s.world 0 "" (.later (none, none, none)))
        (t.world 0 "" (.later (none, none, none))) 0 numberBody).trace,
      response.find "error" = some (errorToJson JsonRpcError.ServiceNotInitCompleted "not init"))
    ∧ ∀ response ∈ responses (onRPCRequest queryFramework (s.world 0 "" (.later (none, none, none)))
        (t.world 0 "" (.later (none, none, none))) 0 numberBody).trace,
      ∀ message, response.find "error"
          = some (errorToJson JsonRpcError.ServiceNotInitCompleted message) →
        (∃ e, .answer (some e) ∈ (onRPCRequest queryFramework
            (s.world 0 "" (.later (none, none, none))) (t.world 0 "" (.later (none, none, none))) 0
            numberBody).trace
          ∧ toInt32 e.errorCode = JsonRpcError.ServiceNotInitCompleted)
        ∨ ∃ e, e.code = JsonRpcError.ServiceNotInitCompleted
          ∧ (s.Throws e ∨ t.Throws e ∨ (.later (none, none, none) : RpcReply (Option GatewayInfo
            × Option (List (Option GatewayInfo)))) = .throws e)
  := by
  have hrun : (serverMachine NodeService).run (start {}) [
      .asyncNotifyGroupInfo failingClients.buildNodeService { groupID := "g" },
      .asyncNotifyGroupInfo failingClients.buildNodeService
        (GroupInfo.appendNodeInfo completeNode { groupID := "g" })] = some (_, _) := rfl
  have hbuilt : ∀ action ∈ [
      .asyncNotifyGroupInfo failingClients.buildNodeService { groupID := "g" },
      .asyncNotifyGroupInfo failingClients.buildNodeService
        (GroupInfo.appendNodeInfo completeNode { groupID := "g" })]
        ++ [.asyncNotifyBlockNumber "g" "n" 5],
      BuiltBy failingClients action := by
    simp [BuiltBy]
  exact ⟨_, _, _, _, hrun, rfl, ⟨_, List.mem_singleton_self _, rfl⟩,
    services_initialized hbuilt hrun rfl queryFramework 0 0 "" (.later (none, none, none)) 0
      numberBody⟩

end RpcServer
