import BcosRpc.Common.Table

/-!
# The group manager

`GroupManager` records the groups with their nodes, the services of the nodes, and the nodes
that reported the latest block of each group. A request for a group is sent to one of the
latter; the two tables are written by different operations.
-/

open Std

/-- What a node of a group is registered with. -/
structure ChainNodeInfo where
  nodeName : String
  nodeID : String := ""
  nodeType : Int := 0
  microService : Bool := false
  iniConfig : String := ""
  serviceInfo : List (Int × String) := []
  deriving DecidableEq, Repr

/-- A group with its nodes, by name. -/
structure GroupInfo where
  chainID : String := ""
  groupID : String
  genesisConfig : String := ""
  iniConfig : String := ""
  nodeInfos : ExtTreeMap String ChainNodeInfo := ∅
  nodeName_eq : ∀ (name : String) (node : ChainNodeInfo),
    nodeInfos[name]? = some node → node.nodeName = name := by simp

namespace GroupInfo

/-- Add a node unless there is one with its name. -/
def appendNodeInfo (node : ChainNodeInfo) (info : GroupInfo) : GroupInfo where
  __ := info
  nodeInfos := info.nodeInfos.insertIfNew node.nodeName node
  nodeName_eq := by
    intro name node' h
    rw [ExtTreeMap.getElem?_insertIfNew] at h
    split at h
    · rename_i hnew
      obtain rfl := Option.some.inj h
      apply LawfulEqCmp.compare_eq_iff_eq.mp hnew.1
    · apply info.nodeName_eq name node' h

/-- Remove the nodes with the names of a kind. -/
def removeNodeInfos (lost : String → Bool) (info : GroupInfo) : GroupInfo where
  __ := info
  nodeInfos := info.nodeInfos.filter fun name _ => !lost name
  nodeName_eq := by
    intro name node h
    rw [ExtTreeMap.getElem?_filter', Option.filter_eq_some_iff] at h
    apply info.nodeName_eq name node h.1

end GroupInfo

/-- The state of the manager. A group is recorded under its own id. -/
structure GroupManager (Service : Type) where
  groupInfos : ExtTreeMap String GroupInfo := ∅
  nodeServiceList : ExtTreeMap String (ExtTreeMap String Service) := ∅
  nodesWithLatestBlockNumber : ExtTreeMap String (ExtTreeSet String) := ∅
  groupBlockInfos : ExtTreeMap String Int := ∅
  groupID_eq : ∀ (group : String) (info : GroupInfo),
    groupInfos[group]? = some info → info.groupID = group := by simp

namespace GroupManager

variable {Service : Type}

/-! ### Queries -/

def queryNodeService (s : GroupManager Service) (groupID nodeName : String) : Option Service :=
  (s.nodeServiceList[groupID]?).bind fun services => services[nodeName]?

/-- The nodes that reported the latest block of a group. -/
def latestNodes (s : GroupManager Service) (groupID : String) : ExtTreeSet String :=
  s.nodesWithLatestBlockNumber.getD groupID ∅

/-- One of the nodes that reported the latest block, the empty name when there is none. The
index is drawn. -/
def selectNodeByBlockNumber (s : GroupManager Service) (rand : Nat) (groupID : String) :
    String :=
  match s.nodesWithLatestBlockNumber[groupID]? with
  | none => ""
  | some nodesList =>
      if nodesList.size = 0 then "" else nodesList.toList.getD (rand % nodesList.size) ""

/-- The first node of a group that has a service. -/
def selectNodeRandomly (s : GroupManager Service) (groupID : String) : Option Service :=
  match s.groupInfos[groupID]?, s.nodeServiceList[groupID]? with
  | some groupInfo, some services =>
      groupInfo.nodeInfos.toList.findSome? fun node => services[node.2.nodeName]?
  | _, _ => none

def selectNode (s : GroupManager Service) (rand : Nat) (groupID : String) : Option Service :=
  let nodeName := s.selectNodeByBlockNumber rand groupID
  if nodeName = "" then s.selectNodeRandomly groupID else s.queryNodeService groupID nodeName

def getNodeService (s : GroupManager Service) (rand : Nat) (groupID nodeName : String) :
    Option Service :=
  if nodeName = "" then s.selectNode rand groupID else s.queryNodeService groupID nodeName

/-! ### Registration -/

/-- Enter a service. -/
def addService (groupID nodeName : String) (service : Service) (s : GroupManager Service) :
    GroupManager Service :=
  { s with
    nodeServiceList := s.nodeServiceList.insert groupID
      ((s.nodeServiceList.getD groupID ∅).insert nodeName service) }

/-- Add a node to a recorded group. -/
def appendNodeInfo (groupID : String) (node : ChainNodeInfo) (s : GroupManager Service) :
    GroupManager Service :=
  { s with
    groupInfos := s.groupInfos.modify groupID (GroupInfo.appendNodeInfo node)
    groupID_eq := by
      intro group info h
      rw [ExtTreeMap.getElem?_modify] at h
      split at h
      · obtain ⟨info', hinfo, rfl⟩ := Option.map_eq_some_iff.mp h
        rename_i heq
        rw [LawfulEqCmp.compare_eq_iff_eq] at heq
        subst heq
        apply s.groupID_eq groupID info' hinfo
      · apply s.groupID_eq group info h }

/-- Register a started node, unless it has a service already. -/
def updateNodeServiceWithoutLock (buildNodeService : ChainNodeInfo → Option Service)
    (groupID : String) (s : GroupManager Service) (nodeInfo : ChainNodeInfo) :
    GroupManager Service :=
  if (s.queryNodeService groupID nodeInfo.nodeName).isSome then s
  else
    match buildNodeService nodeInfo with
    | none => s
    | some service =>
        (s.addService groupID nodeInfo.nodeName service).appendNodeInfo groupID nodeInfo

/-- Record a group that is new, or register the nodes of a recorded one. -/
def updateGroupInfo (buildNodeService : ChainNodeInfo → Option Service) (groupInfo : GroupInfo)
    (s : GroupManager Service) : GroupManager Service :=
  if groupInfo.groupID ∉ s.groupInfos then
    { s with
      groupInfos := s.groupInfos.insert groupInfo.groupID groupInfo
      groupID_eq := by
        intro group info h
        rw [ExtTreeMap.getElem?_insert] at h
        split at h
        · rename_i heq
          obtain rfl := Option.some.inj h
          apply LawfulEqCmp.compare_eq_iff_eq.mp heq
        · apply s.groupID_eq group info h }
  else
    (groupInfo.nodeInfos.toList.map Prod.snd).foldl
      (updateNodeServiceWithoutLock buildNodeService groupInfo.groupID) s

/-! ### Block notifications -/

/-- A notification that changes nothing: its block is expired, or the node is recorded with
it. -/
def ignoresBlock (s : GroupManager Service) (groupID nodeName : String) (blockNumber : Int) :
    Bool :=
  match s.groupBlockInfos[groupID]? with
  | none => false
  | some current =>
      current > blockNumber || (current == blockNumber && (s.latestNodes groupID).contains nodeName)

def updateGroupBlockInfo (groupID nodeName : String) (blockNumber : Int)
    (s : GroupManager Service) : GroupManager Service :=
  if s.ignoresBlock groupID nodeName blockNumber then s
  else if s.groupBlockInfos.getD groupID 0 < blockNumber then
    { s with
      groupBlockInfos := s.groupBlockInfos.insert groupID blockNumber
      nodesWithLatestBlockNumber :=
        s.nodesWithLatestBlockNumber.insert groupID ((∅ : ExtTreeSet String).insert nodeName) }
  else
    { s with
      nodesWithLatestBlockNumber :=
        s.nodesWithLatestBlockNumber.insert groupID ((s.latestNodes groupID).insert nodeName) }

/-! ### The sweep -/

/-- A node of a group that has no service, or one that cannot be reached. -/
def isLost (unreachable : String → String → Bool) (s : GroupManager Service)
    (groupID nodeName : String) : Bool :=
  (s.queryNodeService groupID nodeName).isNone || unreachable groupID nodeName

/-- The lost nodes of a group. -/
def lostNodes (unreachable : String → String → Bool) (s : GroupManager Service)
    (groupInfo : GroupInfo) : ExtTreeSet String :=
  ExtTreeSet.ofList (groupInfo.nodeInfos.keys.filter (s.isLost unreachable groupInfo.groupID))

/-- Remove the lost nodes from the groups. The result has them by group. -/
def checkNodeStatus (unreachable : String → String → Bool) (s : GroupManager Service) :
    GroupManager Service × ExtTreeMap String (ExtTreeSet String) :=
  ({ s with
      groupInfos := s.groupInfos.map fun _ groupInfo =>
        groupInfo.removeNodeInfos (s.isLost unreachable groupInfo.groupID)
      groupID_eq := by
        intro group info h
        rw [ExtTreeMap.getElem?_map] at h
        obtain ⟨info', hinfo, rfl⟩ := Option.map_eq_some_iff.mp h
        apply s.groupID_eq group info' hinfo },
    s.groupInfos.filterMap fun _ groupInfo =>
      let nodes := s.lostNodes unreachable groupInfo
      if nodes.isEmpty then none else some nodes)

/-- Remove the services of nodes of a group, and the group with its last one. -/
def removeServices (s : GroupManager Service) (lost : String × ExtTreeSet String) :
    GroupManager Service :=
  match s.nodeServiceList[lost.1]? with
  | none => s
  | some services =>
      let left := lost.2.toList.foldl ExtTreeMap.erase services
      if left.isEmpty then { s with nodeServiceList := s.nodeServiceList.erase lost.1 }
      else { s with nodeServiceList := s.nodeServiceList.insert lost.1 left }

def removeUnreachableNodeService (unreachableNodes : ExtTreeMap String (ExtTreeSet String))
    (s : GroupManager Service) : GroupManager Service :=
  unreachableNodes.toList.foldl removeServices s

/-- Remove nodes of a group from those with the latest block, and the group with its last
one. -/
def removeLatest (s : GroupManager Service) (lost : String × ExtTreeSet String) :
    GroupManager Service :=
  match s.nodesWithLatestBlockNumber[lost.1]? with
  | none => { s with groupBlockInfos := s.groupBlockInfos.erase lost.1 }
  | some nodes =>
      if lost.1 ∉ s.groupBlockInfos then
        { s with nodesWithLatestBlockNumber := s.nodesWithLatestBlockNumber.erase lost.1 }
      else
        let left := lost.2.toList.foldl ExtTreeSet.erase nodes
        if left.isEmpty then
          { s with
            groupBlockInfos := s.groupBlockInfos.erase lost.1
            nodesWithLatestBlockNumber := s.nodesWithLatestBlockNumber.erase lost.1 }
        else
          { s with
            nodesWithLatestBlockNumber := s.nodesWithLatestBlockNumber.insert lost.1 left }

def removeGroupBlockInfo (unreachableNodes : ExtTreeMap String (ExtTreeSet String))
    (s : GroupManager Service) : GroupManager Service :=
  unreachableNodes.toList.foldl removeLatest s

/-- The periodic sweep. It does nothing before the initial refresh time has passed. -/
def updateGroupStatus (refreshed : Bool) (unreachable : String → String → Bool)
    (s : GroupManager Service) : GroupManager Service :=
  if !refreshed then s
  else
    let checked := s.checkNodeStatus unreachable
    if checked.2.isEmpty then checked.1
    else removeGroupBlockInfo checked.2 (removeUnreachableNodeService checked.2 checked.1)

end GroupManager
