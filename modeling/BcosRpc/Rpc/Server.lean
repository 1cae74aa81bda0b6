import BcosRpc.Common.Replica
import BcosRpc.Group.Sweep
import BcosRpc.JsonRpc.ToJson

/-!
# The server and its sessions

`Rpc` tells every connected session of a block or a group that a node reports, and answers the
handshakes. `serverMachine` interleaves this with the group manager. The locks of the manager
keep its operations apart, the calls of the notifier included. A handshake takes the list of the
groups, converts them one after the other, and answers; everything else can happen in between.
The manager changes its groups in place, so that a group is converted as it is at that moment.
-/

open Std

/-! ### Protocol versions -/

namespace EnumPV

def v1 : Int := 1
def CurrentVersion : Int := v1

end EnumPV

structure ProtocolVersion where
  protocolVersion : Int
  deriving DecidableEq, Repr

namespace ProtocolVersion

def toJson (pv : ProtocolVersion) : Json :=
  Json.null.set "protocolVersion" (.integer pv.protocolVersion)

/-- The version that a value has; `none` when there is none. -/
def read (root : Json) : Except String (Option Int) := do
  if !(← root.isMember "protocolVersion") then return none
  return some (← (← root.member "protocolVersion").asInt)

/-- Decode a version. One that is refused, or on which the library throws, is left as it is. -/
def fromJson (parse : String → Option Json) (json : String) (pv : ProtocolVersion) :
    ProtocolVersion × Bool :=
  match parse json with
  | none => (pv, false)
  | some root =>
      match read root with
      | .ok (some protocolVersion) => ({ pv with protocolVersion }, true)
      | _ => (pv, false)

end ProtocolVersion

/-! ### Messages -/

/-- A message to a client, by its type. It is given as the value whose text is sent. -/
inductive ServerMessage where
  | HANDESHAKE (result : Json)
  | BLOCK_NOTIFY (response : Json)
  | GROUP_NOTIFY (response : Json)

/-- The answer to a handshake. -/
def handshakeToJson (groupInfoList : List GroupInfo) : Json :=
  (ProtocolVersion.mk EnumPV.CurrentVersion).toJson
    |>.set "groupInfoList" (Json.arrayOf groupInfoToJson groupInfoList)

/-- A block as a client is told of it. -/
def blockNotifyToJson (groupID nodeName : String) (blockNumber : Int) : Json :=
  Json.null
    |>.set "group" (.string groupID)
    |>.set "nodeName" (.string nodeName)
    |>.set "blockNumber" (.integer blockNumber)

/-- A client reads the version of the server from the answer to its handshake, whatever the
groups. -/
theorem ProtocolVersion.fromJson_handshakeToJson {parse : String → Option Json} {json : String}
    {groupInfoList : List GroupInfo} (h : parse json = some (handshakeToJson groupInfoList))
    (pv : ProtocolVersion) :
  fromJson parse json pv = ({ protocolVersion := EnumPV.CurrentVersion }, true)
  := by
  rw [fromJson, h]
  rfl

/-! ### What the notifier is given -/

namespace GroupManager

variable {Service : Type}

/-- The group of a node that is registered. -/
def notifiedByNode (buildNodeService : ChainNodeInfo → Option Service) (groupID : String)
    (s : GroupManager Service) (nodeInfo : ChainNodeInfo) : List GroupInfo :=
  if (s.queryNodeService groupID nodeInfo.nodeName).isSome then []
  else
    match buildNodeService nodeInfo with
    | none => []
    | some _ =>
        (updateNodeServiceWithoutLock buildNodeService groupID s nodeInfo).groupInfos[groupID]?.toList

def notifiedByNodes (buildNodeService : ChainNodeInfo → Option Service) (groupID : String) :
    GroupManager Service → List ChainNodeInfo → List GroupInfo
  | _, [] => []
  | s, nodeInfo :: nodeInfos =>
      notifiedByNode buildNodeService groupID s nodeInfo
        ++ notifiedByNodes buildNodeService groupID
          (updateNodeServiceWithoutLock buildNodeService groupID s nodeInfo) nodeInfos

/-- A group that is new, or a recorded group once for every node that is registered. -/
def notifiedByUpdate (buildNodeService : ChainNodeInfo → Option Service) (groupInfo : GroupInfo)
    (s : GroupManager Service) : List GroupInfo :=
  if groupInfo.groupID ∉ s.groupInfos then [groupInfo]
  else
    notifiedByNodes buildNodeService groupInfo.groupID s
      (groupInfo.nodeInfos.toList.map Prod.snd)

/-- The groups that lose nodes. -/
def notifiedByCheck (unreachable : String → String → Bool) (s : GroupManager Service) :
    List GroupInfo :=
  (s.checkNodeStatus unreachable).2.keys.filterMap fun groupID =>
    (s.checkNodeStatus unreachable).1.groupInfos[groupID]?

end GroupManager

/-! ### The machine -/

/-- A handshake that is not answered: the groups to convert, and those converted, as they were
then. -/
structure Handshake where
  session : WsSession
  groups : List String
  groupInfoList : List GroupInfo

/-- The server: its group manager, the sessions accepted so far with whether they are connected,
the handshakes not answered, and the blocks that the sessions have been told of and that are not
recorded yet. -/
structure RpcServer (Service : Type) where
  groupManager : SweepState Service
  sessions : List (WsSession × Bool) := []
  handshakes : List Handshake := []
  blocks : List (String × String × Int) := []

inductive ServerAction (Service : Type) where
  | connect (session : WsSession)
  | disconnect (session : WsSession)
  | handshake (session : WsSession)
  | convertGroup (index : Nat)
  | answerHandshake (index : Nat)
  | asyncNotifyGroupInfo (buildNodeService : ChainNodeInfo → Option Service)
      (groupInfo : GroupInfo)
  | checkNodeStatus (unreachable : String → String → Bool)
  | removeUnreachableNodeService
  | removeGroupBlockInfo
  | asyncNotifyBlockNumber (groupID nodeName : String) (blockNumber : Int)
  | updateGroupBlockInfo (index : Nat)

namespace RpcServer

variable {Service : Type}

/-- The server with a group manager, before it has a session. -/
def start (groupManager : GroupManager Service) : RpcServer Service where
  groupManager := { groupManager with unreachableNodes := ∅, phase := .ended }

def IsConnected (s : RpcServer Service) (session : WsSession) : Prop :=
  (session, true) ∈ s.sessions

instance (s : RpcServer Service) (session : WsSession) : Decidable (s.IsConnected session) :=
  inferInstanceAs (Decidable (_ ∈ _))

/-- A message to every connected session. -/
def toSessions (s : RpcServer Service) (message : ServerMessage) :
    List (WsSession × ServerMessage) :=
  s.sessions.filterMap fun entry => if entry.2 then some (entry.1, message) else none

/-- Groups to every connected session. -/
def notifyGroupInfo (s : RpcServer Service) (groupInfos : List GroupInfo) :
    List (WsSession × ServerMessage) :=
  groupInfos.flatMap fun groupInfo => s.toSessions (.GROUP_NOTIFY (groupInfoToJson groupInfo))

/-- Convert the next group of a handshake. -/
def convertGroup (s : RpcServer Service) (index : Nat) : Option (RpcServer Service) :=
  match s.handshakes[index]? with
  | some ⟨session, groupID :: groups, groupInfoList⟩ =>
      (s.groupManager.groupInfos[groupID]?).map fun groupInfo =>
        { s with
          handshakes := s.handshakes.set index ⟨session, groups, groupInfoList ++ [groupInfo]⟩ }
  | _ => none

/-- Answer a handshake whose groups are converted, whether or not its session is connected. -/
def answerHandshake (s : RpcServer Service) (index : Nat) :
    Option (RpcServer Service × List (WsSession × ServerMessage)) :=
  match s.handshakes[index]? with
  | some ⟨session, [], groupInfoList⟩ =>
      some ({ s with handshakes := s.handshakes.eraseIdx index },
        [(session, .HANDESHAKE (handshakeToJson groupInfoList))])
  | _ => none

/-- A step of the sweep that the check has begun. -/
def sweep (s : RpcServer Service) (action : SweepAction Service) :
    Option (RpcServer Service × List (WsSession × ServerMessage)) :=
  ((sweepMachine Service).step s.groupManager action).map fun r =>
    ({ s with groupManager := r.1 }, [])

end RpcServer

open RpcServer in
/-- The server as a machine. The outputs are the messages given to the sessions. A session is
accepted once. -/
def serverMachine (Service : Type) :
    Machine (RpcServer Service) (ServerAction Service) (WsSession × ServerMessage) where
  step
    | s, .connect session =>
        if session ∈ s.sessions.map Prod.fst then none
        else some ({ s with sessions := s.sessions ++ [(session, true)] }, [])
    | s, .disconnect session =>
        some ({ s with
          sessions := s.sessions.map fun entry => (entry.1, entry.2 && entry.1 != session) }, [])
    | s, .handshake session =>
        if s.IsConnected session then
          some ({ s with
            handshakes := s.handshakes ++ [⟨session, s.groupManager.groupInfos.keys, []⟩] }, [])
        else none
    | s, .convertGroup index => (s.convertGroup index).map (·, [])
    | s, .answerHandshake index => s.answerHandshake index
    | s, .asyncNotifyGroupInfo buildNodeService groupInfo =>
        some ({ s with
          groupManager := { s.groupManager with
            toGroupManager := s.groupManager.updateGroupInfo buildNodeService groupInfo } },
          s.notifyGroupInfo (s.groupManager.notifiedByUpdate buildNodeService groupInfo))
    | s, .checkNodeStatus unreachable =>
        if s.groupManager.phase = .ended then
          some ({ s with groupManager := s.groupManager.afterCheck unreachable },
            s.notifyGroupInfo (s.groupManager.notifiedByCheck unreachable))
        else none
    | s, .removeUnreachableNodeService => s.sweep .removeUnreachableNodeService
    | s, .removeGroupBlockInfo => s.sweep .removeGroupBlockInfo
    | s, .asyncNotifyBlockNumber groupID nodeName blockNumber =>
        some ({ s with blocks := s.blocks ++ [(groupID, nodeName, blockNumber)] },
          s.toSessions (.BLOCK_NOTIFY (blockNotifyToJson groupID nodeName blockNumber)))
    | s, .updateGroupBlockInfo index =>
        match s.blocks[index]? with
        | none => none
        | some (groupID, nodeName, blockNumber) =>
            some ({ s with
              groupManager := { s.groupManager with
                toGroupManager := s.groupManager.updateGroupBlockInfo groupID nodeName blockNumber }
              blocks := s.blocks.eraseIdx index }, [])
