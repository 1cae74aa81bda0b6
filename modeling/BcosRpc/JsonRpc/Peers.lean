import BcosRpc.JsonRpc.Errors
import Mathlib.Data.List.ReduceOption

/-!
# The peers of a group

`getPeers` and `getGroupPeers` ask the gateway the same question. The first one passes the error
on and lists what there is; the second one takes every error object for a failure, and needs
both the gateway's own nodes and the list of its peers. Both end at a null peer in the list.
-/

/-- What the gateway answers: an error, its own nodes and those of its peers. -/
abbrev PeersAnswer : Type :=
  Option Error × Option GatewayInfo × Option (List (Option GatewayInfo))

namespace PeersAnswer

/-- The gateway itself and its peers, as far as the answer has them. -/
def infos (answer : PeersAnswer) : List GatewayInfo :=
  (answer.2.2.getD [] ++ [answer.2.1]).reduceOption

/-- A peer in the list is null. -/
def NullPeer (answer : PeersAnswer) : Prop := ∃ peers, answer.2.2 = some peers ∧ none ∈ peers

/-- An answer whose list has no null peer. -/
def present (error : Option Error) (localP2pInfo : Option GatewayInfo)
    (peersInfo : Option (List GatewayInfo)) : PeersAnswer :=
  (error, localP2pInfo, peersInfo.map (List.map some))

theorem exists_eq_present {answer : PeersAnswer} (h : ¬ answer.NullPeer) :
  ∃ peersInfo, answer = present answer.1 answer.2.1 peersInfo
  := by
  obtain ⟨error, localP2pInfo, peersInfo⟩ := answer
  cases peersInfo with
  | none => exact ⟨none, rfl⟩
  | some items =>
      obtain ⟨peers, rfl⟩ := Pointers.exists_eq_map_some fun hmem => h ⟨items, rfl, hmem⟩
      exact ⟨some peers, rfl⟩

theorem mem_infos_present_iff (error : Option Error) (localP2pInfo : Option GatewayInfo)
    (peersInfo : Option (List GatewayInfo)) (info : GatewayInfo) :
  info ∈ (present error localP2pInfo peersInfo).infos
    ↔ info ∈ peersInfo.getD [] ∨ localP2pInfo = some info
  := by
  rw [infos, List.reduceOption_mem_iff, List.mem_append, List.mem_singleton, eq_comm]
  cases peersInfo <;> simp [present, eq_comm]

end PeersAnswer

/-- The nodes of a group. -/
def GatewayInfo.nodesOf (info : GatewayInfo) (groupID : String) : List String :=
  (info.nodeIDInfo.lookup groupID).getD []

/-- The groups of a gateway are the keys of a map. -/
def GatewayInfo.IsMap (info : GatewayInfo) : Prop := (info.nodeIDInfo.map Prod.fst).Nodup

/-! ### The nodes a result lists -/

/-- The nodes an element of the member `groupNodeIDInfo` lists for a group. -/
def nodesOfItem (groupID : String) (item : Json) : List String :=
  match item.find "group" with
  | some (.string group) =>
      if group = groupID then ((item.find "nodeIDList").getD .null).strings else []
  | _ => []

/-- The nodes a gateway in a result lists for a group. -/
def nodesOfGateway (groupID : String) (gateway : Json) : List String :=
  match gateway.find "groupNodeIDInfo" with
  | some (.array items) => items.flatMap (nodesOfItem groupID)
  | _ => []

/-- The nodes the result of `getPeers` lists for a group, for the gateway and its peers. -/
def listedNodes (groupID : String) (result : Json) : List String :=
  nodesOfGateway groupID result ++
    match result.find "peers" with
    | some (.array peers) => peers.flatMap (nodesOfGateway groupID)
    | _ => []

theorem mem_nodesOfItem_iff (groupID : String) (groupNodes : String × List String)
    (node : String) :
  node ∈ nodesOfItem groupID (groupNodesToJson groupNodes)
    ↔ groupNodes.1 = groupID ∧ node ∈ groupNodes.2
  := by
  have hgroup : (groupNodesToJson groupNodes).find "group" = some (.string groupNodes.1) := by
    simp [groupNodesToJson]
  have hlist : (groupNodesToJson groupNodes).find "nodeIDList"
      = some (.array (groupNodes.2.map .string)) := by
    simp [groupNodesToJson, Json.arrayOf]
  rw [nodesOfItem, hgroup, hlist]
  dsimp only
  split
  · rename_i heq
    simp [heq, Json.strings_array_map]
  · rename_i hne
    simp [hne]

/-- In a map the values of the entries with a key are that of the key. -/
theorem exists_mem_entry_iff {entries : List (String × List String)}
    (hmap : (entries.map Prod.fst).Nodup) (key x : String) :
  (∃ entry ∈ entries, entry.1 = key ∧ x ∈ entry.2) ↔ x ∈ (entries.lookup key).getD []
  := by
  constructor
  · rintro ⟨⟨key, xs⟩, hentry, rfl, hx⟩
    rw [(Table.lookup_eq_some_iff_mem hmap key xs).mpr hentry]
    apply hx
  · intro hx
    cases hlookup : entries.lookup key with
    | none =>
        rw [hlookup] at hx
        cases hx
    | some xs =>
        rw [hlookup] at hx
        exact ⟨(key, xs), (Table.lookup_eq_some_iff_mem hmap key xs).mp hlookup, rfl, hx⟩

theorem mem_nodesOfGateway_iff {info : GatewayInfo} (hmap : info.IsMap) (groupID : String)
    (response : Json) (node : String) :
  node ∈ nodesOfGateway groupID (peerToJson info response) ↔ node ∈ info.nodesOf groupID
  := by
  have hfind : (peerToJson info response).find "groupNodeIDInfo"
      = some (.array (info.nodeIDInfo.map groupNodesToJson)) := by
    simp [peerToJson, Json.arrayOf]
  rw [nodesOfGateway, hfind, GatewayInfo.nodesOf, ← exists_mem_entry_iff hmap]
  simp [mem_nodesOfItem_iff]

/-- The result of `getPeers` when no peer is null. -/
def infosToJson (localP2pInfo : Option GatewayInfo) (peersInfo : Option (List GatewayInfo)) :
    Json :=
  let response := (localP2pInfo.map fun info => peerToJson info .null).getD .null
  match peersInfo with
  | none => response
  | some peers => response.set "peers" (Json.arrayOf (fun peer => peerToJson peer .null) peers)

theorem gatewayInfoToJson_present (localP2pInfo : Option GatewayInfo)
    (peersInfo : Option (List GatewayInfo)) :
  gatewayInfoToJson localP2pInfo (peersInfo.map (List.map some)) .null
    = some (infosToJson localP2pInfo peersInfo)
  := by
  cases peersInfo with
  | none => cases localP2pInfo <;> rfl
  | some peers =>
      simp only [gatewayInfoToJson, Option.map_some, Json.tryArrayOf_map_some, infosToJson]
      cases localP2pInfo <;> rfl

/-- The result of `getPeers` lists the nodes of the infos it is made from. -/
theorem mem_listedNodes_iff {error : Option Error} {localP2pInfo : Option GatewayInfo}
    {peersInfo : Option (List GatewayInfo)}
    (hmap : ∀ info ∈ (PeersAnswer.present error localP2pInfo peersInfo).infos, info.IsMap)
    (groupID node : String) :
  node ∈ listedNodes groupID (infosToJson localP2pInfo peersInfo)
    ↔ ∃ info ∈ (PeersAnswer.present error localP2pInfo peersInfo).infos,
      node ∈ info.nodesOf groupID
  := by
  simp only [PeersAnswer.mem_infos_present_iff] at hmap ⊢
  have hown : node ∈ nodesOfGateway groupID (infosToJson localP2pInfo peersInfo)
      ↔ ∃ info, localP2pInfo = some info ∧ node ∈ info.nodesOf groupID := by
    have hfind : nodesOfGateway groupID (infosToJson localP2pInfo peersInfo)
        = nodesOfGateway groupID (infosToJson localP2pInfo none) := by
      cases peersInfo with
      | none => rfl
      | some peers => simp [nodesOfGateway, infosToJson]
    rw [hfind]
    cases localP2pInfo with
    | none => simp [infosToJson, nodesOfGateway]
    | some info =>
        simp only [infosToJson, Option.map_some, Option.getD_some,
          mem_nodesOfGateway_iff (hmap info (Or.inr rfl))]
        simp
  have hpeer : node ∈ (match (infosToJson localP2pInfo peersInfo).find "peers" with
        | some (.array peers) => peers.flatMap (nodesOfGateway groupID)
        | _ => [])
      ↔ ∃ info ∈ peersInfo.getD [], node ∈ info.nodesOf groupID := by
    cases peersInfo with
    | none => cases localP2pInfo <;> simp [infosToJson, peerToJson]
    | some peers =>
        simp only [infosToJson, Json.find_set, if_true, Json.arrayOf, Option.getD_some,
          List.flatMap_map, List.mem_flatMap]
        constructor
        · rintro ⟨info, hinfo, hnode⟩
          exact ⟨info, hinfo, (mem_nodesOfGateway_iff (hmap info (Or.inl hinfo)) _ _ _).mp hnode⟩
        · rintro ⟨info, hinfo, hnode⟩
          exact ⟨info, hinfo, (mem_nodesOfGateway_iff (hmap info (Or.inl hinfo)) _ _ _).mpr hnode⟩
  rw [listedNodes, List.mem_append, hown, hpeer]
  simp only [or_and_right, exists_or]
  apply or_comm

/-! ### Agreement -/

/-- A response to `getGroupPeers` agrees with one to `getPeers`: both report an error or neither
does, and else the first one lists exactly the nodes of the group the second one lists, each
once and in order. -/
structure AgreesWith (groupID : String) (groupResponse response : Json) : Prop where
  error : (groupResponse.find "error").isSome = (response.find "error").isSome
  sorted : response.find "error" = none →
    (((groupResponse.find "result").getD .null).strings).Pairwise (· < ·)
  nodes : response.find "error" = none → ∀ node,
    node ∈ ((groupResponse.find "result").getD .null).strings
      ↔ node ∈ listedNodes groupID ((response.find "result").getD .null)

namespace JsonRpcImpl_2_0

/-- Whenever `getPeers` responds, `getGroupPeers` returns, and responds once and in agreement. -/
def GroupPeersAgree (w : World) (groupID : String) : Prop :=
  ∀ jsonrpc id, let response : JsonResponse := { jsonrpc := jsonrpc, id := id }
    ∀ r ∈ responses (getPeers w response.respond).trace,
      (getGroupPeers w groupID response.respond).outcome = .ok ()
        ∧ ∃ r', responses (getGroupPeers w groupID response.respond).trace = [r']
          ∧ AgreesWith groupID r' r

/-- The answer has an error, or a null peer, at which `getPeers` ends without a response, or it has
no error object and no part is missing, or its error object reports success and no node of the
group is known. -/
inductive Agreeable (answer : PeersAnswer) (groupID : String) : Prop where
  | failed : Error.failed answer.1 = true → Agreeable answer groupID
  | nullPeer : Error.failed answer.1 = false → answer.NullPeer → Agreeable answer groupID
  | complete : answer.1 = none → answer.2.1.isSome = true → answer.2.2.isSome = true →
      Agreeable answer groupID
  | empty : Error.failed answer.1 = false → answer.1.isSome = true →
      (∀ info ∈ answer.infos, info.nodesOf groupID = []) → Agreeable answer groupID

/-! ### What the methods respond -/

/-- A callback that does not throw decides what a call of a service shows. -/
theorem ask_of_answer {α : Type} {reply : RpcReply α} {answer : Option Error × α}
    (hanswer : reply = .now answer ∨ reply = .later answer)
    {callback : Option Error → α → RpcRun Unit}
    (hcallback : ∀ e, (callback answer.1 answer.2).outcome ≠ .error (.threw e)) :
  (reply.ask callback).outcome = (callback answer.1 answer.2).outcome
    ∧ responses (reply.ask callback).trace = responses (callback answer.1 answer.2).trace
  := by
  obtain rfl | rfl := hanswer
  · exact ⟨rfl, rfl⟩
  · simp only [RpcReply.ask, Reply.invoke, Run.handle, Run.emit_bind]
    cases houtcome : (callback answer.1 answer.2).outcome with
    | ok u => exact ⟨trivial, rfl⟩
    | error stop =>
        cases stop with
        | crashed => exact ⟨trivial, rfl⟩
        | threw e => exact absurd houtcome (hcallback e)

theorem responses_respond_of_failed (response : JsonResponse) {e : Error}
    (hcode : e.errorCode ≠ CommonError.SUCCESS) (result : Json) :
  responses (response.respond (some e) result).trace
    = [toJsonResponse { response with error := ⟨toInt32 e.errorCode, e.errorMessage⟩ }]
  := by
  simp only [JsonResponse.respond, if_pos hcode]
  rfl

theorem responses_respond_of_not_failed (response : JsonResponse) {error : Option Error}
    (herror : Error.failed error = false) (result : Json) :
  responses (response.respond error result).trace
    = [toJsonResponse { response with result := result }]
  := by
  cases error with
  | none => rfl
  | some e =>
      simp only [Error.failed, bne_eq_false_iff_eq] at herror
      simp only [JsonResponse.respond, if_neg (not_not_intro herror)]
      rfl

theorem mem_groupNodeIDs_iff (groupID node : String) (infos : List GatewayInfo) :
  node ∈ groupNodeIDs groupID infos ↔ ∃ info ∈ infos, node ∈ info.nodesOf groupID
  := by
  simp [groupNodeIDs, GatewayInfo.nodesOf, Std.ExtTreeSet.mem_ofList]

theorem pairwise_toList (nodes : Std.ExtTreeSet String) :
  nodes.toList.Pairwise (· < ·)
  := by
  apply (Std.ExtTreeSet.ordered_toList (t := nodes)).imp
  intro a b hab
  apply compareOfLessAndEq_eq_lt.mp hab

variable {w : World} {answer : PeersAnswer}

/-- What `getPeers` responds when the answer can be converted. -/
theorem responses_getPeers
    (hanswer : w.asyncGetPeers = .now answer ∨ w.asyncGetPeers = .later answer) {result : Json}
    (hresult : unlessFailed .null (fun answer => gatewayInfoToJson answer.1 answer.2 .null)
      answer.1 answer.2 = some result) (response : JsonResponse) :
  responses (getPeers w response.respond).trace
    = responses (response.respond answer.1 result).trace
  := by
  rw [getPeers, (ask_of_answer hanswer _).2, hresult]
  · rfl
  · rw [hresult]
    intro e h
    cases h

/-- A null peer in an answer without an error. -/
theorem responses_getPeers_of_nullPeer
    (hanswer : w.asyncGetPeers = .now answer ∨ w.asyncGetPeers = .later answer)
    (herror : Error.failed answer.1 = false) (hnull : answer.NullPeer)
    (response : JsonResponse) :
  responses (getPeers w response.respond).trace = []
  := by
  have hresult : unlessFailed .null (fun answer : Option GatewayInfo × Option (List _) =>
      gatewayInfoToJson answer.1 answer.2 .null) answer.1 answer.2 = none := by
    rw [unlessFailed, herror, if_neg Bool.false_ne_true, ← Option.not_isSome_iff_eq_none,
      isSome_gatewayInfoToJson_iff]
    intro h
    obtain ⟨peers, hpeers, hmem⟩ := hnull
    apply h peers hpeers hmem
  rw [getPeers, (ask_of_answer hanswer _).2, hresult]
  · rfl
  · rw [hresult]
    intro e h
    cases h

/-- An error object that is passed on without a look at the rest. -/
theorem getGroupPeers_of_isSome
    (hanswer : w.asyncGetPeers = .now answer ∨ w.asyncGetPeers = .later answer)
    (herror : answer.1.isSome = true) (groupID : String) (response : JsonResponse) :
  (getGroupPeers w groupID response.respond).outcome = .ok ()
    ∧ responses (getGroupPeers w groupID response.respond).trace
      = responses (response.respond answer.1 .null).trace
  := by
  rw [getGroupPeers, (ask_of_answer hanswer _).1, (ask_of_answer hanswer _).2, if_pos herror]
  · exact ⟨rfl, rfl⟩
  all_goals
    intro e h
    rw [if_pos herror] at h
    cases h

/-- A missing part of an answer without an error object. -/
theorem getGroupPeers_of_missing
    (hanswer : w.asyncGetPeers = .now answer ∨ w.asyncGetPeers = .later answer)
    (herror : answer.1 = none) (hmissing : answer.2.1 = none ∨ answer.2.2 = none)
    (groupID : String) (response : JsonResponse) :
  (getGroupPeers w groupID response.respond).outcome = .error .crashed
  := by
  obtain ⟨error, localP2pInfo, peersInfo⟩ := answer
  cases herror
  have hcrash : (do
      let peersInfo ← Run.deref peersInfo
      let jResp ← Run.deref (groupPeersToJson groupID localP2pInfo peersInfo)
      response.respond none jResp : RpcRun Unit).outcome = .error .crashed := by
    cases peersInfo with
    | none => rfl
    | some peers =>
        obtain rfl := hmissing.resolve_right (by simp)
        have hnone : groupPeersToJson groupID none peers = none := by
          rw [← Option.not_isSome_iff_eq_none, groupPeersToJson, Option.isSome_map,
            Pointers.isSome_mapM_id_iff, not_not]
          apply List.mem_concat_self
        change (Run.deref (groupPeersToJson groupID none peers) >>= response.respond none).outcome
          = _
        rw [hnone]
        rfl
  rw [getGroupPeers, (ask_of_answer hanswer _).1]
  · apply hcrash
  · intro e h
    cases hcrash.symm.trans h

/-- Infos that are not null are listed with the nodes of the group, each once and in order. -/
theorem groupPeersToJson_map_some (groupID : String) (localP2pInfo : GatewayInfo)
    (peersInfo : List GatewayInfo) :
  ∃ result, result.strings = (groupNodeIDs groupID (peersInfo ++ [localP2pInfo])).toList
    ∧ groupPeersToJson groupID (some localP2pInfo) (peersInfo.map some) = some result
  := by
  have hinfos : (peersInfo.map some ++ [some localP2pInfo]).mapM id
      = some (peersInfo ++ [localP2pInfo]) := by
    rw [← List.map_singleton, ← List.map_append, Pointers.mapM_id_map_some]
  rw [groupPeersToJson, hinfos]
  refine ⟨_, ?_, rfl⟩
  dsimp only
  split
  · rename_i hempty
    apply (List.isEmpty_iff.mp hempty).symm
  · apply Json.strings_array_map

/-- A complete answer without an error object and without a null peer. -/
theorem getGroupPeers_of_complete {localP2pInfo : GatewayInfo} {peersInfo : List GatewayInfo}
    (hanswer :
      w.asyncGetPeers = .now (PeersAnswer.present none (some localP2pInfo) (some peersInfo))
        ∨ w.asyncGetPeers = .later (PeersAnswer.present none (some localP2pInfo) (some peersInfo)))
    (groupID : String) (response : JsonResponse) :
  ∃ result, result.strings = (groupNodeIDs groupID (peersInfo ++ [localP2pInfo])).toList
    ∧ (getGroupPeers w groupID response.respond).outcome = .ok ()
    ∧ responses (getGroupPeers w groupID response.respond).trace
      = [toJsonResponse { response with result := result }]
  := by
  obtain ⟨result, hstrings, hresult⟩ := groupPeersToJson_map_some groupID localP2pInfo peersInfo
  have hcallback : (do
      let peersInfo ← Run.deref (some (peersInfo.map some))
      let jResp ← Run.deref (groupPeersToJson groupID (some localP2pInfo) peersInfo)
      response.respond none jResp : RpcRun Unit) = response.respond none result := by
    change (Run.deref (groupPeersToJson groupID (some localP2pInfo) (peersInfo.map some))
      >>= response.respond none) = _
    rw [hresult]
    rfl
  use result, hstrings
  rw [getGroupPeers, (ask_of_answer hanswer _).1, (ask_of_answer hanswer _).2]
  · exact ⟨congrArg Run.outcome hcallback, congrArg (fun m => responses (Run.trace m)) hcallback⟩
  all_goals
    intro e h
    cases (congrArg Run.outcome hcallback).symm.trans h

/-- A response agrees with itself when it has no result that lists nodes. -/
theorem agreesWith_self {groupID : String} {response : JsonResponse}
    (hresult : response.result = .null) :
  AgreesWith groupID (toJsonResponse response) (toJsonResponse response)
  := by
  have hnull : ((toJsonResponse response).find "result").getD .null = .null := by
    rw [toJsonResponse]
    split <;> simp [hresult]
  constructor
  · rfl
  · intro _
    rw [hnull]
    apply List.Pairwise.nil
  · intro _ node
    rw [hnull]
    rfl

/-- Two results agree when one lists the nodes of the other, in order. -/
theorem agreesWith_result_iff (groupID jsonrpc : String) (id : Int) (groupResult result : Json) :
  AgreesWith groupID
      (toJsonResponse { jsonrpc := jsonrpc, id := id, result := groupResult })
      (toJsonResponse { jsonrpc := jsonrpc, id := id, result := result })
    ↔ groupResult.strings.Pairwise (· < ·)
      ∧ ∀ node, node ∈ groupResult.strings ↔ node ∈ listedNodes groupID result
  := by
  have herror : ∀ x, (toJsonResponse { jsonrpc := jsonrpc, id := id, result := x }).find "error"
      = none := by
    intro x
    simp [toJsonResponse]
  have hresult : ∀ x, (toJsonResponse { jsonrpc := jsonrpc, id := id, result := x }).find "result"
      = some x := by
    intro x
    simp [toJsonResponse]
  constructor
  · rintro ⟨_, hsorted, hnodes⟩
    rw [hresult] at hsorted
    rw [hresult, hresult] at hnodes
    exact ⟨hsorted (herror _), hnodes (herror _)⟩
  · rintro ⟨hsorted, hnodes⟩
    constructor
    · rw [herror, herror]
    · intro _
      rw [hresult]
      apply hsorted
    · intro _
      rw [hresult, hresult]
      apply hnodes

theorem responses_getPeers_of_not_failed {error : Option Error}
    {localP2pInfo : Option GatewayInfo} {peersInfo : Option (List GatewayInfo)}
    (hanswer : w.asyncGetPeers = .now (PeersAnswer.present error localP2pInfo peersInfo)
      ∨ w.asyncGetPeers = .later (PeersAnswer.present error localP2pInfo peersInfo))
    (herror : Error.failed error = false) (response : JsonResponse) :
  responses (getPeers w response.respond).trace
    = [toJsonResponse { response with result := infosToJson localP2pInfo peersInfo }]
  := by
  have hresult : unlessFailed .null (fun answer : Option GatewayInfo × Option (List _) =>
      gatewayInfoToJson answer.1 answer.2 .null) error
        (localP2pInfo, peersInfo.map (List.map some))
      = some (infosToJson localP2pInfo peersInfo) := by
    rw [unlessFailed, herror, if_neg Bool.false_ne_true, gatewayInfoToJson_present]
  rw [responses_getPeers hanswer hresult]
  apply responses_respond_of_not_failed _ herror

/-! ### Agreement, answer by answer -/

/-- An error is passed on by both. -/
theorem groupPeersAgree_of_failed
    (hanswer : w.asyncGetPeers = .now answer ∨ w.asyncGetPeers = .later answer)
    (herror : Error.failed answer.1 = true) (groupID : String) :
  GroupPeersAgree w groupID
  := by
  obtain ⟨e, he, hcode⟩ := Error.failed_eq_true_iff.mp herror
  intro jsonrpc id response r hr
  obtain ⟨houtcome, hresponses⟩ :=
    getGroupPeers_of_isSome hanswer (by rw [he]; rfl) groupID response
  rw [he, responses_respond_of_failed _ hcode] at hresponses
  have hresult : unlessFailed .null (fun answer : Option GatewayInfo × Option (List _) =>
      gatewayInfoToJson answer.1 answer.2 .null) answer.1 answer.2 = some .null := by
    rw [unlessFailed, if_pos herror]
  rw [responses_getPeers hanswer hresult, he, responses_respond_of_failed _ hcode] at hr
  obtain rfl := List.mem_singleton.mp hr
  exact ⟨houtcome, _, hresponses, agreesWith_self rfl⟩

/-- At a null peer `getPeers` ends without a response. -/
theorem groupPeersAgree_of_nullPeer
    (hanswer : w.asyncGetPeers = .now answer ∨ w.asyncGetPeers = .later answer)
    (herror : Error.failed answer.1 = false) (hnull : answer.NullPeer) (groupID : String) :
  GroupPeersAgree w groupID
  := by
  intro jsonrpc id response r hr
  rw [responses_getPeers_of_nullPeer hanswer herror hnull] at hr
  cases hr

section

variable {error : Option Error} {localP2pInfo : Option GatewayInfo}
  {peersInfo : Option (List GatewayInfo)}

/-- When the error object reports success, no result is made for the group. -/
theorem groupPeersAgree_iff_of_success
    (hanswer : w.asyncGetPeers = .now (PeersAnswer.present error localP2pInfo peersInfo)
      ∨ w.asyncGetPeers = .later (PeersAnswer.present error localP2pInfo peersInfo))
    (hmap : ∀ info ∈ (PeersAnswer.present error localP2pInfo peersInfo).infos, info.IsMap)
    (herror : Error.failed error = false) (hsome : error.isSome = true) (groupID : String) :
  GroupPeersAgree w groupID
    ↔ ∀ info ∈ (PeersAnswer.present error localP2pInfo peersInfo).infos,
      info.nodesOf groupID = []
  := by
  have hgroup := getGroupPeers_of_isSome hanswer hsome groupID
  have hnull : ∀ response : JsonResponse,
      responses (getGroupPeers w groupID response.respond).trace
        = [toJsonResponse { response with result := .null }] := by
    intro response
    rw [(hgroup response).2]
    apply responses_respond_of_not_failed _ herror
  have hpeers := responses_getPeers_of_not_failed hanswer herror
  have hempty : (∀ node, node ∈ Json.null.strings
        ↔ node ∈ listedNodes groupID (infosToJson localP2pInfo peersInfo))
      ↔ ∀ info ∈ (PeersAnswer.present error localP2pInfo peersInfo).infos,
        info.nodesOf groupID = [] := by
    simp only [mem_listedNodes_iff hmap, Json.strings, List.not_mem_nil, false_iff,
      List.eq_nil_iff_forall_not_mem]
    constructor
    · intro h info hinfo node hnode
      apply h node ⟨info, hinfo, hnode⟩
    · rintro h node ⟨info, hinfo, hnode⟩
      apply h info hinfo node hnode
  rw [← hempty]
  constructor
  · intro h
    obtain ⟨_, r', hr', hagrees⟩ := h "" 0 _ (by rw [hpeers]; exact List.mem_singleton_self _)
    rw [hnull] at hr'
    obtain rfl := List.singleton_inj.mp hr'
    apply ((agreesWith_result_iff groupID "" 0 _ _).mp hagrees).2
  · intro h jsonrpc id response r hr
    rw [hpeers] at hr
    obtain rfl := List.mem_singleton.mp hr
    refine ⟨(hgroup response).1, _, hnull response, ?_⟩
    apply (agreesWith_result_iff groupID jsonrpc id _ _).mpr
    exact ⟨List.Pairwise.nil, h⟩

/-- A complete answer is listed by both. -/
theorem groupPeersAgree_of_complete {localP2pInfo : GatewayInfo} {peersInfo : List GatewayInfo}
    (hanswer :
      w.asyncGetPeers = .now (PeersAnswer.present none (some localP2pInfo) (some peersInfo))
        ∨ w.asyncGetPeers = .later (PeersAnswer.present none (some localP2pInfo) (some peersInfo)))
    (hmap : ∀ info ∈ (PeersAnswer.present none (some localP2pInfo) (some peersInfo)).infos,
      info.IsMap) (groupID : String) :
  GroupPeersAgree w groupID
  := by
  intro jsonrpc id response r hr
  obtain ⟨result, hresult, houtcome, hresponses⟩ :=
    getGroupPeers_of_complete hanswer groupID response
  rw [responses_getPeers_of_not_failed hanswer rfl] at hr
  obtain rfl := List.mem_singleton.mp hr
  refine ⟨houtcome, _, hresponses, ?_⟩
  apply (agreesWith_result_iff groupID jsonrpc id _ _).mpr
  rw [hresult]
  use pairwise_toList _
  intro node
  rw [mem_listedNodes_iff hmap, Std.ExtTreeSet.mem_toList, mem_groupNodeIDs_iff]
  simp only [PeersAnswer.mem_infos_present_iff, Option.getD_some, Option.some.injEq,
    List.mem_append, List.mem_singleton, eq_comm]

/-- Where a part is missing, `getPeers` responds and `getGroupPeers` does not return. -/
theorem not_groupPeersAgree_of_missing
    (hanswer : w.asyncGetPeers = .now (PeersAnswer.present none localP2pInfo peersInfo)
      ∨ w.asyncGetPeers = .later (PeersAnswer.present none localP2pInfo peersInfo))
    (hmissing : localP2pInfo = none ∨ peersInfo = none) (groupID : String) :
  ¬ GroupPeersAgree w groupID
  := by
  intro h
  obtain ⟨houtcome, _⟩ := h "" 0 _ (by
    rw [responses_getPeers_of_not_failed hanswer rfl]
    apply List.mem_singleton_self _)
  have hmissing' : (PeersAnswer.present none localP2pInfo peersInfo).2.1 = none
      ∨ (PeersAnswer.present none localP2pInfo peersInfo).2.2 = none := by
    apply hmissing.imp_right
    rintro rfl
    rfl
  rw [getGroupPeers_of_missing hanswer rfl hmissing'] at houtcome
  cases houtcome

/-- On an answer without an error and without a null peer. -/
theorem groupPeersAgree_iff_of_present
    (hanswer : w.asyncGetPeers = .now (PeersAnswer.present error localP2pInfo peersInfo)
      ∨ w.asyncGetPeers = .later (PeersAnswer.present error localP2pInfo peersInfo))
    (hmap : ∀ info ∈ (PeersAnswer.present error localP2pInfo peersInfo).infos, info.IsMap)
    (herror : Error.failed error = false) (groupID : String) :
  GroupPeersAgree w groupID
    ↔ (error = none ∧ localP2pInfo.isSome = true ∧ peersInfo.isSome = true)
      ∨ (error.isSome = true
        ∧ ∀ info ∈ (PeersAnswer.present error localP2pInfo peersInfo).infos,
          info.nodesOf groupID = [])
  := by
  cases error with
  | some e =>
      rw [groupPeersAgree_iff_of_success hanswer hmap herror rfl]
      simp
  | none =>
      by_cases hcomplete : localP2pInfo.isSome = true ∧ peersInfo.isSome = true
      · apply iff_of_true
        · obtain ⟨own, rfl⟩ := Option.isSome_iff_exists.mp hcomplete.1
          obtain ⟨peers, rfl⟩ := Option.isSome_iff_exists.mp hcomplete.2
          apply groupPeersAgree_of_complete hanswer hmap
        · exact Or.inl ⟨rfl, hcomplete⟩
      · apply iff_of_false
        · apply not_groupPeersAgree_of_missing hanswer
          simpa only [not_and_or, Option.not_isSome_iff_eq_none] using hcomplete
        · rintro (⟨_, h⟩ | ⟨h, _⟩)
          · apply hcomplete h
          · cases h

end

/-- On an answer of the gateway the two methods agree exactly when it is agreeable. -/
theorem groupPeersAgree_iff
    (hanswer : w.asyncGetPeers = .now answer ∨ w.asyncGetPeers = .later answer)
    (hmap : ∀ info ∈ answer.infos, info.IsMap) (groupID : String) :
  GroupPeersAgree w groupID ↔ Agreeable answer groupID
  := by
  cases herror : Error.failed answer.1 with
  | true =>
      apply iff_of_true
      · apply groupPeersAgree_of_failed hanswer herror
      · apply Agreeable.failed herror
  | false =>
      by_cases hnull : answer.NullPeer
      · apply iff_of_true
        · apply groupPeersAgree_of_nullPeer hanswer herror hnull
        · apply Agreeable.nullPeer herror hnull
      · obtain ⟨peersInfo, heq⟩ := PeersAnswer.exists_eq_present hnull
        have hpeers : answer.2.2.isSome = peersInfo.isSome := by
          rw [heq]
          apply Option.isSome_map
        rw [heq] at hanswer hmap
        rw [groupPeersAgree_iff_of_present hanswer hmap herror]
        rw [← heq]
        constructor
        · rintro (⟨hnone, hlocal, hsome⟩ | ⟨hsome, hempty⟩)
          · apply Agreeable.complete hnone hlocal (hpeers.trans hsome)
          · apply Agreeable.empty herror hsome hempty
        · rintro (hfailed | ⟨_, h⟩ | ⟨hnone, hlocal, hsome⟩ | ⟨_, hsome, hempty⟩)
          · cases herror.symm.trans hfailed
          · apply absurd h hnull
          · exact Or.inl ⟨hnone, hlocal, hpeers.symm.trans hsome⟩
          · exact Or.inr ⟨hsome, hempty⟩

/-! ### Two answers -/

/-- A gateway with a node of one group. -/
def ownInfo : GatewayInfo where
  p2pID := "p2p"
  address := "127.0.0.1"
  port := 30300
  nodeIDInfo := [("group", ["node"])]

theorem isMap_ownInfo : ownInfo.IsMap := List.pairwise_singleton _ _

/-- A peer of this gateway, with this node and another one of the group. -/
def peerInfo : GatewayInfo where
  p2pID := "peer"
  address := "127.0.0.1"
  port := 30301
  nodeIDInfo := [("group", ["node", "other"]), ("other", ["node"])]

theorem groupPeersAgree_iff_peerInfo :
  GroupPeersAgree { asyncGetPeers := .now (none, some ownInfo, some [some peerInfo]) } "group"
    ↔ Agreeable (none, some ownInfo, some [some peerInfo]) "group"
  := by
  apply groupPeersAgree_iff (.inl rfl)
  intro info hinfo
  rcases List.mem_pair.mp hinfo with rfl | rfl
  · rw [GatewayInfo.IsMap]
    decide
  · apply isMap_ownInfo

/-- Without a list of peers the gateway's own nodes are still listed by `getPeers`. -/
theorem groupPeersAgree_counterexample :
  ¬ ∀ (w : World) (answer : PeersAnswer) (groupID : String),
    w.asyncGetPeers = .now answer ∨ w.asyncGetPeers = .later answer →
    (∀ info ∈ answer.infos, info.IsMap) → GroupPeersAgree w groupID
  := by
  intro h
  have hagree := h { asyncGetPeers := .now (none, some ownInfo, none) } _ "group" (.inl rfl)
    (by
      intro info hinfo
      obtain rfl := List.mem_singleton.mp hinfo
      apply isMap_ownInfo)
  obtain ⟨houtcome, _⟩ := hagree "2.0" 1 _ (List.mem_singleton_self _)
  cases houtcome

end JsonRpcImpl_2_0
