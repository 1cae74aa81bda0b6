import BcosRpc.JsonRpc.Peers

/-!
# A block read by its number and by its hash

A client reads a block by its number or by its hash, the hash by the number, and the transactions
of the block and their receipts one by one. Every request, and every query of a request, may meet
another node. `JsonRpcImpl_2_0.reads_agree` says that the answers fit together as long as the
nodes have the block, whatever else they have.
-/

/-- A block with the receipts of its transactions, which record its number. -/
structure StoredBlock where
  header : BlockHeader
  entries : List (Transaction × TransactionReceipt)
  isInt64_number : IsInt64 header.number
  blockNumber_eq : ∀ entry ∈ entries, entry.2.blockNumber = header.number

namespace StoredBlock

/-- The hashes that the block and its transactions are looked up by. -/
def hashes (block : StoredBlock) : List HashType :=
  block.header.hash :: block.entries.map fun entry => entry.1.hash

theorem hash_mem_hashes (block : StoredBlock) {entry : Transaction × TransactionReceipt}
    (h : entry ∈ block.entries) :
  entry.1.hash ∈ block.hashes
  := by
  apply List.mem_cons_of_mem
  apply List.mem_map_of_mem (f := fun entry => entry.1.hash) h

/-- The transactions of the block. -/
def transactions (block : StoredBlock) : List (Option Transaction) :=
  block.entries.map fun entry => some entry.1

/-- The block as it is answered, with or without its transactions. -/
def view (block : StoredBlock) (onlyHeader onlyTxHash : Bool) : Json :=
  (JsonRpcImpl_2_0.blockToJson onlyHeader onlyTxHash
    (some ⟨some block.header, block.transactions⟩)).getD .null

end StoredBlock

/-- A service answers with a value, and without an error. -/
def RpcReply.Gives {α : Type} (reply : RpcReply α) (a : α) : Prop :=
  ∃ error, Error.failed error = false ∧ (reply = .now (error, a) ∨ reply = .later (error, a))

/-- A ledger that has a block answers the queries about it. A block may come with parts that were
not asked for, and a transaction or a receipt with a proof. -/
structure LedgerInterface.Holds (ledger : LedgerInterface) (block : StoredBlock) : Prop where
  hash : (ledger.asyncGetBlockHashByNumber block.header.number).Gives block.header.hash
  number : (ledger.asyncGetBlockNumberByHash block.header.hash).Gives block.header.number
  data : ∀ transactions, ∃ b : BlockData,
    (ledger.asyncGetBlockDataByNumber block.header.number transactions).Gives (some b)
      ∧ b.blockHeader = some block.header
      ∧ (transactions = true → b.transactions = block.transactions)
  transaction : ∀ entry ∈ block.entries, ∀ requireProof, ∃ proofs,
    (ledger.asyncGetBatchTxsByHashList [entry.1.hash] requireProof).Gives
      (some [some entry.1], proofs)
  receipt : ∀ entry ∈ block.entries, ∀ requireProof, ∃ proof,
    (ledger.asyncGetTransactionReceiptByHash entry.1.hash requireProof).Gives
      (some entry.2, proof)

/-- The service of a node has a ledger with the block. -/
def World.Holds (w : World) (groupID nodeName : String) (block : StoredBlock) : Prop :=
  ∃ nodeService ledger, w.getNodeService groupID nodeName = some nodeService
    ∧ nodeService.ledger = some ledger ∧ ledger.Holds block

/-- Two values have the same members but for one key. -/
def Json.SameBut (key : String) (j j' : Json) : Prop :=
  ∀ key', key' ≠ key → j'.find key' = j.find key'

namespace JsonRpcImpl_2_0

open Json

/-- Every request with a method and parameters is answered once, with a result that has a
property. -/
def Reads (framework : Framework) (W : World → Prop) (method : String) (params : List Json)
    (P : Json → Prop) : Prop :=
  ∀ requestBody request, parseRpcRequestJson framework requestBody = .ok request →
    request.method = method → request.params = .array params →
    ∀ w₁ w₂, W w₁ → W w₂ → ∀ uninitialized, ∃ result, P result
      ∧ responses (onRPCRequest framework w₁ w₂ uninitialized requestBody).trace
        = [toJsonResponse { jsonrpc := request.jsonrpc, id := request.id, result := result }]

/-- A receipt as it is answered for a transaction `t` of a block. -/
structure ReceiptOf (number : Int) (t receipt : Json) : Prop where
  transactionHash : receipt.find "transactionHash" = t.find "hash"
  blockNumber : receipt.find "blockNumber" = some (integer number)
  input : receipt.find "input" = t.find "input"
  sender : receipt.find "from" = t.find "from"
  receiver : receipt.find "to" = t.find "to"

/-- What a client reads of a block fits together: `hash`, `view` and `transactions` are the hash,
the block and its transactions as they are answered. -/
structure ReadsAgree (framework : Framework) (W : World → Prop) (groupID nodeName : String)
    (number : Int) (hash : Json) (view : Bool → Bool → Json) (transactions : List Json) :
    Prop where
  hashByNumber : Reads framework W "getBlockHashByNumber"
    [string groupID, string nodeName, integer number] (· = hash)
  byNumber : ∀ onlyHeader onlyTxHash, Reads framework W "getBlockByNumber"
    [string groupID, string nodeName, integer number, boolean onlyHeader, boolean onlyTxHash]
    (· = view onlyHeader onlyTxHash)
  byHash : ∀ onlyHeader onlyTxHash, Reads framework W "getBlockByHash"
    [string groupID, string nodeName, hash, boolean onlyHeader, boolean onlyTxHash]
    (· = view onlyHeader onlyTxHash)
  names : ∀ onlyHeader onlyTxHash, (view onlyHeader onlyTxHash).find "hash" = some hash
    ∧ (view onlyHeader onlyTxHash).find "number" = some (integer number)
  sameHeader : ∀ onlyHeader onlyTxHash onlyHeader' onlyTxHash',
    SameBut "transactions" (view onlyHeader onlyTxHash) (view onlyHeader' onlyTxHash')
  listed : (view false false).find "transactions" = some (.array transactions)
  listedHashes : (view false true).find "transactions"
    = some (.array (transactions.map (memberD "hash")))
  transaction : ∀ t ∈ transactions, ∀ requireProof, Reads framework W "getTransaction"
    [string groupID, string nodeName, t.memberD "hash", boolean requireProof]
    (SameBut "transactionProof" t)
  receipt : ∀ t ∈ transactions, ∀ requireProof, Reads framework W "getTransactionReceipt"
    [string groupID, string nodeName, t.memberD "hash", boolean requireProof]
    (ReceiptOf number t)

/-! ### Runs that end with one result -/

section

variable {framework : Framework} {response : JsonResponse} {P : Json → Prop}

/-- A run that sends one response, with a result that has a property. -/
def Gives (response : JsonResponse) (P : Json → Prop) (m : RpcRun Unit) : Prop :=
  m.outcome = .ok () ∧ ∃ result, P result
    ∧ responses m.trace = [toJsonResponse { response with result := result }]

theorem gives_respond {error : Option Error} (herror : Error.failed error = false) {result : Json}
    (h : P result) :
  Gives response P (response.respond error result)
  := by
  constructor
  · rfl
  · use result, h
    apply responses_respond_of_not_failed response herror

theorem gives_orThrow_bind {α : Type} {x : Except String α} {a : α} (hx : x = .ok a)
    {f : α → RpcRun Unit} (h : Gives response P (f a)) :
  Gives response P (orThrow x >>= f)
  := by
  rw [hx]
  apply h

theorem gives_deref_bind {α : Type} {o : Option α} {a : α} (ho : o = some a)
    {f : α → RpcRun Unit} (h : Gives response P (f a)) :
  Gives response P (Run.deref o >>= f)
  := by
  rw [ho]
  apply h

theorem gives_ask {α : Type} {reply : RpcReply α} {a : α} (hreply : reply.Gives a)
    {callback : Option Error → α → RpcRun Unit}
    (h : ∀ error, Error.failed error = false → Gives response P (callback error a)) :
  Gives response P (reply.ask callback)
  := by
  obtain ⟨error, herror, hanswer⟩ := hreply
  obtain ⟨houtcome, hresult⟩ := h error herror
  have hcallback : ∀ e, (callback error a).outcome ≠ .error (.threw e) := by
    intro e heq
    rw [houtcome] at heq
    cases heq
  obtain ⟨houtcome', hresponses⟩ := ask_of_answer hanswer hcallback
  constructor
  · rw [houtcome', houtcome]
  · rw [hresponses]
    apply hresult

/-- The ledger of a node that has a block. -/
theorem gives_ledger_bind {w : World} {groupID nodeName : String} {block : StoredBlock}
    (hw : w.Holds groupID nodeName block) {command : String}
    {f : NodeService → LedgerInterface → RpcRun Unit}
    (h : ∀ nodeService ledger, ledger.Holds block → Gives response P (f nodeService ledger)) :
  Gives response P (getNodeService framework w groupID nodeName command >>= fun nodeService =>
    checkService nodeService.ledger "ledger" >>= fun ledger => f nodeService ledger)
  := by
  obtain ⟨nodeService, ledger, hservice, hledger, hholds⟩ := hw
  rw [getNodeService, hservice]
  change Gives response P (checkService nodeService.ledger "ledger" >>= _)
  rw [checkService, hledger]
  apply h nodeService ledger hholds

/-- A request is answered as its method ends. -/
theorem reads_of_gives {W : World → Prop} {name : String} {params : List Json}
    {method : World → World → Json → RespFunc → RpcRun Unit}
    (hlookup : ∀ w₁ w₂, (methodToFunc framework w₁ w₂).lookup name = some (method w₁ w₂))
    (h : ∀ w₁ w₂, W w₁ → W w₂ → ∀ response : JsonResponse,
      Gives response P (method w₁ w₂ (.array params) response.respond)) :
  Reads framework W name params P
  := by
  intro requestBody request hparse hmethod hparams w₁ w₂ hw₁ hw₂ uninitialized
  obtain ⟨houtcome, result, hresult, hresponses⟩ := h w₁ w₂ hw₁ hw₂
    { jsonrpc := request.jsonrpc, id := request.id }
  use result, hresult
  rw [← hresponses]
  simp only [onRPCRequest, hparse, dispatch, hmethod, hlookup, hparams]
  simp only [Run.handle, houtcome]

/-! ### The methods -/

theorem find_addProofToResponse {key key' : String} (hkey : key' ≠ key)
    (merkleProof : Option MerkleProof) (jResp : Json) :
  (addProofToResponse key merkleProof jResp).find key' = jResp.find key'
  := by
  unfold addProofToResponse
  split
  · rfl
  · rfl
  · rw [find_set, if_neg hkey.symm]

variable {w w₁ w₂ : World} {groupID nodeName : String} {block : StoredBlock}

theorem gives_getBlockHashByNumber (hw : w.Holds groupID nodeName block) :
  Gives response (· = string block.header.hash.hexPrefixed)
    (getBlockHashByNumber framework w groupID nodeName block.header.number response.respond)
  := by
  apply gives_ledger_bind hw
  intro _ ledger hledger
  apply gives_ask hledger.hash
  intro error herror
  apply gives_respond rfl
  rfl

/-- A block is converted with its header, and its transactions unless only the header is asked
for. -/
theorem blockToJson_transactions (block : StoredBlock) (onlyHeader onlyTxHash : Bool) :
  blockToJson onlyHeader onlyTxHash (some ⟨some block.header, block.transactions⟩)
    = some (if onlyHeader then BlockHeader.toJsonResp (some block.header) .null
      else (BlockHeader.toJsonResp (some block.header) .null).set "transactions"
        (arrayOf (BlockData.transactionToJson onlyTxHash) (block.entries.map Prod.fst)))
  := by
  have htransactions : block.transactions = (block.entries.map Prod.fst).map some := by
    rw [List.map_map]
    rfl
  cases onlyHeader with
  | true => rfl
  | false =>
      rw [blockToJson, if_neg Bool.false_ne_true, if_neg Bool.false_ne_true,
        BlockData.toJsonResp, BlockData.map_transaction_range, htransactions, tryArrayOf_map_some]
      rfl

theorem view_eq (block : StoredBlock) (onlyHeader onlyTxHash : Bool) :
  block.view onlyHeader onlyTxHash
    = if onlyHeader then BlockHeader.toJsonResp (some block.header) .null
      else (BlockHeader.toJsonResp (some block.header) .null).set "transactions"
        (arrayOf (BlockData.transactionToJson onlyTxHash) (block.entries.map Prod.fst))
  := by
  rw [StoredBlock.view, blockToJson_transactions, Option.getD_some]

/-- Only the header and the transactions of a block are answered. -/
theorem blockToJson_eq_view {b : BlockData} (hheader : b.blockHeader = some block.header)
    {onlyHeader : Bool}
    (htransactions : (!onlyHeader) = true → b.transactions = block.transactions)
    (onlyTxHash : Bool) :
  blockToJson onlyHeader onlyTxHash (some b) = some (block.view onlyHeader onlyTxHash)
  := by
  obtain ⟨blockHeader, transactions⟩ := b
  cases hheader
  cases onlyHeader with
  | true => rfl
  | false =>
      rw [show transactions = block.transactions from htransactions rfl,
        blockToJson_transactions, view_eq]

theorem gives_getBlockByNumber (hw : w.Holds groupID nodeName block)
    (onlyHeader onlyTxHash : Bool) :
  Gives response (· = block.view onlyHeader onlyTxHash)
    (getBlockByNumber framework w groupID nodeName block.header.number onlyHeader onlyTxHash
      response.respond)
  := by
  apply gives_ledger_bind hw
  intro _ ledger hledger
  obtain ⟨b, hb, hheader, htransactions⟩ := hledger.data !onlyHeader
  apply gives_ask hb
  intro error herror
  apply gives_deref_bind
  · rw [unlessFailed, herror, if_neg Bool.false_ne_true]
    apply blockToJson_eq_view hheader htransactions
  · apply gives_respond herror
    rfl

theorem gives_getBlockByHash (hw₁ : w₁.Holds groupID nodeName block)
    (hw₂ : w₂.Holds groupID nodeName block) {hash : String}
    (hhash : framework.hashType hash = .ok block.header.hash) (onlyHeader onlyTxHash : Bool) :
  Gives response (· = block.view onlyHeader onlyTxHash)
    (getBlockByHash framework w₁ w₂ groupID nodeName hash onlyHeader onlyTxHash response.respond)
  := by
  apply gives_ledger_bind hw₁
  intro _ ledger hledger
  apply gives_orThrow_bind hhash
  apply gives_ask hledger.number
  intro error herror
  rw [herror, if_neg Bool.false_ne_true]
  apply gives_getBlockByNumber hw₂

/-- The callback of a transaction gets the transaction, perhaps with a proof. -/
theorem gives_getTransaction (hw : w.Holds groupID nodeName block)
    {entry : Transaction × TransactionReceipt} (hentry : entry ∈ block.entries) {hash : String}
    (hhash : framework.hashType hash = .ok entry.1.hash) (requireProof : Bool)
    {respFunc : RespFunc}
    (h : ∀ error jTx, Error.failed error = false →
      SameBut "transactionProof" (entry.1.toJsonResp .null) jTx →
      Gives response P (respFunc error jTx)) :
  Gives response P
    (getTransaction framework w groupID nodeName hash requireProof respFunc)
  := by
  apply gives_orThrow_bind hhash
  apply gives_ledger_bind hw
  intro _ ledger hledger
  obtain ⟨proofs, hproofs⟩ := hledger.transaction entry hentry requireProof
  apply gives_ask hproofs
  intro error herror
  rw [herror, if_neg Bool.false_ne_true]
  apply gives_deref_bind rfl
  apply gives_deref_bind rfl
  apply h error _ herror
  intro key hkey
  dsimp only
  split
  · apply find_addProofToResponse hkey
  · rfl

/-- A receipt has the hash that it was asked for with, and members of the transaction. -/
theorem receiptOf_withTransaction {entry : Transaction × TransactionReceipt} {jResp jTx : Json}
    (hjResp : SameBut "receiptProof"
      (entry.2.toJsonResp entry.1.hash.hexPrefixed .null) jResp)
    (hjTx : SameBut "transactionProof" (entry.1.toJsonResp .null) jTx) :
  ReceiptOf entry.2.blockNumber (entry.1.toJsonResp .null) (withTransaction jResp jTx)
  := by
  constructor
  · simp [withTransaction, hjResp "transactionHash" (by decide), TransactionReceipt.toJsonResp,
      Transaction.toJsonResp, HashType.hexPrefixed]
  · simp [withTransaction, hjResp "blockNumber" (by decide), TransactionReceipt.toJsonResp]
  · simp [withTransaction, memberD, hjTx "input" (by decide), Transaction.toJsonResp]
  · simp [withTransaction, memberD, hjTx "from" (by decide), Transaction.toJsonResp]
  · simp [withTransaction, memberD, hjTx "to" (by decide), Transaction.toJsonResp]

theorem gives_getTransactionReceipt (hw₁ : w₁.Holds groupID nodeName block)
    (hw₂ : w₂.Holds groupID nodeName block) {entry : Transaction × TransactionReceipt}
    (hentry : entry ∈ block.entries) {hash : String}
    (hhash : framework.hashType hash = .ok entry.1.hash) (requireProof : Bool) :
  Gives response (ReceiptOf block.header.number (entry.1.toJsonResp .null))
    (getTransactionReceipt framework w₁ w₂ groupID nodeName hash requireProof response.respond)
  := by
  apply gives_orThrow_bind hhash
  apply gives_ledger_bind hw₁
  intro _ ledger hledger
  obtain ⟨proof, hproof⟩ := hledger.receipt entry hentry requireProof
  apply gives_ask hproof
  intro error herror
  rw [herror, if_neg Bool.false_ne_true]
  apply gives_deref_bind rfl
  apply gives_getTransaction hw₂ hentry hhash
  intro _ jTx _ hjTx
  apply gives_respond rfl
  rw [← block.blockNumber_eq entry hentry]
  apply receiptOf_withTransaction _ hjTx
  intro key hkey
  split
  · apply find_addProofToResponse hkey
  · rfl

end

/-! ### The views of a block -/

theorem find_transactions_view (block : StoredBlock) (onlyTxHash : Bool) :
  (block.view false onlyTxHash).find "transactions"
    = some (arrayOf (BlockData.transactionToJson onlyTxHash) (block.entries.map Prod.fst))
  := by
  rw [view_eq, if_neg Bool.false_ne_true, find_set, if_pos rfl]

/-- Beside its transactions a block shows its header. -/
theorem sameBut_view (block : StoredBlock) (onlyHeader onlyTxHash : Bool) :
  SameBut "transactions" (BlockHeader.toJsonResp (some block.header) .null)
    (block.view onlyHeader onlyTxHash)
  := by
  intro key hkey
  rw [view_eq]
  split
  · rfl
  · rw [find_set, if_neg hkey.symm]

theorem memberD_hash_transaction (transaction : Transaction) :
  (transaction.toJsonResp .null).memberD "hash" = string transaction.hash.hexPrefixed
  := by
  simp [memberD, Transaction.toJsonResp, HashType.hexPrefixed]

/-- What a client reads of a block through one method is what it reads through the others,
whatever nodes with the block its requests meet, and in whatever order they are made. -/
theorem reads_agree {framework : Framework} {block : StoredBlock} (groupID nodeName : String)
    (hhash : ∀ hash ∈ block.hashes, framework.hashType hash.hexPrefixed = .ok hash) :
  ReadsAgree framework (fun w => w.Holds groupID nodeName block) groupID nodeName
    block.header.number (string block.header.hash.hexPrefixed) block.view
    (block.entries.map fun entry => entry.1.toJsonResp .null)
  := by
  have hblock := hhash block.header.hash List.mem_cons_self
  have hnumber := asInt64_integer block.isInt64_number
  constructor
  case hashByNumber =>
    have hlookup : ∀ w₁ w₂, (methodToFunc framework w₁ w₂).lookup "getBlockHashByNumber"
        = some (getBlockHashByNumberI framework w₁) := fun _ _ => rfl
    apply reads_of_gives hlookup
    intro w₁ _ hw₁ _ response
    apply gives_orThrow_bind rfl
    apply gives_orThrow_bind rfl
    apply gives_orThrow_bind hnumber
    apply gives_getBlockHashByNumber hw₁
  case byNumber =>
    intro onlyHeader onlyTxHash
    have hlookup : ∀ w₁ w₂, (methodToFunc framework w₁ w₂).lookup "getBlockByNumber"
        = some (getBlockByNumberI framework w₁) := fun _ _ => rfl
    apply reads_of_gives hlookup
    intro w₁ _ hw₁ _ response
    apply gives_orThrow_bind rfl
    apply gives_orThrow_bind rfl
    apply gives_orThrow_bind hnumber
    apply gives_orThrow_bind rfl
    apply gives_orThrow_bind rfl
    apply gives_getBlockByNumber hw₁
  case byHash =>
    intro onlyHeader onlyTxHash
    have hlookup : ∀ w₁ w₂, (methodToFunc framework w₁ w₂).lookup "getBlockByHash"
        = some (getBlockByHashI framework w₁ w₂) := fun _ _ => rfl
    apply reads_of_gives hlookup
    intro w₁ w₂ hw₁ hw₂ response
    apply gives_orThrow_bind rfl
    apply gives_orThrow_bind rfl
    apply gives_orThrow_bind rfl
    apply gives_orThrow_bind rfl
    apply gives_orThrow_bind rfl
    apply gives_getBlockByHash hw₁ hw₂ hblock
  case names =>
    intro onlyHeader onlyTxHash
    rw [sameBut_view block onlyHeader onlyTxHash "hash" (by decide),
      sameBut_view block onlyHeader onlyTxHash "number" (by decide)]
    simp [BlockHeader.toJsonResp, HashType.hexPrefixed]
  case sameHeader =>
    intro onlyHeader onlyTxHash onlyHeader' onlyTxHash' key hkey
    rw [sameBut_view block onlyHeader onlyTxHash key hkey,
      sameBut_view block onlyHeader' onlyTxHash' key hkey]
  case listed =>
    rw [find_transactions_view]
    simp [arrayOf, Function.comp_def, BlockData.transactionToJson]
  case listedHashes =>
    rw [find_transactions_view]
    simp [arrayOf, Function.comp_def, BlockData.transactionToJson, memberD_hash_transaction,
      HashType.hexPrefixed]
  case transaction =>
    intro t ht requireProof
    obtain ⟨entry, hentry, rfl⟩ := List.mem_map.mp ht
    rw [memberD_hash_transaction]
    have hlookup : ∀ w₁ w₂, (methodToFunc framework w₁ w₂).lookup "getTransaction"
        = some (getTransactionI framework w₁) := fun _ _ => rfl
    apply reads_of_gives hlookup
    intro w₁ _ hw₁ _ response
    apply gives_orThrow_bind rfl
    apply gives_orThrow_bind rfl
    apply gives_orThrow_bind rfl
    apply gives_orThrow_bind rfl
    apply gives_getTransaction hw₁ hentry (hhash _ (block.hash_mem_hashes hentry))
    intro error jTx herror hjTx
    apply gives_respond herror hjTx
  case receipt =>
    intro t ht requireProof
    obtain ⟨entry, hentry, rfl⟩ := List.mem_map.mp ht
    rw [memberD_hash_transaction]
    have hlookup : ∀ w₁ w₂, (methodToFunc framework w₁ w₂).lookup "getTransactionReceipt"
        = some (getTransactionReceiptI framework w₁ w₂) := fun _ _ => rfl
    apply reads_of_gives hlookup
    intro w₁ w₂ hw₁ hw₂ response
    apply gives_orThrow_bind rfl
    apply gives_orThrow_bind rfl
    apply gives_orThrow_bind rfl
    apply gives_orThrow_bind rfl
    apply gives_getTransactionReceipt hw₁ hw₂ hentry (hhash _ (block.hash_mem_hashes hentry))

/-- A transaction and its receipt in the fifth block. -/
def fifthEntry (byte : UInt8) : Transaction × TransactionReceipt :=
  ({ (default : Transaction) with hash := .replicate byte, input := [byte] },
    { (default : TransactionReceipt) with blockNumber := 5 })

/-- A block with two transactions. -/
def fifthBlock : StoredBlock where
  header :=
    { hash := HashType.zero, version := 0, txsRoot := HashType.zero,
      receiptsRoot := HashType.zero, stateRoot := HashType.zero, number := 5, gasUsed := 0,
      timestamp := 0, sealer := 0, extraData := [], consensusWeights := [1], sealerList := [[1]],
      parentInfo := [⟨4, HashType.zero⟩], signatureList := [⟨0, [2]⟩] }
  entries := [fifthEntry 1, fifthEntry 2]
  isInt64_number := by decide
  blockNumber_eq := by simp [fifthEntry]

/-- The transaction of the block with a hash. -/
def fifthLookup (hash : HashType) : Option (Transaction × TransactionReceipt) :=
  fifthBlock.entries.find? fun entry => entry.1.hash = hash

/-- A ledger that answers with this block. -/
def fifthLedger : LedgerInterface :=
  { failingLedger with
    asyncGetBatchTxsByHashList := fun hashes _ =>
      .later (none, some (hashes.map fun hash => (fifthLookup hash).map Prod.fst), none)
    asyncGetTransactionReceiptByHash := fun hash _ =>
      .later (none, (fifthLookup hash).map Prod.snd, none)
    asyncGetBlockNumberByHash := fun _ => .now (none, 5)
    asyncGetBlockDataByNumber := fun _ _ =>
      .later (none, some ⟨some fifthBlock.header, fifthBlock.transactions⟩)
    asyncGetBlockHashByNumber := fun _ => .now (none, HashType.zero) }

def fifthWorld : World where
  getNodeService _ _ := some { ledger := some fifthLedger }
  asyncGetPeers := .later (none, none, none)

/-- A framework that reads the hashes of the block. -/
def fifthFramework : Framework :=
  { queryFramework with
    hashType := fun text =>
      if text = (HashType.replicate 1).hexPrefixed then .ok (.replicate 1)
      else if text = (HashType.replicate 2).hexPrefixed then .ok (.replicate 2)
      else .ok HashType.zero }

/-- The hash of the fifth block can be asked for, and its transactions with it. -/
theorem reads_agree_fifthBlock :
  fifthWorld.Holds "g" "n" fifthBlock
    ∧ (∃ request, parseRpcRequestJson fifthFramework hashBody = .ok request
      ∧ request.method = "getBlockHashByNumber"
      ∧ request.params = .array [string "g", string "n", integer 5])
    ∧ ReadsAgree fifthFramework (fun w => w.Holds "g" "n" fifthBlock) "g" "n" 5
      (string HashType.zero.hexPrefixed) fifthBlock.view
      [(fifthEntry 1).1.toJsonResp .null, (fifthEntry 2).1.toJsonResp .null]
  := by
  have hlookup : ∀ entry ∈ fifthBlock.entries, fifthLookup entry.1.hash = some entry := by
    intro entry hentry
    rcases List.mem_pair.mp hentry with rfl | rfl
    · rfl
    · have hne : HashType.replicate 1 ≠ HashType.replicate 2 := by decide
      rw [fifthLookup]
      simp [fifthBlock, fifthEntry, hne]
  have hholds : fifthLedger.Holds fifthBlock := by
    constructor
    · exact ⟨none, rfl, Or.inl rfl⟩
    · exact ⟨none, rfl, Or.inl rfl⟩
    · intro transactions
      exact ⟨_, ⟨none, rfl, Or.inr rfl⟩, rfl, fun _ => rfl⟩
    · intro entry hentry requireProof
      refine ⟨none, none, rfl, Or.inr ?_⟩
      simp only [fifthLedger, List.map_cons, List.map_nil, hlookup entry hentry, Option.map_some]
    · intro entry hentry requireProof
      refine ⟨none, none, rfl, Or.inr ?_⟩
      simp only [fifthLedger, hlookup entry hentry, Option.map_some]
  have hhash : ∀ hash ∈ fifthBlock.hashes,
      fifthFramework.hashType hash.hexPrefixed = .ok hash := by
    have hhashes : fifthBlock.hashes = [.zero, .replicate 1, .replicate 2] := rfl
    rw [hhashes]
    simp only [List.forall_mem_cons]
    refine ⟨?_, ?_, ?_, List.forall_mem_nil _⟩
    · decide
    · decide
    · decide
  exact ⟨⟨_, fifthLedger, rfl, rfl, hholds⟩, ⟨_, rfl, rfl, rfl⟩, reads_agree "g" "n" hhash⟩

end JsonRpcImpl_2_0
