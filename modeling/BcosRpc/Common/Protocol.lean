import Mathlib.Data.List.Basic

/-!
# Errors, hashes, transactions and blocks

The parts of the protocol objects of the framework that the RPC module reads: the error of
an answer, byte strings and their hexadecimal texts, hashes, log entries, receipts,
transactions and blocks, and the sessions of the clients.
-/

/-- An error object, as an answer of the backend carries it. -/
structure Error where
  errorCode : Int
  errorMessage : String
  deriving DecidableEq, Repr

/-- The error code `SUCCESS` of `CommonError`. -/
def CommonError.SUCCESS : Int := 0

/-- Whether an answer reports an error: it has an error object, and not one with the code
`SUCCESS`. -/
def Error.failed (error : Option Error) : Bool :=
  match error with
  | none => false
  | some e => e.errorCode != CommonError.SUCCESS

/-! ### Bytes -/

abbrev Bytes : Type := List UInt8

/-- The lower-case hexadecimal digit of a number below `16`. -/
def hexDigit (n : Nat) : Char :=
  if n < 10 then Char.ofNat (48 + n) else Char.ofNat (87 + n)

/-- The two hexadecimal digits of a byte. -/
def hexByte (b : UInt8) : List Char :=
  [hexDigit (b.toNat / 16), hexDigit (b.toNat % 16)]

/-- The hexadecimal text of a byte string, without prefix. -/
def toHexString (data : Bytes) : String :=
  String.ofList (data.flatMap hexByte)

def toHexStringWithPrefix (data : Bytes) : String :=
  "0x" ++ toHexString data

/-- A lower-case hexadecimal digit. -/
def isLowerHexDigit (c : Char) : Bool :=
  ('0' ≤ c && c ≤ '9') || ('a' ≤ c && c ≤ 'f')

theorem isLowerHexDigit_hexDigit {n : Nat} (h : n < 16) :
  isLowerHexDigit (hexDigit n) = true
  := by
  have hall : ∀ m : Fin 16, isLowerHexDigit (hexDigit m) = true := by decide
  apply hall ⟨n, h⟩

theorem isLowerHexDigit_of_mem_toHexString {data : Bytes} {c : Char}
    (h : c ∈ (toHexString data).toList) :
  isLowerHexDigit c = true
  := by
  rw [toHexString, String.toList_ofList] at h
  obtain ⟨b, _, hc⟩ := List.mem_flatMap.mp h
  rcases List.mem_cons.mp hc with rfl | hc
  · apply isLowerHexDigit_hexDigit
    have := b.toNat_lt
    omega
  · rw [List.mem_singleton] at hc
    subst hc
    apply isLowerHexDigit_hexDigit
    omega

/-- A hash: a string of `32` bytes. -/
structure HashType where
  bytes : Bytes
  length_bytes : bytes.length = 32
  deriving DecidableEq

/-- The hash with all bytes zero. -/
def HashType.zero : HashType where
  bytes := List.replicate 32 0
  length_bytes := List.length_replicate

/-- A hash with one byte throughout. -/
def HashType.replicate (byte : UInt8) : HashType where
  bytes := List.replicate 32 byte
  length_bytes := List.length_replicate

instance : Inhabited HashType := ⟨HashType.zero⟩

def HashType.hex (h : HashType) : String := toHexString h.bytes

def HashType.hexPrefixed (h : HashType) : String := toHexStringWithPrefix h.bytes

/-! ### Receipts, transactions and blocks -/

structure LogEntry where
  address : String
  topics : List HashType
  data : Bytes

structure TransactionReceipt where
  version : Int
  contractAddress : String
  gasUsed : Nat
  status : Int
  blockNumber : Int
  output : Bytes
  hash : HashType
  logEntries : List LogEntry
  deriving Inhabited

structure Transaction where
  version : Int
  hash : HashType
  nonce : Nat
  blockLimit : Int
  receiver : String
  sender : Bytes
  input : Bytes
  importTime : Int
  chainId : String
  groupId : String
  signatureData : Bytes
  deriving Inhabited

structure ParentInfo where
  blockNumber : Int
  blockHash : HashType

structure Signature where
  index : Int
  signature : Bytes

structure BlockHeader where
  hash : HashType
  version : Int
  txsRoot : HashType
  receiptsRoot : HashType
  stateRoot : HashType
  number : Int
  gasUsed : Nat
  timestamp : Int
  sealer : Int
  extraData : Bytes
  consensusWeights : List Nat
  sealerList : List Bytes
  parentInfo : List ParentInfo
  signatureList : List Signature

/-- A block as the ledger answers with it: the parts that were not asked for are missing. -/
structure Block where
  blockHeader : Option BlockHeader
  transactions : List Transaction
  receipts : List TransactionReceipt

def Block.transactionsSize (block : Block) : Nat := block.transactions.length

/-- The transaction at an index; an index past the end is undefined behaviour. -/
def Block.transaction (block : Block) (index : Nat) : Transaction :=
  block.transactions.getD index default

/-- The receipt at an index; an index past the end is undefined behaviour. -/
def Block.receipt (block : Block) (index : Nat) : TransactionReceipt :=
  block.receipts.getD index default

/-! ### Sessions -/

/-- The connection of a client: the object that stands for it, and its endpoint. -/
structure WsSession where
  object : Nat
  endPoint : String
  deriving DecidableEq, Repr
