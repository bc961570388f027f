import Mathlib.Algebra.Group.Int
import SuiLudka.Indexer.ReadApi
import SuiLudka.Adapter.Backends

/-!
# The indexer's read methods

`impl ReadApiServer for ReadApiV2` (`read_api_v2.rs`) serves the JSON-RPC read methods over the
indexer's database, one request at a time (`ReadApiV2.handle`). Most methods hand one reader call
on. `get_object` answers for an object that does not exist or was deleted with a response that
says so, the batch methods refuse more ids than `QUERY_MAX_RESULT_LIMIT`, `get_transaction_block`
is the batch method on one digest, and three methods are not served.

The reader (`IndexerReader`) is a parameter, and so are the functions of other crates the methods
call (`RpcSupport`): the object type and display rendering of `sui_json_rpc`, the conversion to
`SuiObjectData`, the protocol configuration table, and `QUERY_MAX_RESULT_LIMIT`, a static of
`sui_json_rpc` read through a lazy cell.
-/

namespace SuiLudka

/-! ### Requests, answers and errors -/

inductive CheckpointId where
  | sequenceNumber (n : Nat)
  | digest (digest : List UInt8)
deriving DecidableEq, Repr

/-- The errors the read methods answer with. -/
inductive RpcError where
  /-- An error of the reader or of `validate_limit`, handed on by `?`. -/
  | ofError (e : Error)
  /-- `IndexerError::InvalidArgumentError(format!("Checkpoint {id:?} not found"))`. -/
  | checkpointNotFound (id : CheckpointId)
  /-- `IndexerError::InvalidArgumentError(format!("Transaction {digest} not found"))`. -/
  | transactionNotFound (digest : TransactionDigest)
  /-- `IndexerError::GenericError(e.to_string())`, for a failure of a `sui_json_rpc` helper. -/
  | genericError (message : String)
  /-- `SuiRpcInputError::SizeLimitExceeded(QUERY_MAX_RESULT_LIMIT.to_string())`. -/
  | sizeLimitExceeded (limit : Nat)
  /-- `CallError::Custom(ErrorCode::MethodNotFound.into())`. -/
  | methodNotFound
  /-- `SuiRpcInputError::ProtocolVersionUnsupported(ProtocolVersion::MIN, ProtocolVersion::MAX)`. -/
  | protocolVersionUnsupported (min max : Nat)
deriving DecidableEq, Repr

structure MoveStructLayout where
  bytes : List UInt8
deriving DecidableEq, Repr

inductive ObjectRead where
  | notExists (id : ObjectID)
  | exists_ (objectRef : ObjectRef) (object : Object) (layout : Option MoveStructLayout)
  | deleted (objectRef : ObjectRef)
deriving DecidableEq, Repr

structure StructTag where
  name : String
deriving DecidableEq, Repr

/-- The display object the reader keeps for a type; the read methods read its template fields. -/
structure DisplayObject where
  fields : List (String × String)
deriving DecidableEq, Repr

structure DisplayFieldsResponse where
  data : Option (List (String × String))
  error : Option String
deriving DecidableEq, Repr

/-- `SuiObjectDataOptions`, with the flag the read methods read; the conversion to `SuiObjectData`
reads the others. `default` is the derived `Default`, which shows nothing. -/
structure SuiObjectDataOptions where
  showDisplay : Bool
deriving DecidableEq, Repr, Inhabited

structure SuiObjectData where
  bytes : List UInt8
deriving DecidableEq, Repr

inductive SuiObjectResponseError where
  | notExists (objectId : ObjectID)
  | deleted (objectId : ObjectID) (version : SequenceNumber) (digest : ObjectDigest)
  /-- `DisplayError { error: e.to_string() }`; the error itself stands for its text. -/
  | displayError (error : RpcError)
deriving DecidableEq, Repr

structure SuiObjectResponse where
  new ::
  data : Option SuiObjectData
  error : Option SuiObjectResponseError
deriving DecidableEq, Repr

def SuiObjectResponse.newWithError (error : SuiObjectResponseError) : SuiObjectResponse :=
  .new none (some error)

def SuiObjectResponse.newWithData (data : SuiObjectData) : SuiObjectResponse :=
  .new (some data) none

/-- `SuiTransactionBlockResponseOptions`, handed on to the reader unread; `default` stands for its
derived `Default`. -/
structure SuiTransactionBlockResponseOptions where
  flags : List Bool
deriving DecidableEq, Repr, Inhabited

structure SuiTransactionBlockResponse where
  bytes : List UInt8
deriving DecidableEq, Repr

structure SuiGetPastObjectRequest where
  objectId : ObjectID
  version : SequenceNumber
deriving DecidableEq, Repr

structure SuiPastObjectResponse where
  bytes : List UInt8
deriving DecidableEq, Repr

structure SuiLoadedChildObjectsResponse where
  bytes : List UInt8
deriving DecidableEq, Repr

structure SuiEvent where
  bytes : List UInt8
deriving DecidableEq, Repr

/-- The reader's record of an epoch, with the protocol version as the database stores it, an
`i64`. -/
structure EpochInfo where
  protocolVersion : Int
deriving DecidableEq, Repr

structure ChainIdentifier where
  digest : List UInt8
deriving DecidableEq, Repr

inductive Chain where
  | mainnet | testnet | unknown
deriving DecidableEq, Repr

structure ProtocolConfig where
  bytes : List UInt8
deriving DecidableEq, Repr

/-! ### Collaborators -/

/-- What the read methods call of `IndexerReader`, the indexer's database layer:
`get_checkpoint`, `get_latest_checkpoint`, `get_checkpoints`, `get_object_read_in_blocking_task`,
`get_display_object_by_type`, `multi_get_transaction_block_response_in_blocking_task`,
`get_transaction_events_in_blocking_task` and `get_latest_epoch_info_from_db`. -/
structure IndexerReader where
  getCheckpoint : CheckpointId → Except Error (Option Checkpoint)
  getLatestCheckpoint : Except Error Checkpoint
  getCheckpoints : Option Nat → Nat → Bool → Except Error (List Checkpoint)
  getObjectRead : ObjectID → Except Error ObjectRead
  getDisplayObjectByType : StructTag → Except Error (Option DisplayObject)
  multiGetTransactionBlockResponse :
    List TransactionDigest → SuiTransactionBlockResponseOptions →
      Except Error (List SuiTransactionBlockResponse)
  getTransactionEvents : TransactionDigest → Except Error (List SuiEvent)
  getLatestEpochInfo : Except Error EpochInfo

/-- What the read methods call of other crates: `get_object_type_and_struct` and
`get_rendered_fields` of `sui_json_rpc::read_api` (their errors as text), the conversion
`(ObjectRef, Object, Option<MoveStructLayout>, SuiObjectDataOptions, Option<DisplayFieldsResponse>)`
into `SuiObjectData`, `ProtocolConfig::get_for_version_if_supported`, `ChainIdentifier::chain` and
`ChainIdentifier::to_string`, `ProtocolVersion::MIN` and `MAX`, and `*QUERY_MAX_RESULT_LIMIT`. -/
structure RpcSupport where
  getObjectTypeAndStruct :
    Object → Option MoveStructLayout → Except String (Option (StructTag × MoveStructLayout))
  getRenderedFields :
    List (String × String) → MoveStructLayout → Except String DisplayFieldsResponse
  toObjectData : ObjectRef → Object → Option MoveStructLayout → SuiObjectDataOptions →
    Option DisplayFieldsResponse → Except Error SuiObjectData
  getForVersionIfSupported : Nat → Chain → Option ProtocolConfig
  chain : ChainIdentifier → Chain
  chainIdentifierToString : ChainIdentifier → String
  minProtocolVersion : Nat
  maxProtocolVersion : Nat
  queryMaxResultLimit : Nat

/-- `?` on a reader call: the reader's error is handed on. -/
def liftReader {α : Type} (x : Except Error α) : Except RpcError α := x.mapError .ofError

/-! ### The methods -/

section Methods

variable (reader : IndexerReader) (support : RpcSupport)

def ReadApiV2.getCheckpoint (id : CheckpointId) : Except RpcError Checkpoint :=
  match reader.getCheckpoint id with
  | .ok (some checkpoint) => .ok checkpoint
  | .ok none => .error (.checkpointNotFound id)
  | .error e => .error (.ofError e)

def ReadApiV2.getLatestCheckpoint : Except RpcError Checkpoint :=
  liftReader reader.getLatestCheckpoint

/-- `ReadApiV2::get_chain_identifier`: the digest of checkpoint 0. -/
def ReadApiV2.getChainIdentifier : Except RpcError ChainIdentifier := do
  let genesisCheckpoint ← ReadApiV2.getCheckpoint reader (.sequenceNumber 0)
  pure ⟨genesisCheckpoint.digest⟩

def ReadApiV2.getDisplayFields (originalObject : Object)
    (originalLayout : Option MoveStructLayout) : Except RpcError DisplayFieldsResponse := do
  let some (objectType, layout) ←
      (support.getObjectTypeAndStruct originalObject originalLayout).mapError .genericError
    | pure ⟨none, none⟩
  match ← liftReader (reader.getDisplayObjectByType objectType) with
  | some displayObject =>
    (support.getRenderedFields displayObject.fields layout).mapError .genericError
  | none => pure ⟨none, none⟩

def ReadApiV2.getObject (objectId : ObjectID) (options : Option SuiObjectDataOptions) :
    Except RpcError SuiObjectResponse := do
  let options := options.getD default
  let objectRead ← liftReader (reader.getObjectRead objectId)
  match objectRead with
  | .notExists id => pure (.newWithError (.notExists id))
  | .exists_ objectRef o layout =>
    let mut displayFields : Option DisplayFieldsResponse := none
    if options.showDisplay then
      match ReadApiV2.getDisplayFields reader support o layout with
      | .ok renderedFields => displayFields := some renderedFields
      | .error e =>
        return .new (some (← liftReader (support.toObjectData objectRef o layout options none)))
          (some (.displayError e))
    return .newWithData
      (← liftReader (support.toObjectData objectRef o layout options displayFields))
  | .deleted (objectId, version, digest) =>
    pure (.newWithError (.deleted objectId version digest))

/-- `<ReadApiV2 as ReadApiServer>::multi_get_objects`: the single method on each id, whose answers
are joined and collected in the order of the ids. -/
def ReadApiV2.multiGetObjects (objectIds : List ObjectID) (options : Option SuiObjectDataOptions) :
    Except RpcError (List SuiObjectResponse) :=
  if objectIds.length > support.queryMaxResultLimit then
    .error (.sizeLimitExceeded support.queryMaxResultLimit)
  else
    objectIds.mapM fun objectId => ReadApiV2.getObject reader support objectId options

def ReadApiV2.getTotalTransactionBlocks : Except RpcError Nat := do
  let checkpoint ← ReadApiV2.getLatestCheckpoint reader
  pure checkpoint.networkTotalTransactions

def ReadApiV2.multiGetTransactionBlocks (digests : List TransactionDigest)
    (options : Option SuiTransactionBlockResponseOptions) :
    Except RpcError (List SuiTransactionBlockResponse) := do
  let numDigests := digests.length
  if numDigests > support.queryMaxResultLimit then
    throw (.sizeLimitExceeded support.queryMaxResultLimit)
  let options := options.getD default
  liftReader (reader.multiGetTransactionBlockResponse digests options)

/-- `<ReadApiV2 as ReadApiServer>::get_transaction_block`: the last response of the batch method on
the one digest (`Vec::pop`). -/
def ReadApiV2.getTransactionBlock (digest : TransactionDigest)
    (options : Option SuiTransactionBlockResponseOptions) :
    Except RpcError SuiTransactionBlockResponse := do
  let txn ← ReadApiV2.multiGetTransactionBlocks reader support [digest] options
  match txn.getLast? with
  | some txn => pure txn
  | none => throw (.transactionNotFound digest)

/-- The answer of a method the indexer does not serve. -/
def methodNotFound {α : Type} : Except RpcError α := .error .methodNotFound

def ReadApiV2.tryGetPastObject (_objectId : ObjectID) (_version : SequenceNumber)
    (_options : Option SuiObjectDataOptions) : Except RpcError SuiPastObjectResponse :=
  methodNotFound

def ReadApiV2.tryMultiGetPastObjects (_pastObjects : List SuiGetPastObjectRequest)
    (_options : Option SuiObjectDataOptions) : Except RpcError (List SuiPastObjectResponse) :=
  methodNotFound

def ReadApiV2.getLatestCheckpointSequenceNumber : Except RpcError Nat := do
  let checkpoint ← ReadApiV2.getLatestCheckpoint reader
  pure checkpoint.sequenceNumber

def ReadApiServer.getCheckpoint (id : CheckpointId) : Except RpcError Checkpoint :=
  ReadApiV2.getCheckpoint reader id

def ReadApiV2.getEvents (transactionDigest : TransactionDigest) : Except RpcError (List SuiEvent) :=
  liftReader (reader.getTransactionEvents transactionDigest)

def ReadApiV2.getLoadedChildObjects (_digest : TransactionDigest) :
    Except RpcError SuiLoadedChildObjectsResponse :=
  methodNotFound

/-- `<ReadApiV2 as ReadApiServer>::get_protocol_config`; the version of the latest epoch is cast
from `i64` to `u64`. -/
def ReadApiV2.getProtocolConfig (version : Option Nat) : Except RpcError ProtocolConfig := do
  let chain := support.chain (← ReadApiV2.getChainIdentifier reader)
  let version ← (match version with
    | some version => pure version
    | none => do
      let latestEpoch ← liftReader reader.getLatestEpochInfo
      pure (latestEpoch.protocolVersion % 2 ^ 64).toNat : Except RpcError Nat)
  match support.getForVersionIfSupported version chain with
  | some config => pure config
  | none =>
    throw (.protocolVersionUnsupported support.minProtocolVersion support.maxProtocolVersion)

def ReadApiServer.getChainIdentifier : Except RpcError String :=
  (ReadApiV2.getChainIdentifier reader).map support.chainIdentifierToString

end Methods

/-! ### The server -/

/-- The methods of `ReadApiServer`, as requests carrying their parameters. -/
inductive ReadRequest where
  | getObject (objectId : ObjectID) (options : Option SuiObjectDataOptions)
  | multiGetObjects (objectIds : List ObjectID) (options : Option SuiObjectDataOptions)
  | getTotalTransactionBlocks
  | getTransactionBlock (digest : TransactionDigest)
      (options : Option SuiTransactionBlockResponseOptions)
  | multiGetTransactionBlocks (digests : List TransactionDigest)
      (options : Option SuiTransactionBlockResponseOptions)
  | tryGetPastObject (objectId : ObjectID) (version : SequenceNumber)
      (options : Option SuiObjectDataOptions)
  | tryMultiGetPastObjects (pastObjects : List SuiGetPastObjectRequest)
      (options : Option SuiObjectDataOptions)
  | getLatestCheckpointSequenceNumber
  | getCheckpoint (id : CheckpointId)
  | getCheckpoints (cursor : Option Nat) (limit : Option Nat) (descendingOrder : Bool)
  | getCheckpointsDeprecatedLimit (cursor : Option Nat) (limit : Option Nat)
      (descendingOrder : Bool)
  | getEvents (transactionDigest : TransactionDigest)
  | getLoadedChildObjects (digest : TransactionDigest)
  | getProtocolConfig (version : Option Nat)
  | getChainIdentifier

inductive ReadAnswer where
  | object (response : SuiObjectResponse)
  | objects (responses : List SuiObjectResponse)
  | bigInt (n : Nat)
  | transactionBlock (response : SuiTransactionBlockResponse)
  | transactionBlocks (responses : List SuiTransactionBlockResponse)
  | pastObject (response : SuiPastObjectResponse)
  | pastObjects (responses : List SuiPastObjectResponse)
  | checkpoint (checkpoint : Checkpoint)
  | checkpointPage (page : CheckpointPage)
  | events (events : List SuiEvent)
  | loadedChildObjects (response : SuiLoadedChildObjectsResponse)
  | protocolConfig (config : ProtocolConfig)
  | chainIdentifier (text : String)

/-- `ReadApiV2` as its `RpcModule` serves it, one request at a time. -/
def ReadApiV2.handle (reader : IndexerReader) (support : RpcSupport) :
    ReadRequest → Except RpcError ReadAnswer
  | .getObject objectId options => .object <$> ReadApiV2.getObject reader support objectId options
  | .multiGetObjects objectIds options =>
    .objects <$> ReadApiV2.multiGetObjects reader support objectIds options
  | .getTotalTransactionBlocks => .bigInt <$> ReadApiV2.getTotalTransactionBlocks reader
  | .getTransactionBlock digest options =>
    .transactionBlock <$> ReadApiV2.getTransactionBlock reader support digest options
  | .multiGetTransactionBlocks digests options =>
    .transactionBlocks <$> ReadApiV2.multiGetTransactionBlocks reader support digests options
  | .tryGetPastObject objectId version options =>
    .pastObject <$> ReadApiV2.tryGetPastObject objectId version options
  | .tryMultiGetPastObjects pastObjects options =>
    .pastObjects <$> ReadApiV2.tryMultiGetPastObjects pastObjects options
  | .getLatestCheckpointSequenceNumber =>
    .bigInt <$> ReadApiV2.getLatestCheckpointSequenceNumber reader
  | .getCheckpoint id => .checkpoint <$> ReadApiServer.getCheckpoint reader id
  | .getCheckpoints cursor limit descendingOrder =>
    .checkpointPage <$>
      liftReader (ReadApiV2.getCheckpoints reader.getCheckpoints cursor limit descendingOrder)
  | .getCheckpointsDeprecatedLimit cursor limit descendingOrder =>
    .checkpointPage <$> liftReader
      (ReadApiV2.getCheckpointsDeprecatedLimit reader.getCheckpoints cursor limit descendingOrder)
  | .getEvents transactionDigest => .events <$> ReadApiV2.getEvents reader transactionDigest
  | .getLoadedChildObjects digest => .loadedChildObjects <$> ReadApiV2.getLoadedChildObjects digest
  | .getProtocolConfig version =>
    .protocolConfig <$> ReadApiV2.getProtocolConfig reader support version
  | .getChainIdentifier => .chainIdentifier <$> ReadApiServer.getChainIdentifier reader support

end SuiLudka
