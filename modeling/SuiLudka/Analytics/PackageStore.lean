import SuiLudka.Args.Resolve

/-!
# The analytics indexer's package store

`LocalDBPackageStore` (`package_store.rs`) keeps package objects in a local RocksDB table, kept up
to date while the indexer walks the checkpoints. A lookup reads the table first; on a miss it asks
a full node through its REST client, writes what it got back into the table when it is a package,
and returns it. It is a write-through cache in front of the full node.

The table is state here. The full node's client is a function, and so are the failures RocksDB may
report on a read or a batch write, given per request: every result below holds whatever fails.
-/

namespace SuiLudka

/-- `object.data.try_as_package().is_some()`. -/
def Object.isPackage (obj : Object) : Bool :=
  match obj.data with
  | .package _ => true
  | .move _ => false

structure TypedStoreError where
  message : String

inductive PackageResolverError where
  /-- `Store { store, source }`: a read or a write of the table failed. -/
  | store (store : String) (source : TypedStoreError)
  /-- `PackageNotFound(id)`: the full node did not provide the object. -/
  | packageNotFound (id : AccountAddress)
  /-- A failure of `make_package`. -/
  | makePackage (message : String)

/-- `STORE`, the store's name in its errors. -/
def storeName : String := "RocksDB"

/-- `impl From<Error> for PackageResolverError`. -/
def TypedStoreError.toResolverError (source : TypedStoreError) : PackageResolverError :=
  .store storeName source

structure PackageStoreTables where
  packages : ObjectID → Option Object

/-- The failures RocksDB reports during one request: on reading a key, and on writing the batch
that inserts a package under its id. -/
structure StoreFaults where
  readFault : ObjectID → Option TypedStoreError
  writeFault : ObjectID → Option TypedStoreError

/-- A request during which RocksDB reports nothing. -/
def StoreFaults.clean : StoreFaults := ⟨fun _ => Option.none, fun _ => Option.none⟩

@[simp] theorem StoreFaults.clean_readFault (id : ObjectID) :
    StoreFaults.clean.readFault id = none := rfl

@[simp] theorem StoreFaults.clean_writeFault (id : ObjectID) :
    StoreFaults.clean.writeFault id = none := rfl

/-- `DBMap::get` on `packages`. -/
def PackageStoreTables.get (faults : StoreFaults) (tables : PackageStoreTables) (id : ObjectID) :
    Except TypedStoreError (Option Object) :=
  match faults.readFault id with
  | some e => .error e
  | none => .ok (tables.packages id)

theorem PackageStoreTables.get_eq_ok {faults : StoreFaults} {tables : PackageStoreTables}
    {id : ObjectID} {r : Option Object} :
    tables.get faults id = .ok r ↔ faults.readFault id = none ∧ tables.packages id = r := by
  unfold PackageStoreTables.get
  cases faults.readFault id <;> simp

/-- `PackageStoreTables::update`: one batch that inserts the package under its id. -/
def PackageStoreTables.update (faults : StoreFaults) (tables : PackageStoreTables)
    (package : Object) : Except PackageResolverError Unit × PackageStoreTables :=
  match faults.writeFault package.id with
  | some e => (.error e.toResolverError, tables)
  | none => (.ok (), ⟨fun id => if id = package.id then some package else tables.packages id⟩)

/-- `LocalDBPackageStore`; its fallback client is a parameter of the operations. -/
structure LocalDBPackageStore where
  packageStoreTables : PackageStoreTables

/-- Modelled from the spec: the full node's REST client, `get_object`; `none` when the call fails,
whatever the failure. -/
abbrev FallbackClient := ObjectID → Option Object

/-- `LocalDBPackageStore::update`: only a package is written. -/
def LocalDBPackageStore.update (faults : StoreFaults) (store : LocalDBPackageStore)
    (object : Object) : Except PackageResolverError Unit × LocalDBPackageStore :=
  match object.data with
  | .move _ => (.ok (), store)
  | .package _ =>
    let (result, tables) := store.packageStoreTables.update faults object
    (result, ⟨tables⟩)

/-- `LocalDBPackageStore::get`: the table, else the full node, whose answer is written back. -/
def LocalDBPackageStore.get (faults : StoreFaults) (fallbackClient : FallbackClient)
    (store : LocalDBPackageStore) (id : AccountAddress) :
    Except PackageResolverError Object × LocalDBPackageStore :=
  match store.packageStoreTables.get faults id with
  | .error e => (.error e.toResolverError, store)
  | .ok (some object) => (.ok object, store)
  | .ok none =>
    match fallbackClient id with
    | none => (.error (.packageNotFound id), store)
    | some object =>
      let (result, store') := store.update faults object
      (result.map fun _ => object, store')

def LocalDBPackageStore.version (faults : StoreFaults) (fallbackClient : FallbackClient)
    (store : LocalDBPackageStore) (id : AccountAddress) :
    Except PackageResolverError SequenceNumber × LocalDBPackageStore :=
  let (result, store') := store.get faults fallbackClient id
  (result.map (·.version), store')

structure Package where
  storageId : AccountAddress
  version : SequenceNumber

/-- `<LocalDBPackageStore as PackageStore>::fetch`. `make_package` belongs to the package
resolver and is a parameter. -/
def LocalDBPackageStore.fetch
    (makePackage : AccountAddress → SequenceNumber → Object → Except PackageResolverError Package)
    (faults : StoreFaults) (fallbackClient : FallbackClient) (store : LocalDBPackageStore)
    (id : AccountAddress) : Except PackageResolverError Package × LocalDBPackageStore :=
  let (result, store') := store.get faults fallbackClient id
  (match result with
    | .ok object => makePackage object.id object.version object
    | .error e => .error e, store')

/-! ### Runs -/

/-- The two ways the store is driven: the indexer writes an object it met in a checkpoint, or a
reader looks a package up. -/
inductive StoreRequest where
  | update (object : Object)
  | get (id : AccountAddress)

def LocalDBPackageStore.step (fallbackClient : FallbackClient) (store : LocalDBPackageStore)
    (faults : StoreFaults) : StoreRequest → LocalDBPackageStore
  | .update object => (store.update faults object).2
  | .get id => (store.get faults fallbackClient id).2

/-- The store after a run of requests, each with the failures RocksDB reports during it. -/
def LocalDBPackageStore.run (fallbackClient : FallbackClient) :
    LocalDBPackageStore → List (StoreFaults × StoreRequest) → LocalDBPackageStore
  | store, [] => store
  | store, (faults, request) :: rest =>
    (store.step fallbackClient faults request).run fallbackClient rest

end SuiLudka
