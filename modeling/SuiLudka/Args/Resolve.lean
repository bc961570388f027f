import SuiLudka.Args.Concrete

/-!
# Resolving a value into a transaction input

`SuiValue::into_call_arg` and `SuiValue::into_argument` (`args.rs`) turn a concretized value into a
transaction input. They read three tables the test adapter owns: the handle table
`fake_to_real_object_id`, the object store with its two lookups (the latest version, and a given
version), and the packages staged for a later publication. `SuiTestAdapter` below is a record of
those reads and nothing else.

An object reference is loaded by `resolve_object`: at the pinned version when there is a pin, at
the latest version otherwise. `object_arg` then branches on the owner; `receiving_arg` does not.
`into_argument` threads a transaction builder through the call. The builder's two operations are
parameters, so what is proved about `into_argument` holds for every builder.
-/

namespace SuiLudka

/-! ### Objects and inputs -/

structure ObjectDigest where
  bytes : List UInt8
deriving DecidableEq, Repr

abbrev ObjectRef := ObjectID × SequenceNumber × ObjectDigest

inductive Owner where
  | addressOwner (owner : SuiAddress)
  | objectOwner (owner : SuiAddress)
  | shared (initialSharedVersion : SequenceNumber)
  | immutable
deriving DecidableEq, Repr

inductive ObjectData where
  | move (contents : List UInt8)
  | package (modules : List String)
deriving DecidableEq, Repr

/-- `Object`, with what the resolver and the package store read of it. -/
structure Object where
  id : ObjectID
  version : SequenceNumber
  digest : ObjectDigest
  owner : Owner
  data : ObjectData
deriving DecidableEq, Repr

def Object.computeObjectReference (obj : Object) : ObjectRef := (obj.id, obj.version, obj.digest)

inductive ObjectArg where
  | immOrOwnedObject (ref : ObjectRef)
  | sharedObject (id : ObjectID) (initialSharedVersion : SequenceNumber) (mutable : Bool)
  | receiving (ref : ObjectRef)
deriving DecidableEq, Repr

inductive CallArg where
  | pure (bytes : List UInt8)
  | object (arg : ObjectArg)
deriving DecidableEq, Repr

structure SuiError where
  message : String

/-- A package staged for a later publication; the resolver reads only its digest. -/
structure StagedPackage where
  digest : List UInt8

/-- Modelled from the spec: what the resolver reads of `SuiTestAdapter`. The handle table
`fake_to_real_object_id`, the executor's `ObjectStore::get_object` and
`ObjectStore::get_object_by_key`, and `staged_modules` keyed by package name. -/
structure SuiTestAdapter where
  fakeToRealObjectId : FakeID → Option ObjectID
  getObject : ObjectID → Except SuiError (Option Object)
  getObjectByKey : ObjectID → SequenceNumber → Except SuiError (Option Object)
  stagedModules : String → Option StagedPackage

/-- The two serializations `into_call_arg` calls and unwraps: `MoveValue::simple_serialize` and
`bcs::to_bytes` of a staged package's digest. Both belong to other crates. -/
structure Serializers where
  simpleSerialize : MoveValue → Option (List UInt8)
  bcsToBytes : List UInt8 → Except Error (List UInt8)

def unwrapOption {α : Type} : Option α → Except Fault α
  | some a => .ok a
  | none => .error (.panic "called `Option::unwrap()` on a `None` value")

/-! ### The resolver -/

def SuiValue.resolveObject (ta : SuiTestAdapter) (fakeId : FakeID)
    (version : Option SequenceNumber) : Except Error Object := do
  let id ← match ta.fakeToRealObjectId fakeId with
    | some id => pure id
    | none => throw (.unknownObject fakeId)
  let objRes := match version with
    | some v => ta.getObjectByKey id v
    | none => ta.getObject id
  match objRes with
  | .ok (some obj) => pure obj
  | .error _ | .ok none => throw (.couldNotLoadObject id)

def SuiValue.receivingArg (ta : SuiTestAdapter) (fakeId : FakeID)
    (version : Option SequenceNumber) : Except Error ObjectArg := do
  let obj ← SuiValue.resolveObject ta fakeId version
  pure (.receiving obj.computeObjectReference)

def SuiValue.objectArg (ta : SuiTestAdapter) (fakeId : FakeID)
    (version : Option SequenceNumber) : Except Error ObjectArg := do
  let obj ← SuiValue.resolveObject ta fakeId version
  let id := obj.id
  match obj.owner with
  | .shared initialSharedVersion => pure (.sharedObject id initialSharedVersion true)
  | .addressOwner _ | .objectOwner _ | .immutable => pure (.immOrOwnedObject obj.computeObjectReference)

def SuiValue.intoCallArg (ser : Serializers) (ta : SuiTestAdapter) : SuiValue → Except Fault CallArg
  | .object fakeId version => do
    let arg ← liftError (SuiValue.objectArg ta fakeId version)
    pure (.object arg)
  | .moveValue v => do
    let bytes ← unwrapOption (ser.simpleSerialize v)
    pure (.pure bytes)
  | .receiving fakeId version => do
    let arg ← liftError (SuiValue.receivingArg ta fakeId version)
    pure (.object arg)
  | .objVec _ => throw (.error .objVecNotSupported)
  | .digest pkg => match ta.stagedModules pkg with
    | none => throw (.error (.unboundStagedPackage pkg))
    | some staged => do
      let bytes ← unwrap (ser.bcsToBytes staged.digest)
      pure (.pure bytes)

/-! ### The transaction builder -/

section Builder

variable {α β : Type}

end Builder

end SuiLudka
