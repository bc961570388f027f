import SuiLudka.Args.Parse

/-!
# Concrete values

`SuiValue` and the hooks the runner gives the base value grammar (`args.rs`,
`impl ParsableValue for SuiExtraValueArgs`): `move_value_into_concrete` at plain leaves,
`into_concrete_value` at reference leaves, `concrete_struct` and `concrete_vector` at inner nodes.
`concrete_vector` looks at the first element only: a vector that starts with an `object(...)` is read
as an object vector, and every element is then narrowed with `assert_object`; any other vector is a
Move vector, narrowed with `assert_move_value`. The two narrowings panic on the wrong variant.

The traversal that calls the hooks, `ParsedValue::into_concrete_value`, belongs to the Move
command-line crate and is modelled here from the spec.
-/

namespace SuiLudka

/-- `AccountAddress`, the address a Move value holds; it has the 32-byte layout of an object id. -/
abbrev AccountAddress := ObjectID

/-- `MoveValue`. A struct is `Struct(MoveStruct::Runtime(fields))`, the only form the runner builds. -/
inductive MoveValue where
  | u8 (v : UInt8)
  | u64 (v : UInt64)
  | u128 (v : Fin (2 ^ 128))
  | bool (b : Bool)
  | address (a : AccountAddress)
  | vector (values : List MoveValue)
  | struct (fields : List MoveValue)
  | signer (a : AccountAddress)
  | u16 (v : UInt16)
  | u32 (v : UInt32)
  | u256 (v : U256)

/-- `SuiValue`, what a value literal of the runner concretizes to. -/
inductive SuiValue where
  | moveValue (v : MoveValue)
  | object (fakeId : FakeID) (version : Option SequenceNumber)
  | objVec (elems : List (FakeID × Option SequenceNumber))
  | digest (pkg : String)
  | receiving (fakeId : FakeID) (version : Option SequenceNumber)

def SuiValue.isObject : SuiValue → Bool
  | .object _ _ => true
  | _ => false

def SuiValue.isMoveValue : SuiValue → Bool
  | .moveValue _ => true
  | _ => false

def SuiValue.assertMoveValue : SuiValue → Except Fault MoveValue
  | .moveValue v => .ok v
  | .object _ _ => .error (.panic "unexpected nested Sui object in args")
  | .objVec _ => .error (.panic "unexpected nested Sui object vector in args")
  | .digest _ => .error (.panic "unexpected nested Sui package digest in args")
  | .receiving _ _ => .error (.panic "unexpected nested Sui receiving object in args")

def SuiValue.assertObject : SuiValue → Except Fault (FakeID × Option SequenceNumber)
  | .moveValue _ => .error (.panic "unexpected nested non-object value in args")
  | .object id version => .ok (id, version)
  | .objVec _ => .error (.panic "unexpected nested Sui object vector in args")
  | .digest _ => .error (.panic "unexpected nested Sui package digest in args")
  | .receiving _ _ => .error (.panic "unexpected nested Sui receiving object in args")

def moveValueIntoConcrete (v : MoveValue) : Except Error SuiValue := .ok (.moveValue v)

def concreteVector (elems : List SuiValue) : Except Fault SuiValue :=
  if !elems.isEmpty && elems.head?.any SuiValue.isObject then do
    let objs ← elems.mapM SuiValue.assertObject
    pure (.objVec objs)
  else do
    let values ← elems.mapM SuiValue.assertMoveValue
    pure (.moveValue (.vector values))

def concreteStruct (values : List SuiValue) : Except Fault SuiValue := do
  let fields ← values.mapM SuiValue.assertMoveValue
  pure (.moveValue (.struct fields))

/-- `<SuiExtraValueArgs as ParsableValue>::into_concrete_value`; the address mapping is unused. -/
def SuiExtraValueArgs.intoConcreteValue (_mapping : String → Option AccountAddress) :
    SuiExtraValueArgs → Except Error SuiValue
  | .object id version => .ok (.object id version)
  | .digest pkg => .ok (.digest pkg)
  | .receiving id version => .ok (.receiving id version)

/-! ### The base grammar's traversal -/

/-- Modelled from the spec: `ParsedAddress` of the base grammar, a numeric address or a name that
the test's address mapping binds. -/
inductive ParsedAddress where
  | numerical (a : AccountAddress)
  | named (name : String)

/-- Modelled from the spec: `ParsedAddress::into_account_address`. -/
def ParsedAddress.intoAccountAddress (mapping : String → Option AccountAddress) :
    ParsedAddress → Except Error AccountAddress
  | .numerical a => .ok a
  | .named name => match mapping name with
    | some a => .ok a
    | none => .error (.unboundNamedAddress name)

/-- Modelled from the spec: `ParsedValue<SuiExtraValueArgs>`, the tree the base grammar parses a
value into. A number or boolean literal is a leaf carrying the Move value the grammar reads it as. -/
inductive ParsedValue where
  | address (a : ParsedAddress)
  | prim (v : MoveValue)
  | vector (values : List ParsedValue)
  | struct (values : List ParsedValue)
  | custom (extra : SuiExtraValueArgs)

mutual

/-- Modelled from the spec: `ParsedValue::into_concrete_value`, bottom-up. Plain leaves go through
`move_value_into_concrete`, reference leaves through `into_concrete_value`, and an inner node
concretizes its elements in order, stopping at the first failure, before `concrete_vector` or
`concrete_struct` sees them. -/
def ParsedValue.intoConcreteValue (mapping : String → Option AccountAddress) :
    ParsedValue → Except Fault SuiValue
  | .address a => do
    let address ← liftError (a.intoAccountAddress mapping)
    liftError (moveValueIntoConcrete (.address address))
  | .prim v => liftError (moveValueIntoConcrete v)
  | .vector values => do
    let elems ← ParsedValue.intoConcreteValues mapping values
    concreteVector elems
  | .struct values => do
    let elems ← ParsedValue.intoConcreteValues mapping values
    concreteStruct elems
  | .custom extra => liftError (extra.intoConcreteValue mapping)

/-- The elements of an inner node, in order. -/
def ParsedValue.intoConcreteValues (mapping : String → Option AccountAddress) :
    List ParsedValue → Except Fault (List SuiValue)
  | [] => pure []
  | v :: vs => do
    let c ← v.intoConcreteValue mapping
    let cs ← ParsedValue.intoConcreteValues mapping vs
    pure (c :: cs)

end

theorem intoConcreteValues_eq_mapM (mapping : String → Option AccountAddress)
    (values : List ParsedValue) :
    ParsedValue.intoConcreteValues mapping values = values.mapM (·.intoConcreteValue mapping) := by
  induction values with
  | nil => rfl
  | cons v vs ih => rw [ParsedValue.intoConcreteValues, ih, List.mapM_cons]

end SuiLudka
