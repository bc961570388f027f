import Mathlib.Algebra.Group.Nat.Basic
import Mathlib.Data.List.Basic
import Mathlib.Data.List.Forall2

/-!
# Identifiers, tokens and failures

The data the transactional test runner's value language is about: 32-byte addresses and object ids,
object versions, the script-local handles (`FakeID`) objects are named by, the token kinds of the Move
value lexer, and the two ways a call ends without a value, an `anyhow` error or a panic.

A bare 256-bit literal names a known address through its little-endian bytes, reversed
(`args.rs`, `parse_receiving_or_object_value`). `bigEndianValue_reverse_leBytes` and
`reverse_leBytes_bigEndianValue` say that this is the big-endian encoding, and the only one.
-/

namespace SuiLudka

/-! ### Bytes -/

/-- The `w` little-endian bytes of `n`, as `U256::to_le_bytes` lays them out for `w = 32`. -/
def leBytes : Nat → Nat → List UInt8
  | 0, _ => []
  | w + 1, n => UInt8.ofNat (n % 256) :: leBytes w (n / 256)

/-- The number a byte string denotes when read most significant byte first. -/
def bigEndianValue (bytes : List UInt8) : Nat :=
  bytes.foldl (fun acc b => 256 * acc + b.toNat) 0

@[simp]
theorem length_leBytes (w n : Nat) : (leBytes w n).length = w := by
  induction w generalizing n <;> simp [leBytes, *]

theorem toNat_ofNat_mod_256 (n : Nat) : (UInt8.ofNat (n % 256)).toNat = n % 256 :=
  UInt8.toNat_ofNat_of_lt (Nat.mod_lt _ (by decide))

theorem bigEndianValue_reverse (bytes : List UInt8) :
    bigEndianValue bytes.reverse = bytes.foldr (fun b acc => 256 * acc + b.toNat) 0 := by
  simp [bigEndianValue, List.foldl_reverse]

/-- Reversing the little-endian bytes gives the big-endian encoding of `n` modulo `256 ^ w`. -/
theorem bigEndianValue_reverse_leBytes (w n : Nat) :
    bigEndianValue (leBytes w n).reverse = n % 256 ^ w := by
  rw [bigEndianValue_reverse]
  induction w generalizing n with
  | zero => simp [leBytes, Nat.mod_one]
  | succ w ih =>
    simp only [leBytes, List.foldr_cons, ih, toNat_ofNat_mod_256, Nat.pow_succ', Nat.mod_mul]
    omega

theorem leBytes_foldr (bytes : List UInt8) :
    leBytes bytes.length (bytes.foldr (fun b acc => 256 * acc + b.toNat) 0) = bytes := by
  induction bytes with
  | nil => rfl
  | cons b bs ih =>
    generalize hrest : bs.foldr (fun b acc => 256 * acc + b.toNat) 0 = rest at ih
    have hb : b.toNat < 256 := b.toNat_lt_size
    have hlow : (256 * rest + b.toNat) % 256 = b.toNat := by omega
    have hhigh : (256 * rest + b.toNat) / 256 = rest := by omega
    simp only [List.length_cons, List.foldr_cons, hrest, leBytes, hlow, hhigh, ih,
      UInt8.toNat.inj (UInt8.toNat_ofNat_of_lt hb)]

/-- A byte string is the reversed little-endian encoding of its own big-endian value. -/
theorem reverse_leBytes_bigEndianValue (bytes : List UInt8) :
    (leBytes bytes.length (bigEndianValue bytes)).reverse = bytes := by
  have h := leBytes_foldr bytes.reverse
  rw [← bigEndianValue_reverse, List.reverse_reverse, List.length_reverse] at h
  rw [h, List.reverse_reverse]

/-! ### Numbers, addresses and versions -/

abbrev U256 := Fin (2 ^ 256)

/-- `U256::from(u64::MAX)`. -/
def u64Max : Nat := 2 ^ 64 - 1

def U256.toLeBytes (i : U256) : List UInt8 := leBytes 32 i.val

@[ext]
structure SuiAddress where
  bytes : List UInt8
  length_bytes : bytes.length = 32
deriving DecidableEq, Repr

/-- `ObjectID`: 32 bytes, the same layout as an address. -/
@[ext]
structure ObjectID where
  bytes : List UInt8
  length_bytes : bytes.length = 32
deriving DecidableEq, Repr

def zeroAddress : SuiAddress := ⟨List.replicate 32 0, by simp⟩

def zeroObjectID : ObjectID := ⟨List.replicate 32 0, by simp⟩

def SuiAddress.toObjectID (address : SuiAddress) : ObjectID :=
  ⟨address.bytes, address.length_bytes⟩

structure SequenceNumber where
  value : UInt64
deriving DecidableEq, Repr

def SequenceNumber.fromU64 (v : UInt64) : SequenceNumber := ⟨v⟩

/-- `FakeID` of the test adapter: a handle bound to a known object id, or an enumerated handle
`(i, j)` the adapter assigns to an object created during the run. -/
inductive FakeID where
  | known (id : ObjectID)
  | enumerated (i j : UInt64)
deriving DecidableEq, Repr

/-! ### Tokens and failures -/

inductive ValueToken where
  | number | numberTyped | true_ | false_ | byteString | hexString | utf8String | ident
  | atSign | lBrace | rBrace | lBracket | rBracket | lParen | rParen | comma | colon | colonColon
  | whitespace
deriving DecidableEq, Repr

abbrev Token := ValueToken × String

/-- The `anyhow` errors of the modelled functions, one constructor for each place that raises one. -/
inductive Error where
  /-- `Parser::advance` at the end of the stream. -/
  | unexpectedEndOfString
  /-- `Parser::advance` on a token of another kind. -/
  | unexpectedToken (expected got : ValueToken)
  /-- `ensure!(cond)` with no message of its own: "Condition failed: `cond`". -/
  | conditionFailed (condition : String)
  /-- `parse_u64` or `parse_u256` refused the text. -/
  | invalidNumber (text : String)
  /-- "Object ID too large" -/
  | objectIdTooLarge
  /-- `SuiAddress::from_bytes` on a slice that is not 32 bytes long. -/
  | invalidAddressLength (length : Nat)
  /-- A named address of the base grammar that the mapping does not bind. -/
  | unboundNamedAddress (name : String)
  /-- "INVALID TEST. Unknown object, object({})" -/
  | unknownObject (fakeId : FakeID)
  /-- "INVALID TEST. Could not load object argument {}" -/
  | couldNotLoadObject (id : ObjectID)
  /-- "obj vec is not supported as an input" -/
  | objVecNotSupported
  /-- "Unbound staged package '{pkg}'" -/
  | unboundStagedPackage (pkg : String)
  /-- "Invalid upgrade policy {x}. Policy must be one of 'compatible', 'additive', or 'dep_only'" -/
  | invalidUpgradePolicy (x : String)
  /-- `validate_limit` on a page size above the maximum. -/
  | pageLimitTooLarge (limit max : Nat)
  /-- `validate_limit` on a page size of zero. -/
  | pageLimitZero
  /-- An error raised inside a collaborator (the transaction builder, the object store). -/
  | collaborator (message : String)
deriving DecidableEq, Repr

/-- How a call ends without a value: an `anyhow` error handed back to the caller, or a panic
(`panic!`, a failed `unwrap`, `unimplemented!`) that aborts the test run. -/
inductive Fault where
  | error (e : Error)
  | panic (message : String)
deriving DecidableEq, Repr

/-- `Result::unwrap`: an error becomes a panic. -/
def unwrap {α : Type} : Except Error α → Except Fault α
  | .ok a => .ok a
  | .error _ => .error (.panic "called `Result::unwrap()` on an `Err` value")

/-- `?` on an `anyhow::Result`: the error is handed on. -/
def liftError {α : Type} : Except Error α → Except Fault α
  | .ok a => .ok a
  | .error e => .error (.error e)

@[simp] theorem unwrap_ok {α : Type} (a : α) : unwrap (.ok a) = .ok a := rfl
section MapM

variable {ε α β : Type} {f : α → Except ε β}

@[simp]
theorem except_ok_bind (a : α) : (Except.ok a >>= f) = f a := rfl

@[simp]
theorem except_error_bind (e : ε) : (Except.error e >>= f) = .error e := rfl

@[simp]
theorem except_throw (e : ε) : (throw e : Except ε α) = .error e := rfl

@[simp]
theorem except_pure_ne_error (a : α) (e : ε) : (pure a : Except ε α) ≠ .error e := nofun

@[simp]
theorem except_map_ok (g : α → β) (a : α) : (g <$> (Except.ok a : Except ε α)) = .ok (g a) := rfl

@[simp]
theorem except_map_error (g : α → β) (e : ε) : (g <$> (Except.error e : Except ε α)) = .error e :=
  rfl

theorem except_bind_eq_ok {x : Except ε α} {r : β} :
    (x >>= f) = .ok r ↔ ∃ a, x = .ok a ∧ f a = .ok r := by
  cases x <;> simp [bind, Except.bind]

theorem except_bind_eq_error {x : Except ε α} {e : ε} :
    (x >>= f) = .error e ↔ x = .error e ∨ ∃ a, x = .ok a ∧ f a = .error e := by
  cases x <;> simp [bind, Except.bind]

@[simp]
theorem except_pure_eq_ok {a b : α} : (pure a : Except ε α) = .ok b ↔ a = b := by
  simp [pure, Except.pure]

theorem mapM_eq_ok_iff {l : List α} {bs : List β} :
    l.mapM f = .ok bs ↔ List.Forall₂ (fun a b => f a = .ok b) l bs := by
  induction l generalizing bs with
  | nil =>
    rw [List.mapM_nil]
    cases bs <;> simp [pure, Except.pure]
  | cons a l ih =>
    rw [List.mapM_cons]
    cases bs with
    | nil =>
      simp only [List.forall₂_cons_left_iff, List.cons_ne_nil, exists_false, iff_false]
      cases f a <;> cases l.mapM f <;> simp [bind, Except.bind, pure, Except.pure]
    | cons b bs =>
      rw [List.forall₂_cons, ← ih]
      cases f a <;> cases l.mapM f <;> simp [bind, Except.bind, pure, Except.pure]

/-- A failed run fails with the error of its first failing element. -/
theorem mapM_eq_error_iff {l : List α} {e : ε} :
    l.mapM f = .error e ↔
      ∃ pre a post, l = pre ++ a :: post ∧ (∀ x ∈ pre, ∃ b, f x = .ok b) ∧ f a = .error e := by
  induction l with
  | nil =>
    rw [List.mapM_nil]
    simp [pure, Except.pure]
  | cons a l ih =>
    rw [List.mapM_cons]
    cases h : f a with
    | error e' =>
      simp only [bind, Except.bind, Except.error.injEq]
      constructor
      · rintro rfl
        exact ⟨[], a, l, rfl, by simp, h⟩
      · rintro ⟨pre, x, post, hl, hpre, hx⟩
        cases pre with
        | nil => cases hl; rw [h] at hx; cases hx; rfl
        | cons y pre =>
          cases hl
          obtain ⟨b, hb⟩ := hpre a (List.mem_cons_self _ _)
          rw [h] at hb
          cases hb
    | ok b =>
      have hstep : (l.mapM f >>= fun xs => pure (b :: xs) : Except ε (List β)) = .error e ↔
          l.mapM f = .error e := by
        cases l.mapM f <;> simp [bind, Except.bind, pure, Except.pure]
      refine hstep.trans (ih.trans ⟨?_, ?_⟩)
      · rintro ⟨pre, x, post, rfl, hpre, hx⟩
        refine ⟨a :: pre, x, post, rfl, ?_, hx⟩
        rintro y (_ | ⟨_, hy⟩)
        · exact ⟨b, h⟩
        · exact hpre y hy
      · rintro ⟨pre, x, post, hl, hpre, hx⟩
        cases pre with
        | nil => cases hl; rw [h] at hx; cases hx
        | cons y pre =>
          cases hl
          exact ⟨pre, x, post, rfl, fun z hz => hpre z (List.mem_cons_of_mem _ hz), hx⟩

end MapM

/-- `SuiAddress::from_bytes`: exactly 32 bytes make an address. -/
def SuiAddress.fromBytes (bytes : List UInt8) : Except Error SuiAddress :=
  if h : bytes.length = 32 then .ok ⟨bytes, h⟩ else .error (.invalidAddressLength bytes.length)

/-- The object id a bare 256-bit literal names: its little-endian bytes, reversed. -/
def U256.toObjectID (i : U256) : ObjectID :=
  ⟨(U256.toLeBytes i).reverse, by simp [U256.toLeBytes]⟩

/-- The `unwrap` after `SuiAddress::from_bytes` in the literal parsers never panics: the reversed
little-endian bytes of a `U256` are always 32 bytes. -/
theorem fromBytes_reverse_toLeBytes (i : U256) :
    SuiAddress.fromBytes (U256.toLeBytes i).reverse = .ok ⟨_, i.toObjectID.length_bytes⟩ := by
  simp [SuiAddress.fromBytes, U256.toLeBytes, U256.toObjectID]

/-- The id a literal names is the one whose bytes are the big-endian encoding of the literal. -/
theorem toObjectID_eq_iff {i : U256} {id : ObjectID} :
    id = i.toObjectID ↔ bigEndianValue id.bytes = i.val := by
  constructor
  · rintro rfl
    have hlt : i.val < 256 ^ 32 := lt_of_lt_of_eq i.isLt (by decide)
    simp [U256.toObjectID, U256.toLeBytes, bigEndianValue_reverse_leBytes, Nat.mod_eq_of_lt hlt]
  · intro h
    obtain ⟨bytes, hlen⟩ := id
    have hbytes := reverse_leBytes_bigEndianValue bytes
    simp only [U256.toObjectID, U256.toLeBytes, ObjectID.mk.injEq]
    rw [← hbytes, hlen, ← h]

end SuiLudka
