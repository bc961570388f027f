import SuiLudka.Numeral

/-!
# The value-literal parser

`SuiExtraValueArgs::parse_value` and its helpers (`args.rs`), and the command-argument parser
`parse_fake_id`. The state of a `MoveCLParser` is the stream of tokens not yet consumed, so a parser
here maps that stream to a value and the stream it leaves, or to the fault it ends in.
-/

namespace SuiLudka

/-- `SuiExtraValueArgs`, the three reference forms the runner adds to the base value grammar. -/
inductive SuiExtraValueArgs where
  | object (fakeId : FakeID) (version : Option SequenceNumber)
  | digest (pkg : String)
  | receiving (fakeId : FakeID) (version : Option SequenceNumber)
deriving DecidableEq, Repr

/-- A parser over the tokens not yet consumed (`MoveCLParser`). -/
abbrev ParserM := StateT (List Token) (Except Fault)

/-- Modelled from the spec: `Parser::advance` consumes the next token and returns its text when the
token has the expected kind. -/
def advance (expected : ValueToken) : ParserM String := fun ts =>
  match ts with
  | [] => .error (.error .unexpectedEndOfString)
  | (tok, contents) :: rest =>
    if tok = expected then .ok (contents, rest) else .error (.error (.unexpectedToken expected tok))

/-- Modelled from the spec: `Parser::peek_tok`, the kind of the next token; nothing is consumed. -/
def peekTok : ParserM (Option ValueToken) := fun ts => .ok (ts.head?.map Prod.fst, ts)

/-- `ensure!(cond)`. -/
def ensure (cond : Bool) (condition : String) : ParserM Unit := fun ts =>
  if cond then .ok ((), ts) else .error (.error (.conditionFailed condition))

/-- `parse_receiving_or_object_value`, from the number after `(` to the handle (lines 213-228): a
following comma makes an enumerated handle, otherwise the 256-bit literal is an address whose bytes
are its little-endian bytes reversed. -/
def parseHandle : ParserM FakeID := do
  let iStr ← advance .number
  let i ← StateT.lift (liftError (parseU256 iStr))
  if (← peekTok) = some .comma then
    let _ ← advance .comma
    let jStr ← advance .number
    let j ← StateT.lift (liftError (parseU64 jStr))
    if i.val > u64Max then throw (.error .objectIdTooLarge)
    pure (.enumerated (UInt64.ofNat i.val) j)
  else
    let address ← StateT.lift (unwrap (SuiAddress.fromBytes (U256.toLeBytes i).reverse))
    pure (.known address.toObjectID)

/-- `parse_receiving_or_object_value`, the optional version after `)` (lines 230-237). -/
def parseVersion : ParserM (Option SequenceNumber) := do
  if (← peekTok) = some .atSign then
    let _ ← advance .atSign
    let vStr ← advance .number
    let v ← StateT.lift (liftError (parseU64 vStr))
    pure (some (.fromU64 v))
  else
    pure none

def parseReceivingOrObjectValue (identName : String) :
    ParserM (FakeID × Option SequenceNumber) := do
  let contents ← advance .ident
  ensure (contents == identName) "contents == ident_name"
  let _ ← advance .lParen
  let fakeId ← parseHandle
  let _ ← advance .rParen
  let version ← parseVersion
  pure (fakeId, version)

def parseObjectValue : ParserM SuiExtraValueArgs := do
  let (fakeId, version) ← parseReceivingOrObjectValue "object"
  pure (.object fakeId version)

def parseReceivingValue : ParserM SuiExtraValueArgs := do
  let (fakeId, version) ← parseReceivingOrObjectValue "receiving"
  pure (.receiving fakeId version)

def parseDigestValue : ParserM SuiExtraValueArgs := do
  let contents ← advance .ident
  ensure (contents == "digest") "contents == \"digest\""
  let _ ← advance .lParen
  let package ← advance .ident
  let _ ← advance .rParen
  pure (.digest package)

/-- `<SuiExtraValueArgs as ParsableValue>::parse_value`: `none` leaves the tokens to the base
grammar. -/
def parseValue (ts : List Token) : Option (Except Fault (SuiExtraValueArgs × List Token)) :=
  match ts.head? with
  | some (.ident, "object") => some (parseObjectValue ts)
  | some (.ident, "digest") => some (parseDigestValue ts)
  | some (.ident, "receiving") => some (parseReceivingValue ts)
  | _ => none

/-- `str::split_once` on a character: the text before its first occurrence and the text after. -/
def splitOnce (c : Char) : List Char → Option (List Char × List Char)
  | [] => none
  | x :: xs => if x = c then some ([], xs) else (splitOnce c xs).map fun p => (x :: p.1, p.2)

/-- `parse_fake_id`, the handle parser of the `view-object`, `transfer-object` and `upgrade`
commands. -/
def parseFakeId (s : String) : Except Fault FakeID :=
  match splitOnce ',' s.data with
  | some (s1, s2) => do
    let i ← liftError (parseU64 ⟨s1⟩)
    let j ← liftError (parseU64 ⟨s2⟩)
    pure (.enumerated i j)
  | none => do
    let i ← liftError (parseU256 s)
    let address ← unwrap (SuiAddress.fromBytes (U256.toLeBytes i).reverse)
    pure (.known address.toObjectID)

/-- The upgrade policies `parse_policy` names; it returns `UpgradePolicy`'s `u8` code of each, and
the three codes are distinct. -/
inductive UpgradePolicy where
  | compatible
  | additive
  | depOnly
deriving DecidableEq, Repr

/-- `parse_policy`, the `--policy` parser of the `upgrade` command. -/
def parsePolicy (x : String) : Except Error UpgradePolicy :=
  match x with
  | "compatible" => .ok .compatible
  | "additive" => .ok .additive
  | "dep_only" => .ok .depOnly
  | _ => .error (.invalidUpgradePolicy x)

/-- The `default_value` of `UpgradePackageCommand`'s `--policy`. -/
def upgradePolicyDefault : String := "compatible"

/-! ### One lemma per parser step -/

section Steps

variable {α β : Type} {ts ts' : List Token}

theorem bind_eq_ok {x : ParserM α} {f : α → ParserM β} {r : β × List Token} :
    (x >>= f) ts = .ok r ↔ ∃ a ts', x ts = .ok (a, ts') ∧ f a ts' = .ok r := by
  show (x ts >>= fun p => f p.1 p.2) = _ ↔ _
  cases x ts with
  | error e => simp [bind, Except.bind]
  | ok p =>
    obtain ⟨a, s⟩ := p
    exact ⟨fun h => ⟨a, s, rfl, h⟩, fun ⟨_, _, h, hf⟩ => by cases h; exact hf⟩

@[simp]
theorem advance_eq_ok {tok : ValueToken} {c : String} :
    advance tok ts = .ok (c, ts') ↔ ts = (tok, c) :: ts' := by
  cases ts with
  | nil => simp [advance]
  | cons t rest =>
    obtain ⟨k, s⟩ := t
    by_cases hk : k = tok
    · subst hk; simp [advance, eq_comm]
    · simp [advance, hk, Ne.symm hk]

@[simp]
theorem peekTok_eq_ok {k : Option ValueToken} :
    peekTok ts = .ok (k, ts') ↔ k = ts.head?.map Prod.fst ∧ ts' = ts := by
  simp [peekTok, eq_comm]

@[simp]
theorem ensure_eq_ok {b : Bool} {m : String} {u : Unit} :
    ensure b m ts = .ok (u, ts') ↔ b = true ∧ ts' = ts := by
  cases b <;> simp [ensure, eq_comm]

@[simp]
theorem lift_liftError_eq_ok {x : Except Error α} {a : α} :
    StateT.lift (liftError x) ts = .ok (a, ts') ↔ x = .ok a ∧ ts' = ts := by
  cases x <;> simp [StateT.lift, liftError, bind, Except.bind, pure, Except.pure, eq_comm]

@[simp]
theorem pure_apply (a : α) : (pure a : ParserM α) ts = .ok (a, ts) := rfl

@[simp]
theorem throw_apply (f : Fault) : (throw f : ParserM α) ts = .error f := rfl

theorem ite_run (c : Prop) [Decidable c] (x y : ParserM α) :
    (if c then x else y) ts = if c then x ts else y ts := by
  split <;> rfl

@[simp]
theorem lift_unwrap_fromBytes {i : U256} {a : SuiAddress} :
    StateT.lift (unwrap (SuiAddress.fromBytes (U256.toLeBytes i).reverse)) ts = .ok (a, ts') ↔
      a.toObjectID = i.toObjectID ∧ ts' = ts := by
  rw [fromBytes_reverse_toLeBytes]
  cases a
  simp [StateT.lift, bind, Except.bind, pure, Except.pure, SuiAddress.toObjectID, ObjectID.ext_iff,
    eq_comm]

/-- What the handle part of a literal accepts: `n` followed by anything but a comma, or
`n , m` with `n ≤ u64::MAX`. -/
theorem parseHandle_eq_ok_iff {fid : FakeID} :
    parseHandle ts = .ok (fid, ts') ↔
      (∃ n i, ts = (.number, n) :: ts' ∧ ts'.head?.map Prod.fst ≠ some .comma ∧
        parseU256 n = .ok i ∧ fid = .known i.toObjectID) ∨
      (∃ n k m i j, ts = (.number, n) :: (.comma, k) :: (.number, m) :: ts' ∧
        parseU256 n = .ok i ∧ i.val ≤ u64Max ∧ parseU64 m = .ok j ∧
        fid = .enumerated (UInt64.ofNat i.val) j) := by
  simp only [parseHandle, bind_eq_ok, advance_eq_ok, lift_liftError_eq_ok, peekTok_eq_ok,
    ite_run]
  constructor
  · rintro ⟨n, t1, rfl, i, _, ⟨hi, rfl⟩, k, _, ⟨rfl, rfl⟩, h⟩
    split at h
    · simp only [bind_eq_ok, advance_eq_ok, lift_liftError_eq_ok, ite_run] at h
      obtain ⟨_, _, rfl, m, t3, rfl, j, _, ⟨hj, rfl⟩, h⟩ := h
      split at h
      · simp only [bind_eq_ok, throw_apply] at h
        obtain ⟨_, _, h, -⟩ := h
        cases h
      · simp only [bind_eq_ok, pure_apply, Except.ok.injEq, Prod.mk.injEq] at h
        obtain ⟨_, _, ⟨-, rfl⟩, rfl, rfl⟩ := h
        exact .inr ⟨n, _, m, i, j, rfl, hi, by omega, hj, rfl⟩
    · simp only [bind_eq_ok, lift_unwrap_fromBytes, pure_apply] at h
      obtain ⟨a, _, ⟨ha, rfl⟩, h⟩ := h
      cases h
      exact .inl ⟨n, i, rfl, ‹_›, hi, by rw [ha]⟩
  · rintro (⟨n, i, rfl, hc, hi, rfl⟩ | ⟨n, k, m, i, j, rfl, hi, hle, hj, rfl⟩)
    · refine ⟨n, _, rfl, i, _, ⟨hi, rfl⟩, _, _, ⟨rfl, rfl⟩, ?_⟩
      simp only [if_neg hc, bind_eq_ok, lift_unwrap_fromBytes, pure_apply]
      exact ⟨⟨_, i.toObjectID.length_bytes⟩, _, ⟨rfl, rfl⟩, rfl⟩
    · refine ⟨n, _, rfl, i, _, ⟨hi, rfl⟩, _, _, ⟨rfl, rfl⟩, ?_⟩
      simp only [Option.map, List.head?, if_true, bind_eq_ok, advance_eq_ok, lift_liftError_eq_ok,
        ite_run, pure_apply, if_neg (show ¬ i.val > u64Max by omega)]
      exact ⟨k, _, rfl, m, _, rfl, j, _, ⟨hj, rfl⟩, (), _, rfl, rfl⟩

/-- What the version part of a literal accepts: nothing when the next token is not `@`, and
`@ w` otherwise. -/
theorem parseVersion_eq_ok_iff {ver : Option SequenceNumber} :
    parseVersion ts = .ok (ver, ts') ↔
      (ver = none ∧ ts' = ts ∧ ts.head?.map Prod.fst ≠ some .atSign) ∨
      (∃ a w v, ts = (.atSign, a) :: (.number, w) :: ts' ∧ parseU64 w = .ok v ∧
        ver = some (.fromU64 v)) := by
  simp only [parseVersion, bind_eq_ok, peekTok_eq_ok, ite_run]
  constructor
  · rintro ⟨k, _, ⟨rfl, rfl⟩, h⟩
    split at h
    · simp only [bind_eq_ok, advance_eq_ok, lift_liftError_eq_ok, pure_apply, Except.ok.injEq,
        Prod.mk.injEq] at h
      obtain ⟨_, _, rfl, w, _, rfl, v, _, ⟨hv, rfl⟩, rfl, rfl⟩ := h
      exact .inr ⟨_, w, v, rfl, hv, rfl⟩
    · simp only [pure_apply, Except.ok.injEq, Prod.mk.injEq] at h
      obtain ⟨rfl, rfl⟩ := h
      exact .inl ⟨rfl, rfl, ‹_›⟩
  · rintro (⟨rfl, rfl, hc⟩ | ⟨a, w, v, rfl, hv, rfl⟩)
    · exact ⟨_, _, ⟨rfl, rfl⟩, by simp [hc]⟩
    · refine ⟨_, _, ⟨rfl, rfl⟩, ?_⟩
      simp only [Option.map, List.head?, if_true, bind_eq_ok, advance_eq_ok, lift_liftError_eq_ok,
        pure_apply]
      exact ⟨a, _, rfl, w, _, rfl, v, _, ⟨hv, rfl⟩, rfl⟩

end Steps

/-! ### No parser step panics -/

section NoPanic

variable {α β : Type}

/-- A parser that ends in a value or an `anyhow` error on every stream, never in a panic. -/
def NoPanic (p : ParserM α) : Prop := ∀ ts m, p ts ≠ .error (.panic m)

theorem NoPanic.bind {x : ParserM α} {f : α → ParserM β} (hx : NoPanic x)
    (hf : ∀ a, NoPanic (f a)) : NoPanic (x >>= f) := by
  intro ts m h
  change (x ts >>= fun p => f p.1 p.2) = _ at h
  cases hxts : x ts with
  | error e => rw [hxts] at h; cases h; exact hx ts m hxts
  | ok p => rw [hxts] at h; exact hf p.1 p.2 m h

theorem NoPanic.ite {c : Prop} [Decidable c] {x y : ParserM α} (hx : NoPanic x)
    (hy : NoPanic y) : NoPanic (if c then x else y) := by
  split <;> assumption

theorem noPanic_pure (a : α) : NoPanic (pure a : ParserM α) := fun _ _ h => by cases h

theorem noPanic_throw_error (e : Error) : NoPanic (throw (.error e) : ParserM α) :=
  fun _ _ h => by cases h

theorem noPanic_advance (tok : ValueToken) : NoPanic (advance tok) := by
  intro ts m h
  cases ts with
  | nil => cases h
  | cons t rest => simp only [advance] at h; split at h <;> cases h

theorem noPanic_peekTok : NoPanic peekTok := fun _ _ h => by cases h

theorem noPanic_ensure (b : Bool) (condition : String) : NoPanic (ensure b condition) := by
  intro ts m h
  cases b <;> cases h

theorem noPanic_lift_liftError (x : Except Error α) : NoPanic (StateT.lift (liftError x)) := by
  intro ts m h
  cases x <;> cases h

theorem noPanic_lift_unwrap_fromBytes (i : U256) :
    NoPanic (StateT.lift (unwrap (SuiAddress.fromBytes (U256.toLeBytes i).reverse))) := by
  intro ts m h
  rw [fromBytes_reverse_toLeBytes] at h
  cases h

theorem noPanic_parseHandle : NoPanic parseHandle :=
  (noPanic_advance _).bind fun _ => (noPanic_lift_liftError _).bind fun i =>
    noPanic_peekTok.bind fun _ =>
      .ite ((noPanic_advance _).bind fun _ => (noPanic_advance _).bind fun _ =>
          (noPanic_lift_liftError _).bind fun _ =>
            .ite ((noPanic_throw_error _).bind fun _ => noPanic_pure _)
              ((noPanic_pure _).bind fun _ => noPanic_pure _))
        ((noPanic_lift_unwrap_fromBytes i).bind fun _ => noPanic_pure _)

theorem noPanic_parseVersion : NoPanic parseVersion :=
  noPanic_peekTok.bind fun _ =>
    .ite ((noPanic_advance _).bind fun _ => (noPanic_advance _).bind fun _ =>
        (noPanic_lift_liftError _).bind fun _ => noPanic_pure _)
      (noPanic_pure _)

theorem noPanic_parseReceivingOrObjectValue (identName : String) :
    NoPanic (parseReceivingOrObjectValue identName) :=
  (noPanic_advance _).bind fun _ => (noPanic_ensure _ _).bind fun _ =>
    (noPanic_advance _).bind fun _ => noPanic_parseHandle.bind fun _ =>
      (noPanic_advance _).bind fun _ => noPanic_parseVersion.bind fun _ => noPanic_pure _

theorem noPanic_parseObjectValue : NoPanic parseObjectValue := by
  unfold parseObjectValue
  exact (noPanic_parseReceivingOrObjectValue _).bind fun _ => noPanic_pure _

theorem noPanic_parseReceivingValue : NoPanic parseReceivingValue := by
  unfold parseReceivingValue
  exact (noPanic_parseReceivingOrObjectValue _).bind fun _ => noPanic_pure _

theorem noPanic_parseDigestValue : NoPanic parseDigestValue :=
  (noPanic_advance _).bind fun _ => (noPanic_ensure _ _).bind fun _ =>
    (noPanic_advance _).bind fun _ => (noPanic_advance _).bind fun _ =>
      (noPanic_advance _).bind fun _ => noPanic_pure _

end NoPanic

end SuiLudka
