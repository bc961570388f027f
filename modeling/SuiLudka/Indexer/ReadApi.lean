import SuiLudka.Basic

/-!
# Checkpoint pages of the indexer's read API

`ReadApiV2::get_checkpoints` (`read_api_v2.rs`) answers a page request in three steps. It checks the
page size with `validate_limit`, asks the reader for one checkpoint more than the page size, and
then cuts the answer to the page size. The extra checkpoint is how it knows whether a next page
exists. The next cursor is the sequence number of the page's last checkpoint.

The reader's `get_checkpoints(cursor, n, descending)` belongs to the indexer's database layer. It is
a parameter of the model. `CheckpointStore.reader` is the reader the page code is written against:
the first `n` indexed checkpoints past the cursor, in the requested order.
-/

namespace SuiLudka

/-- `Checkpoint` as the reader returns it. The page code reads only the sequence number (a `u64`,
on which it does no arithmetic). The other methods of the read API read the digest and the running
count of transactions; the rest is passed on untouched. -/
structure Checkpoint where
  sequenceNumber : Nat
  digest : List UInt8
  networkTotalTransactions : Nat
deriving DecidableEq, Repr

structure CheckpointPage where
  data : List Checkpoint
  nextCursor : Option Nat
  hasNextPage : Bool
deriving DecidableEq, Repr

/-- Modelled from the spec: `QUERY_MAX_RESULT_LIMIT_CHECKPOINTS`, the largest page size. -/
def queryMaxResultLimitCheckpoints : Nat := 100

/-- Modelled from the spec: `validate_limit`. No page size means the largest one; a page size
above the largest or of zero is refused. -/
def validateLimit (limit : Option Nat) (max : Nat) : Except Error Nat :=
  match limit with
  | some l => if l > max then .error (.pageLimitTooLarge l max)
    else if l = 0 then .error .pageLimitZero else .ok l
  | none => .ok max

/-- `validate_limit` accepts exactly the page sizes from one to the largest, and no page size. -/
theorem validateLimit_eq_ok_iff {limit : Option Nat} {max l : Nat} :
    validateLimit limit max = .ok l ↔ (limit = some l ∧ 0 < l ∧ l ≤ max) ∨ (limit = none ∧ l = max) := by
  rcases limit with _ | l'
  · simp [validateLimit, eq_comm]
  · simp only [validateLimit]
    split_ifs <;> simp <;> omega

/-- `ReadApiV2::get_checkpoints`, over the reader's `get_checkpoints`. -/
def ReadApiV2.getCheckpoints (reader : Option Nat → Nat → Bool → Except Error (List Checkpoint))
    (cursor : Option Nat) (limit : Option Nat) (descendingOrder : Bool) :
    Except Error CheckpointPage := do
  let limit ← validateLimit limit queryMaxResultLimitCheckpoints
  let checkpoints ← reader cursor (limit + 1) descendingOrder
  let hasNextPage := decide (checkpoints.length > limit)
  let checkpoints := checkpoints.take limit
  let nextCursor := checkpoints.getLast?.map (·.sequenceNumber)
  pure { data := checkpoints, nextCursor, hasNextPage }

/-- `ReadApiV2::get_checkpoints_deprecated_limit`: the page size comes as a `u64` and is cast to
`usize`, which keeps it on a 64-bit target. -/
def ReadApiV2.getCheckpointsDeprecatedLimit
    (reader : Option Nat → Nat → Bool → Except Error (List Checkpoint))
    (cursor : Option Nat) (limit : Option Nat) (descendingOrder : Bool) :
    Except Error CheckpointPage :=
  ReadApiV2.getCheckpoints reader cursor limit descendingOrder

/-! ### The indexed checkpoints -/

/-- Whether sequence number `a` comes before `b` when reading in the given order. -/
def precedes (descending : Bool) (a b : Nat) : Bool := if descending then b < a else a < b

/-- The indexed checkpoints, sorted by strictly increasing sequence number: a finite set of
checkpoints with distinct sequence numbers. -/
structure CheckpointStore where
  checkpoints : List Checkpoint
  sorted : checkpoints.Pairwise (·.sequenceNumber < ·.sequenceNumber)

/-- The checkpoints in reading order. -/
def CheckpointStore.inOrder (store : CheckpointStore) (descending : Bool) : List Checkpoint :=
  if descending then store.checkpoints.reverse else store.checkpoints

/-- The checkpoints of a list that lie strictly past the cursor in reading order. -/
def afterCursor (descending : Bool) (cursor : Option Nat) (cps : List Checkpoint) :
    List Checkpoint :=
  cps.filter fun cp => cursor.all fun c => precedes descending c cp.sequenceNumber

/-- The indexed checkpoints strictly past the cursor, in reading order. -/
def CheckpointStore.pastCursor (store : CheckpointStore) (descending : Bool)
    (cursor : Option Nat) : List Checkpoint :=
  afterCursor descending cursor (store.inOrder descending)

/-- The reader the page code assumes: the first `n` checkpoints past the cursor. -/
def CheckpointStore.reader (store : CheckpointStore) (cursor : Option Nat) (n : Nat)
    (descending : Bool) : Except Error (List Checkpoint) :=
  .ok ((store.pastCursor descending cursor).take n)

/-! ### A client walking the pages -/

/-- A client that pages through the checkpoints: from a cursor it asks for a page, and again with
the page's `next_cursor` while `has_next_page` holds. It returns what it collected and how many
calls it made; `none` when it runs out of fuel. -/
def walkPages (reader : Option Nat → Nat → Bool → Except Error (List Checkpoint))
    (limit : Option Nat) (descending : Bool) : Nat → Option Nat →
    Option (Except Error (List Checkpoint × Nat))
  | 0, _ => none
  | fuel + 1, cursor =>
    match ReadApiV2.getCheckpoints reader cursor limit descending with
    | .error e => some (.error e)
    | .ok page =>
      if page.hasNextPage then
        (walkPages reader limit descending fuel page.nextCursor).map
          (Except.map fun (rest, calls) => (page.data ++ rest, calls + 1))
      else some (.ok (page.data, 1))

/-- The number of pages of size `l` that hold `k` checkpoints, `max(1, ⌈k / l⌉)`: a walk needs one
call for each, and one call even when nothing is past its cursor. -/
def pageCount (k l : Nat) : Nat := max 1 ((k + l - 1) / l)

end SuiLudka
