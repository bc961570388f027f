import SuiLudka.Indexer.ReadApi

/-!
# Paging through the checkpoints

Over the reader `CheckpointStore.reader`, a page of `ReadApiV2::get_checkpoints` holds the first
`limit` checkpoints past the cursor, says whether more exist, and ends with the cursor of its last
checkpoint (`getCheckpoints_reader`). The page's next cursor points exactly past the page
(`afterCursor_nextCursor`): the checkpoints past it are those past the old cursor with the page cut
off. So a client that follows the next cursors sees every checkpoint past its start once, in order,
in `max(1, ⌈k / limit⌉)` calls (`walkPages_reader`).
-/

namespace SuiLudka

/-! ### Reading order -/

section Order

variable {descending : Bool} {a b c : Nat}

@[simp] theorem precedes_irrefl (descending : Bool) (a : Nat) : precedes descending a a = false := by
  cases descending <;> simp [precedes]

theorem precedes_trans (hab : precedes descending a b) (hbc : precedes descending b c) :
    precedes descending a c := by
  cases descending <;> simp only [precedes, decide_eq_true_eq, ite_true, Bool.false_eq_true,
    ite_false] at * <;> omega

theorem precedes_asymm (hab : precedes descending a b) : precedes descending b a = false := by
  cases descending <;> simp only [precedes, decide_eq_true_eq, decide_eq_false_iff_not, ite_true,
    Bool.false_eq_true, ite_false] at * <;> omega

end Order

/-- The indexed checkpoints are strictly ordered in either reading order. -/
theorem CheckpointStore.pairwise_inOrder (store : CheckpointStore) (descending : Bool) :
    (store.inOrder descending).Pairwise fun x y =>
      precedes descending x.sequenceNumber y.sequenceNumber := by
  cases descending
  · simpa [CheckpointStore.inOrder, precedes] using store.sorted
  · simpa [CheckpointStore.inOrder, precedes, List.pairwise_reverse] using store.sorted

/-! ### Past a cursor -/

section Past

variable {descending : Bool}

/-- Past the cursor of one checkpoint of an ordered list lie exactly the checkpoints after it. -/
theorem afterCursor_of_eq_append {pre post : List Checkpoint} {x : Checkpoint}
    (h : (pre ++ x :: post).Pairwise fun a b =>
      precedes descending a.sequenceNumber b.sequenceNumber) :
    afterCursor descending (some x.sequenceNumber) (pre ++ x :: post) = post := by
  rw [List.pairwise_append, List.pairwise_cons] at h
  obtain ⟨-, ⟨hx, -⟩, hpre⟩ := h
  have hbefore : ∀ y ∈ pre, precedes descending x.sequenceNumber y.sequenceNumber = false :=
    fun y hy => precedes_asymm (hpre y hy x (List.mem_cons_self _ _))
  simp only [afterCursor, List.filter_append, List.filter_cons, Option.all_some, precedes_irrefl]
  rw [List.filter_eq_nil_iff.2 (by simpa using hbefore), List.filter_eq_self.2 (by simpa using hx)]
  rfl

/-- What lies past a cursor in an ordered list is a suffix of it. -/
theorem exists_eq_append_afterCursor {cps : List Checkpoint}
    (h : cps.Pairwise fun a b => precedes descending a.sequenceNumber b.sequenceNumber)
    (cursor : Option Nat) : ∃ pre, cps = pre ++ afterCursor descending cursor cps := by
  rcases cursor with _ | c
  · exact ⟨[], by simp [afterCursor]⟩
  induction cps with
  | nil => exact ⟨[], rfl⟩
  | cons x xs ih =>
    rw [List.pairwise_cons] at h
    by_cases hx : precedes descending c x.sequenceNumber
    · refine ⟨[], ?_⟩
      rw [List.nil_append, afterCursor, List.filter_eq_self.2 fun y hy => ?_]
      rcases List.mem_cons.1 hy with rfl | hy
      · simpa using hx
      · simpa using precedes_trans hx (h.1 y hy)
    · obtain ⟨pre, hpre⟩ := ih h.2
      refine ⟨x :: pre, ?_⟩
      simp only [afterCursor, List.filter_cons, Option.all_some, hx, if_false]
      exact congrArg (x :: ·) hpre

/-- The cursor of the last of the first `l` checkpoints past a cursor points past exactly those
`l` checkpoints. -/
theorem afterCursor_nextCursor {cps : List Checkpoint}
    (h : cps.Pairwise fun a b => precedes descending a.sequenceNumber b.sequenceNumber)
    (cursor : Option Nat) {l : Nat} (hl : 0 < l)
    (hlt : l < (afterCursor descending cursor cps).length) :
    afterCursor descending
        (((afterCursor descending cursor cps).take l).getLast?.map (·.sequenceNumber)) cps =
      (afterCursor descending cursor cps).drop l := by
  obtain ⟨pre, hpre⟩ := exists_eq_append_afterCursor h cursor
  generalize afterCursor descending cursor cps = past at hpre hlt ⊢
  rcases List.eq_nil_or_concat (past.take l) with hnil | ⟨ys, x, hyx⟩
  · have := congrArg List.length hnil
    simp only [List.length_take, List.length_nil] at this
    omega
  · have hsplit : cps = (pre ++ ys) ++ x :: past.drop l :=
      calc cps = pre ++ (past.take l ++ past.drop l) := by rw [List.take_append_drop]; exact hpre
        _ = (pre ++ ys) ++ x :: past.drop l := by rw [hyx]; simp
    rw [hyx, List.concat_eq_append, List.getLast?_concat, Option.map_some', hsplit]
    exact afterCursor_of_eq_append (hsplit ▸ h)

end Past

/-! ### Pages -/

theorem pageCount_pos (k l : Nat) : 1 ≤ pageCount k l := le_max_left _ _

theorem pageCount_of_le {k l : Nat} (hl : 0 < l) (hk : k ≤ l) : pageCount k l = 1 := by
  have : (k + l - 1) / l < 2 := (Nat.div_lt_iff_lt_mul hl).2 (by omega)
  unfold pageCount
  omega

theorem pageCount_of_lt {k l : Nat} (hl : 0 < l) (hk : l < k) :
    pageCount k l = pageCount (k - l) l + 1 := by
  have hdiv : 1 ≤ (k - 1) / l := (Nat.le_div_iff_mul_le hl).2 (by omega)
  unfold pageCount
  rw [Nat.sub_add_cancel hk.le, Nat.sub_add_comm (Nat.one_le_of_lt hk), Nat.add_div_right _ hl,
    max_eq_right (Nat.le_add_left 1 _), max_eq_right hdiv]

theorem validateLimit_pos {limit : Option Nat} {l : Nat}
    (hl : validateLimit limit queryMaxResultLimitCheckpoints = .ok l) : 0 < l := by
  rcases limit with _ | l'
  · cases hl
    decide
  · simp only [validateLimit] at hl
    split_ifs at hl with h0
    cases hl
    omega

section Pages

variable (store : CheckpointStore) {limit : Option Nat} {descending : Bool} {l : Nat}

/-- A page of `get_checkpoints` over the assumed reader. -/
theorem getCheckpoints_reader (cursor : Option Nat)
    (hl : validateLimit limit queryMaxResultLimitCheckpoints = .ok l) :
    ReadApiV2.getCheckpoints store.reader cursor limit descending =
      .ok { data := (store.pastCursor descending cursor).take l
            nextCursor := ((store.pastCursor descending cursor).take l).getLast?.map
              (·.sequenceNumber)
            hasNextPage := decide (l < (store.pastCursor descending cursor).length) } := by
  have hmin : min l (l + 1) = l := by omega
  have hmore : l < min (l + 1) (store.pastCursor descending cursor).length ↔
      l < (store.pastCursor descending cursor).length := by omega
  simp only [ReadApiV2.getCheckpoints, hl, CheckpointStore.reader, except_ok_bind, List.take_take,
    List.length_take, hmin, gt_iff_lt, hmore]
  rfl

/-- Following the next cursors from any cursor collects every checkpoint past it, in order, in
`pageCount` calls. -/
theorem walkPages_reader (hl : validateLimit limit queryMaxResultLimitCheckpoints = .ok l) :
    ∀ fuel cursor, pageCount (store.pastCursor descending cursor).length l ≤ fuel →
      walkPages store.reader limit descending fuel cursor =
        some (.ok (store.pastCursor descending cursor,
          pageCount (store.pastCursor descending cursor).length l)) := by
  have hpos := validateLimit_pos hl
  intro fuel
  induction fuel with
  | zero => exact fun cursor h => absurd h (by have := pageCount_pos (store.pastCursor descending cursor).length l; omega)
  | succ fuel ih =>
    intro cursor hfuel
    rw [walkPages, getCheckpoints_reader store cursor hl]
    by_cases hlt : l < (store.pastCursor descending cursor).length
    · have hnext : store.pastCursor descending
          (((store.pastCursor descending cursor).take l).getLast?.map (·.sequenceNumber)) =
          (store.pastCursor descending cursor).drop l :=
        afterCursor_nextCursor (store.pairwise_inOrder descending) cursor hpos hlt
      have hcount := pageCount_of_lt hpos hlt
      simp only [decide_eq_true hlt, if_true]
      rw [ih _ (by rw [hnext, List.length_drop]; omega), hnext]
      simp only [Option.map_some', Except.map, List.take_append_drop, List.length_drop, hcount]
    · have hle : (store.pastCursor descending cursor).length ≤ l := by omega
      simp only [decide_eq_false hlt, Bool.false_eq_true, if_false, List.take_of_length_le hle,
        pageCount_of_le hpos hle]

end Pages

/-- **Checkpoint pages.** Over a reader that returns the first `n` indexed checkpoints past the
cursor, and for a page size that `validate_limit` accepts, `get_checkpoints` returns the first
`limit` checkpoints past the cursor, says whether there are more, and gives the sequence number of
the page's last checkpoint as the next cursor. A client that follows the next cursors from any
cursor collects every checkpoint past it, in order, and stops after exactly `max(1, ⌈k / limit⌉)`
calls, `k` being their number. -/
theorem getCheckpoints_spec (store : CheckpointStore) (cursor limit : Option Nat)
    (descending : Bool) (l : Nat) (hl : validateLimit limit queryMaxResultLimitCheckpoints = .ok l) :
    ReadApiV2.getCheckpoints store.reader cursor limit descending =
      .ok { data := (store.pastCursor descending cursor).take l
            nextCursor := ((store.pastCursor descending cursor).take l).getLast?.map
              (·.sequenceNumber)
            hasNextPage := decide (l < (store.pastCursor descending cursor).length) } ∧
    ∀ fuel, pageCount (store.pastCursor descending cursor).length l ≤ fuel →
      walkPages store.reader limit descending fuel cursor =
        some (.ok (store.pastCursor descending cursor,
          pageCount (store.pastCursor descending cursor).length l)) :=
  ⟨getCheckpoints_reader store cursor hl, fun fuel => walkPages_reader store hl fuel cursor⟩

def threeCheckpoints : CheckpointStore :=
  ⟨[⟨0, [], 0⟩, ⟨1, [], 0⟩, ⟨2, [], 0⟩], by decide⟩

theorem getCheckpoints_spec_pages_of_one :
    validateLimit (some 1) queryMaxResultLimitCheckpoints = .ok 1 ∧
    (ReadApiV2.getCheckpoints threeCheckpoints.reader none (some 1) false =
      .ok { data := (threeCheckpoints.pastCursor false none).take 1
            nextCursor := ((threeCheckpoints.pastCursor false none).take 1).getLast?.map
              (·.sequenceNumber)
            hasNextPage := decide (1 < (threeCheckpoints.pastCursor false none).length) } ∧
    ∀ fuel, pageCount (threeCheckpoints.pastCursor false none).length 1 ≤ fuel →
      walkPages threeCheckpoints.reader (some 1) false fuel none =
        some (.ok (threeCheckpoints.pastCursor false none,
          pageCount (threeCheckpoints.pastCursor false none).length 1))) :=
  ⟨rfl, getCheckpoints_spec threeCheckpoints none (some 1) false 1 rfl⟩

end SuiLudka
