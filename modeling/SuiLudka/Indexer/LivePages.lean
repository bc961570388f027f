import SuiLudka.Indexer.Pagination

/-!
# Paging while the indexer writes

The indexer keeps committing checkpoints, in sequence order, while clients page through them with
`ReadApiV2::get_checkpoints`: each call of a walk reads the index as it stands at that call, a list
that extends the one the call before it read (`GrowsByAppending`). Every page is computed from one
view, and its next cursor is the sequence number of a checkpoint that view holds.

Read newest first, the pages past such a cursor lie below every checkpoint written later, so a walk
gets exactly what it would get from the index as its first call saw it, the same pages in the same
calls (`walkPagesLive_descending_eq`). Read oldest first, what a cursor leaves unread grows by the
checkpoints written meanwhile: a walk that ends has collected exactly the checkpoints past its start
in the index as its last call saw it (`walkPagesLive_ascending_collects`), and it ends once the
index stops growing (`walkPagesLive_ascending_ends`).
-/

namespace SuiLudka

/-- Each view of the index extends the one before it: the indexer only appends. -/
def GrowsByAppending (stores : Nat → CheckpointStore) : Prop :=
  ∀ i, (stores i).checkpoints <+: (stores (i + 1)).checkpoints

/-- A client paging through the checkpoints while the indexer writes, as `walkPages` does but with
its `i`-th call answered by `readers i`. -/
def walkPagesLive (readers : Nat → Option Nat → Nat → Bool → Except Error (List Checkpoint))
    (limit : Option Nat) (descending : Bool) : Nat → Nat → Option Nat →
    Option (Except Error (List Checkpoint × Nat))
  | 0, _, _ => none
  | fuel + 1, i, cursor =>
    match ReadApiV2.getCheckpoints (readers i) cursor limit descending with
    | .error e => some (.error e)
    | .ok page =>
      if page.hasNextPage then
        (walkPagesLive readers limit descending fuel (i + 1) page.nextCursor).map
          (Except.map fun (rest, calls) => (page.data ++ rest, calls + 1))
      else some (.ok (page.data, 1))

/-- From the call on which every reader is the same one, the walk is the plain walk over it. -/
theorem walkPagesLive_of_stable
    {readers : Nat → Option Nat → Nat → Bool → Except Error (List Checkpoint)}
    {reader : Option Nat → Nat → Bool → Except Error (List Checkpoint)} {limit : Option Nat}
    {descending : Bool} :
    ∀ fuel m cursor, (∀ j, m ≤ j → readers j = reader) →
      walkPagesLive readers limit descending fuel m cursor =
        walkPages reader limit descending fuel cursor := by
  intro fuel
  induction fuel with
  | zero => intros; rfl
  | succ fuel ih =>
    intro m cursor h
    rw [walkPagesLive, walkPages, h m le_rfl]
    cases ReadApiV2.getCheckpoints reader cursor limit descending with
    | error e => rfl
    | ok page => simp only [ih (m + 1) _ fun j hj => h j (by omega)]

theorem getCheckpoints_error
    {reader : Option Nat → Nat → Bool → Except Error (List Checkpoint)}
    {cursor limit : Option Nat} {descending : Bool} {e : Error}
    (hv : validateLimit limit queryMaxResultLimitCheckpoints = .error e) :
    ReadApiV2.getCheckpoints reader cursor limit descending = .error e := by
  simp only [ReadApiV2.getCheckpoints, hv, except_error_bind]

/-! ### Views of a growing index -/

section Views

variable {s s' : CheckpointStore} {ext : List Checkpoint}

theorem GrowsByAppending.prefix {stores : Nat → CheckpointStore} (h : GrowsByAppending stores)
    {i j : Nat} (hij : i ≤ j) : (stores i).checkpoints <+: (stores j).checkpoints := by
  induction j, hij using Nat.le_induction with
  | base => exact List.prefix_refl _
  | succ j _ ih => exact ih.trans (h j)

theorem CheckpointStore.reader_congr (h : s.checkpoints = s'.checkpoints) :
    s.reader = s'.reader := by
  cases s; cases s'; subst h; rfl

theorem CheckpointStore.mem_pastCursor {descending : Bool} {cursor : Option Nat} {y : Checkpoint}
    (hy : y ∈ s.pastCursor descending cursor) :
    y ∈ s.checkpoints ∧ ∀ c ∈ cursor, precedes descending c y.sequenceNumber = true := by
  simp only [CheckpointStore.pastCursor, afterCursor, List.mem_filter] at hy
  refine ⟨?_, fun c hc => ?_⟩
  · cases descending <;> simpa [CheckpointStore.inOrder] using hy.1
  · cases hc
    simpa using hy.2

theorem CheckpointStore.length_pastCursor_le (descending : Bool) (cursor : Option Nat) :
    (s.pastCursor descending cursor).length ≤ s.checkpoints.length := by
  cases descending <;>
    simp [CheckpointStore.pastCursor, CheckpointStore.inOrder, afterCursor, List.length_filter_le]

/-- The checkpoints appended to a view lie above every checkpoint it held. -/
theorem CheckpointStore.lt_of_append (h : s'.checkpoints = s.checkpoints ++ ext) {y x : Checkpoint}
    (hy : y ∈ s.checkpoints) (hx : x ∈ ext) : y.sequenceNumber < x.sequenceNumber := by
  have hsorted := s'.sorted
  rw [h, List.pairwise_append] at hsorted
  exact hsorted.2.2 y hy x hx

/-- Read oldest first past a cursor below some checkpoint of a view, a later view adds exactly the
checkpoints appended since. -/
theorem pastCursor_ascending_append (h : s'.checkpoints = s.checkpoints ++ ext)
    {cursor : Option Nat}
    (hc : ∀ c ∈ cursor, ∃ y ∈ s.checkpoints, c ≤ y.sequenceNumber) :
    s'.pastCursor false cursor = s.pastCursor false cursor ++ ext := by
  simp only [CheckpointStore.pastCursor, CheckpointStore.inOrder, Bool.false_eq_true, if_false,
    afterCursor, h, List.filter_append]
  refine congrArg _ (List.filter_eq_self.2 fun x hx => ?_)
  rcases cursor with _ | c
  · rfl
  · obtain ⟨y, hy, hcy⟩ := hc c rfl
    have := CheckpointStore.lt_of_append h hy hx
    simp only [Option.all_some, precedes, Bool.false_eq_true, if_false, decide_eq_true_eq]
    omega

/-- Read newest first past a cursor below some checkpoint of a view, a later view holds the same
checkpoints. -/
theorem pastCursor_descending_append (h : s'.checkpoints = s.checkpoints ++ ext) {c : Nat}
    (hc : ∃ y ∈ s.checkpoints, c ≤ y.sequenceNumber) :
    s'.pastCursor true (some c) = s.pastCursor true (some c) := by
  obtain ⟨y, hy, hcy⟩ := hc
  simp only [CheckpointStore.pastCursor, CheckpointStore.inOrder, if_true, afterCursor, h,
    List.reverse_append, List.filter_append]
  refine (congrArg (· ++ _) (List.filter_eq_nil_iff.2 fun x hx => ?_)).trans (List.nil_append _)
  have := CheckpointStore.lt_of_append h hy (List.mem_reverse.1 hx)
  simp only [Option.all_some, precedes, if_true, decide_eq_true_eq]
  omega

end Views

/-- A page that is not the last one ends with a checkpoint past the cursor. -/
theorem exists_getLast?_take {xs : List Checkpoint} {l : Nat} (hl : 0 < l) (hlt : l < xs.length) :
    ∃ y ∈ xs, (xs.take l).getLast? = some y := by
  have hne : xs.take l ≠ [] := List.ne_nil_of_length_pos (by rw [List.length_take]; omega)
  exact ⟨_, List.mem_of_mem_take (List.getLast_mem hne), List.getLast?_eq_getLast _ hne⟩

theorem pageCount_mono {k k' : Nat} (l : Nat) (h : k ≤ k') :
    pageCount k l ≤ pageCount k' l := by
  have : (k + l - 1) / l ≤ (k' + l - 1) / l := Nat.div_le_div_right (by omega)
  unfold pageCount
  omega

/-! ### Walks over a growing index -/

section Walks

variable {stores : Nat → CheckpointStore} {limit : Option Nat} {l : Nat}

/-- Read newest first, a walk over a growing index is the plain walk over the view its first call
read. -/
theorem walkPagesLive_descending_eq (hgrow : GrowsByAppending stores) (i : Nat) :
    ∀ fuel m cursor, i ≤ m →
      (stores m).pastCursor true cursor = (stores i).pastCursor true cursor →
      walkPagesLive (fun j => (stores j).reader) limit true fuel m cursor =
        walkPages (stores i).reader limit true fuel cursor := by
  intro fuel
  induction fuel with
  | zero => intros; rfl
  | succ fuel ih =>
    intro m cursor hm hpast
    rcases hv : validateLimit limit queryMaxResultLimitCheckpoints with e | l
    · simp only [walkPagesLive, walkPages, getCheckpoints_error hv]
    rw [walkPagesLive, walkPages, getCheckpoints_reader (stores m) cursor hv,
      getCheckpoints_reader (stores i) cursor hv, hpast]
    by_cases hlt : l < ((stores i).pastCursor true cursor).length
    · obtain ⟨y, hy, hlast⟩ := exists_getLast?_take (validateLimit_pos hv) hlt
      obtain ⟨ext, hext⟩ := hgrow.prefix (Nat.le_succ_of_le hm)
      have hnext : (stores (m + 1)).pastCursor true (some y.sequenceNumber) =
          (stores i).pastCursor true (some y.sequenceNumber) :=
        pastCursor_descending_append hext.symm
          ⟨y, (CheckpointStore.mem_pastCursor hy).1, le_rfl⟩
      simp only [decide_eq_true hlt, if_true, hlast, Option.map_some',
        ih (m + 1) _ (Nat.le_succ_of_le hm) hnext]
    · simp only [decide_eq_false hlt, Bool.false_eq_true, if_false]

/-- Read oldest first, a walk over a growing index that ends has collected exactly the checkpoints
past its cursor in the view its last call read. -/
theorem walkPagesLive_ascending_collects (hgrow : GrowsByAppending stores) :
    ∀ fuel i cursor xs calls,
      walkPagesLive (fun j => (stores j).reader) limit false fuel i cursor =
        some (.ok (xs, calls)) →
      xs = (stores (i + calls - 1)).pastCursor false cursor := by
  intro fuel
  induction fuel with
  | zero => intro _ _ _ _ h; cases h
  | succ fuel ih =>
    intro i cursor xs calls h
    rcases hv : validateLimit limit queryMaxResultLimitCheckpoints with e | l
    · simp [walkPagesLive, getCheckpoints_error hv] at h
    rw [walkPagesLive, getCheckpoints_reader (stores i) cursor hv] at h
    by_cases hlt : l < ((stores i).pastCursor false cursor).length
    · obtain ⟨y, hy, hlast⟩ := exists_getLast?_take (validateLimit_pos hv) hlt
      simp only [decide_eq_true hlt, if_true, hlast, Option.map_some', Option.map_eq_some'] at h
      obtain ⟨(e | ⟨rest, calls'⟩), hrest, hxs⟩ := h
      · cases hxs
      simp only [Except.map, Except.ok.injEq, Prod.mk.injEq] at hxs
      obtain ⟨rfl, rfl⟩ := hxs
      obtain ⟨ext, hext⟩ := hgrow.prefix (Nat.le_add_right i calls')
      have hyi := (CheckpointStore.mem_pastCursor hy).1
      have hnext : (stores i).pastCursor false
          ((((stores i).pastCursor false cursor).take l).getLast?.map (·.sequenceNumber)) =
          ((stores i).pastCursor false cursor).drop l :=
        afterCursor_nextCursor ((stores i).pairwise_inOrder false) cursor (validateLimit_pos hv) hlt
      rw [hlast, Option.map_some'] at hnext
      have hcursor : ∀ c ∈ cursor, ∃ y ∈ (stores i).checkpoints, c ≤ y.sequenceNumber :=
        fun c hc => ⟨y, hyi, (by simpa [precedes] using
          (CheckpointStore.mem_pastCursor hy).2 c hc : c < y.sequenceNumber).le⟩
      calc _ = ((stores i).pastCursor false cursor).take l ++
            (stores (i + calls')).pastCursor false (some y.sequenceNumber) := by
            rw [ih _ _ _ _ hrest, Nat.add_right_comm, Nat.add_sub_cancel]
        _ = ((stores i).pastCursor false cursor).take l ++
            (((stores i).pastCursor false cursor).drop l ++ ext) := by
            rw [pastCursor_ascending_append hext.symm fun c hc => ⟨y, hyi, by cases hc; rfl⟩,
              hnext]
        _ = (stores (i + (calls' + 1) - 1)).pastCursor false cursor := by
            rw [← List.append_assoc, List.take_append_drop,
              show i + (calls' + 1) - 1 = i + calls' by omega,
              pastCursor_ascending_append hext.symm hcursor]
    · simp only [decide_eq_false hlt, Bool.false_eq_true, if_false, Option.some.injEq,
        Except.ok.injEq, Prod.mk.injEq] at h
      obtain ⟨rfl, rfl⟩ := h
      exact List.take_of_length_le (by omega)

/-- Read oldest first, a walk ends once the index stops growing: from call `N` on, with `n`
checkpoints, it needs at most `N + max(1, ⌈n / limit⌉)` calls. -/
theorem walkPagesLive_ascending_ends
    (hl : validateLimit limit queryMaxResultLimitCheckpoints = .ok l)
    {N : Nat} (hstop : ∀ j, N ≤ j → (stores j).checkpoints = (stores N).checkpoints) :
    ∀ fuel m cursor, N - m + pageCount (stores N).checkpoints.length l ≤ fuel →
      ∃ xs calls, walkPagesLive (fun j => (stores j).reader) limit false fuel m cursor =
        some (.ok (xs, calls)) := by
  intro fuel
  induction fuel with
  | zero =>
    intro m cursor h
    exact absurd h (by have := pageCount_pos (stores N).checkpoints.length l; omega)
  | succ fuel ih =>
    intro m cursor hfuel
    by_cases hmN : N ≤ m
    · have hpages : pageCount ((stores N).pastCursor false cursor).length l ≤ fuel + 1 :=
        (pageCount_mono l (CheckpointStore.length_pastCursor_le false cursor)).trans (by omega)
      rw [walkPagesLive_of_stable _ m cursor fun j hj =>
          CheckpointStore.reader_congr (hstop j (hmN.trans hj)),
        walkPages_reader (stores N) hl _ cursor hpages]
      exact ⟨_, _, rfl⟩
    rw [walkPagesLive, getCheckpoints_reader (stores m) cursor hl]
    by_cases hlt : l < ((stores m).pastCursor false cursor).length
    · obtain ⟨xs, calls, h⟩ := ih (m + 1)
        ((((stores m).pastCursor false cursor).take l).getLast?.map (·.sequenceNumber)) (by omega)
      simp only [decide_eq_true hlt, if_true, h, Option.map_some']
      exact ⟨_, _, rfl⟩
    · simp only [decide_eq_false hlt, Bool.false_eq_true, if_false]
      exact ⟨_, _, rfl⟩

end Walks

/-- **Pages newest first while the indexer writes.** Over an index that only grows by appending, a
client paging newest first gets exactly what it would get from the index as its first call saw it:
the same pages in the same calls, whatever is written meanwhile. For a page size that
`validate_limit` accepts, it so collects every checkpoint past its cursor in that view, once and in
order, in `max(1, ⌈k / limit⌉)` calls. -/
theorem pagesWhileIndexing_descending (stores : Nat → CheckpointStore)
    (hgrow : GrowsByAppending stores) (limit : Option Nat) (l : Nat)
    (hl : validateLimit limit queryMaxResultLimitCheckpoints = .ok l) (i : Nat)
    (cursor : Option Nat) :
    (∀ fuel, walkPagesLive (fun j => (stores j).reader) limit true fuel i cursor =
      walkPages (stores i).reader limit true fuel cursor) ∧
    ∀ fuel, pageCount ((stores i).pastCursor true cursor).length l ≤ fuel →
      walkPagesLive (fun j => (stores j).reader) limit true fuel i cursor =
        some (.ok ((stores i).pastCursor true cursor,
          pageCount ((stores i).pastCursor true cursor).length l)) :=
  ⟨fun fuel => walkPagesLive_descending_eq hgrow i fuel i cursor le_rfl rfl,
    fun fuel hfuel => (walkPagesLive_descending_eq hgrow i fuel i cursor le_rfl rfl).trans
      (walkPages_reader (stores i) hl fuel cursor hfuel)⟩

/-- **Pages oldest first while the indexer writes.** Over an index that only grows by appending, a
client paging oldest first that finishes has collected exactly the checkpoints past its cursor in
the index as its last call saw it: those written during the walk included, none twice, in order.
While the indexer outpaces it the walk goes on; once the index stops growing at view `N`, with `n`
checkpoints, it finishes within `N - i + max(1, ⌈n / limit⌉)` calls. -/
theorem pagesWhileIndexing_ascending (stores : Nat → CheckpointStore)
    (hgrow : GrowsByAppending stores) (limit : Option Nat) (l : Nat)
    (hl : validateLimit limit queryMaxResultLimitCheckpoints = .ok l) (i : Nat)
    (cursor : Option Nat) :
    (∀ fuel xs calls, walkPagesLive (fun j => (stores j).reader) limit false fuel i cursor =
        some (.ok (xs, calls)) →
      xs = (stores (i + calls - 1)).pastCursor false cursor) ∧
    ∀ N, (∀ j, N ≤ j → (stores j).checkpoints = (stores N).checkpoints) →
      ∀ fuel, N - i + pageCount (stores N).checkpoints.length l ≤ fuel →
        ∃ calls, walkPagesLive (fun j => (stores j).reader) limit false fuel i cursor =
          some (.ok ((stores (i + calls - 1)).pastCursor false cursor, calls)) := by
  refine ⟨fun fuel => walkPagesLive_ascending_collects hgrow fuel i cursor,
    fun N hstop fuel hfuel => ?_⟩
  obtain ⟨xs, calls, h⟩ := walkPagesLive_ascending_ends hl hstop fuel i cursor hfuel
  exact ⟨calls, walkPagesLive_ascending_collects hgrow fuel i cursor xs calls h ▸ h⟩

/-- The index while the indexer writes the three checkpoints: view `j` holds the first `j + 1`. -/
def threeCheckpointsWritten (j : Nat) : CheckpointStore :=
  ⟨threeCheckpoints.checkpoints.take (j + 1),
    threeCheckpoints.sorted.sublist (List.take_sublist _ _)⟩

theorem threeCheckpointsWritten_grows : GrowsByAppending threeCheckpointsWritten := fun j => by
  have h := List.take_prefix (j + 1) (threeCheckpoints.checkpoints.take (j + 2))
  rwa [List.take_take, min_eq_left (Nat.le_succ _)] at h

/-- Started at view 1, two checkpoints, with pages of one, the walk newest first reads views 1
and 2 and returns view 1's two checkpoints. -/
theorem pagesWhileIndexing_descending_while_written :
    GrowsByAppending threeCheckpointsWritten ∧
    validateLimit (some 1) queryMaxResultLimitCheckpoints = .ok 1 ∧
    ((∀ fuel,
      walkPagesLive (fun j => (threeCheckpointsWritten j).reader) (some 1) true fuel 1 none =
        walkPages (threeCheckpointsWritten 1).reader (some 1) true fuel none) ∧
    ∀ fuel, pageCount ((threeCheckpointsWritten 1).pastCursor true none).length 1 ≤ fuel →
      walkPagesLive (fun j => (threeCheckpointsWritten j).reader) (some 1) true fuel 1 none =
        some (.ok ((threeCheckpointsWritten 1).pastCursor true none,
          pageCount ((threeCheckpointsWritten 1).pastCursor true none).length 1))) ∧
    walkPagesLive (fun j => (threeCheckpointsWritten j).reader) (some 1) true 2 1 none =
      some (.ok ((threeCheckpointsWritten 1).pastCursor true none, 2)) :=
  ⟨threeCheckpointsWritten_grows, rfl,
    pagesWhileIndexing_descending threeCheckpointsWritten threeCheckpointsWritten_grows (some 1) 1
      rfl 1 none, rfl⟩

/-- Started at view 1 with pages of one, the walk oldest first also collects checkpoint 2, written
during the walk, and ends after three calls. -/
theorem pagesWhileIndexing_ascending_while_written :
    GrowsByAppending threeCheckpointsWritten ∧
    validateLimit (some 1) queryMaxResultLimitCheckpoints = .ok 1 ∧
    (∀ j, 2 ≤ j →
      (threeCheckpointsWritten j).checkpoints = (threeCheckpointsWritten 2).checkpoints) ∧
    ((∀ fuel xs calls,
        walkPagesLive (fun j => (threeCheckpointsWritten j).reader) (some 1) false fuel 1 none =
          some (.ok (xs, calls)) →
        xs = (threeCheckpointsWritten (1 + calls - 1)).pastCursor false none) ∧
    ∀ N, (∀ j, N ≤ j → (threeCheckpointsWritten j).checkpoints =
        (threeCheckpointsWritten N).checkpoints) →
      ∀ fuel, N - 1 + pageCount (threeCheckpointsWritten N).checkpoints.length 1 ≤ fuel →
        ∃ calls,
          walkPagesLive (fun j => (threeCheckpointsWritten j).reader) (some 1) false fuel 1 none =
            some (.ok ((threeCheckpointsWritten (1 + calls - 1)).pastCursor false none, calls))) ∧
    walkPagesLive (fun j => (threeCheckpointsWritten j).reader) (some 1) false 3 1 none =
      some (.ok ((threeCheckpointsWritten 3).pastCursor false none, 3)) :=
  ⟨threeCheckpointsWritten_grows, rfl,
    fun j hj => by simp [threeCheckpointsWritten, List.take_of_length_le, threeCheckpoints]; omega,
    pagesWhileIndexing_ascending threeCheckpointsWritten threeCheckpointsWritten_grows (some 1) 1
      rfl 1 none, rfl⟩

end SuiLudka
