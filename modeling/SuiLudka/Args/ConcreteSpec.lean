import SuiLudka.Args.Concrete

/-!
# Where references may stand

Concretizing a parsed value tree reaches a panic of `assert_move_value` or `assert_object` exactly
when a reference leaf (`object`, `receiving`, `digest`) stands anywhere but at the top of the tree or
as an element of a non-empty top-level vector made only of `object(...)` leaves
(`intoConcreteValue_spec`). A nested reference, a vector that mixes kinds, and a vector of objects
whose first element is not an object all end in a panic; the panic is the only way the traversal
fails once every named address is bound. When it succeeds, the result is the value the tree denotes:
the reference, the object vector of its elements' handles in order, or a Move value of the tree's
shape.

The three facts it rests on are proved by induction over the tree and its element lists: a tree
without references concretizes to its plain Move value (`intoConcreteValue_of_hasRef_false`); a tree
with a reference never concretizes to a Move value (`isMoveValue_of_hasRef`); and only an
`object(...)` leaf concretizes to an object (`intoConcreteValue_eq_object_iff`).
-/

namespace SuiLudka

namespace ParsedValue

section Spec

variable (mapping : String → Option AccountAddress)

mutual

/-- The tree holds an `object`, `receiving` or `digest` leaf. -/
def hasRef : ParsedValue → Bool
  | .custom _ => true
  | .vector values => hasRefs values
  | .struct values => hasRefs values
  | .address _ => false
  | .prim _ => false

def hasRefs : List ParsedValue → Bool
  | [] => false
  | v :: vs => v.hasRef || hasRefs vs

end

mutual

/-- Every named address of the tree is bound by the mapping. -/
def AllBound : ParsedValue → Prop
  | .address (.named name) => (mapping name).isSome
  | .address (.numerical _) => True
  | .prim _ => True
  | .vector values => AllBoundList values
  | .struct values => AllBoundList values
  | .custom _ => True

def AllBoundList : List ParsedValue → Prop
  | [] => True
  | v :: vs => AllBound v ∧ AllBoundList vs

end

mutual

/-- The Move value a tree denotes; `none` when it holds a reference leaf or an unbound name. -/
def plainValue : ParsedValue → Option MoveValue
  | .address a => (a.intoAccountAddress mapping).toOption.map .address
  | .prim v => some v
  | .vector values => (plainValues values).map .vector
  | .struct values => (plainValues values).map .struct
  | .custom _ => none

def plainValues : List ParsedValue → Option (List MoveValue)
  | [] => some []
  | v :: vs => match plainValue v, plainValues vs with
    | some m, some ms => some (m :: ms)
    | _, _ => none

end

/-- The handle and version of an `object(...)` leaf. -/
def objectPair? : ParsedValue → Option (FakeID × Option SequenceNumber)
  | .custom (.object fakeId version) => some (fakeId, version)
  | _ => none

def isRef : ParsedValue → Bool
  | .custom _ => true
  | _ => false

/-- A non-empty vector whose elements are all `object(...)` leaves. -/
def isObjectVector : ParsedValue → Bool
  | .vector values => !values.isEmpty && values.all (·.objectPair?.isSome)
  | _ => false

/-- Every reference leaf of the tree is the tree itself, or an element of the tree where the tree is
a non-empty vector of `object(...)` leaves. -/
def RefsWellPlaced (t : ParsedValue) : Prop :=
  t.isRef = true ∨ t.isObjectVector = true ∨ t.hasRef = false

/-- What a tree whose references are well placed concretizes to: a reference leaf the reference of
the same kind with the same payload, a non-empty vector of `object(...)` leaves the object vector of
their handles, and any other tree the Move value it denotes. -/
def expectedConcrete (t : ParsedValue) : Option SuiValue :=
  match t with
  | .custom (.object fakeId version) => some (.object fakeId version)
  | .custom (.receiving fakeId version) => some (.receiving fakeId version)
  | .custom (.digest package) => some (.digest package)
  | .vector values =>
    if t.isObjectVector then some (.objVec (values.filterMap objectPair?))
    else (plainValue mapping t).map .moveValue
  | _ => (plainValue mapping t).map .moveValue

end Spec

/-! ### The narrowings and the two inner-node hooks -/

section Proofs

variable {mapping : String → Option AccountAddress}

@[simp]
theorem assertMoveValue_eq_ok {c : SuiValue} {m : MoveValue} :
    c.assertMoveValue = .ok m ↔ c = .moveValue m := by
  cases c <;> simp [SuiValue.assertMoveValue]

@[simp]
theorem assertObject_eq_ok {c : SuiValue} {p : FakeID × Option SequenceNumber} :
    c.assertObject = .ok p ↔ c = .object p.1 p.2 := by
  obtain ⟨fid, ver⟩ := p
  cases c <;> simp [SuiValue.assertObject]

theorem assertMoveValue_error {c : SuiValue} {f : Fault} (h : c.assertMoveValue = .error f) :
    ∃ m, f = .panic m := by
  cases c <;> cases h <;> exact ⟨_, rfl⟩

theorem assertObject_error {c : SuiValue} {f : Fault} (h : c.assertObject = .error f) :
    ∃ m, f = .panic m := by
  cases c <;> cases h <;> exact ⟨_, rfl⟩

theorem concreteStruct_eq_ok {cs : List SuiValue} {c : SuiValue} :
    concreteStruct cs = .ok c ↔
      ∃ ms, List.Forall₂ (fun c m => c = .moveValue m) cs ms ∧ c = .moveValue (.struct ms) := by
  rw [concreteStruct, except_bind_eq_ok]
  simp only [mapM_eq_ok_iff, assertMoveValue_eq_ok, except_pure_eq_ok]
  exact exists_congr fun _ => and_congr_right fun _ => eq_comm

theorem head?_any_of_isEmpty {cs : List SuiValue} :
    (!cs.isEmpty && cs.head?.any SuiValue.isObject) = cs.head?.any SuiValue.isObject := by
  cases cs <;> rfl

theorem concreteVector_eq_ok {cs : List SuiValue} {c : SuiValue} :
    concreteVector cs = .ok c ↔
      (cs.head?.any SuiValue.isObject = true ∧
        ∃ ps, List.Forall₂ (fun c p => c = .object p.1 p.2) cs ps ∧ c = .objVec ps) ∨
      (cs.head?.any SuiValue.isObject = false ∧
        ∃ ms, List.Forall₂ (fun c m => c = .moveValue m) cs ms ∧ c = .moveValue (.vector ms)) := by
  rw [concreteVector, head?_any_of_isEmpty]
  cases h : cs.head?.any SuiValue.isObject <;>
    simp only [if_true, if_false, except_bind_eq_ok, mapM_eq_ok_iff, assertObject_eq_ok,
      assertMoveValue_eq_ok, except_pure_eq_ok, true_and, false_and, or_false, false_or,
      Bool.false_eq_true, Bool.true_eq_false] <;>
    exact exists_congr fun _ => and_congr_right fun _ => eq_comm

theorem concreteStruct_error {cs : List SuiValue} {f : Fault} (h : concreteStruct cs = .error f) :
    ∃ m, f = .panic m := by
  rw [concreteStruct] at h
  cases hm : cs.mapM SuiValue.assertMoveValue with
  | ok ms => rw [hm] at h; cases h
  | error f' =>
    rw [hm] at h
    cases h
    obtain ⟨_, c, _, -, -, hc⟩ := mapM_eq_error_iff.1 hm
    exact assertMoveValue_error hc

theorem concreteVector_error {cs : List SuiValue} {f : Fault} (h : concreteVector cs = .error f) :
    ∃ m, f = .panic m := by
  rw [concreteVector] at h
  split at h
  · cases hm : cs.mapM SuiValue.assertObject with
    | ok ps => rw [hm] at h; cases h
    | error f' =>
      rw [hm] at h
      cases h
      obtain ⟨_, c, _, -, -, hc⟩ := mapM_eq_error_iff.1 hm
      exact assertObject_error hc
  · cases hm : cs.mapM SuiValue.assertMoveValue with
    | ok ms => rw [hm] at h; cases h
    | error f' =>
      rw [hm] at h
      cases h
      obtain ⟨_, c, _, -, -, hc⟩ := mapM_eq_error_iff.1 hm
      exact assertMoveValue_error hc

theorem forall₂_map_moveValue (ms : List MoveValue) :
    List.Forall₂ (fun c m => c = SuiValue.moveValue m) (ms.map .moveValue) ms :=
  List.forall₂_map_left_iff.2 (List.forall₂_same.2 fun _ _ => rfl)

theorem isMoveValue_of_forall₂ {cs : List SuiValue} {ms : List MoveValue}
    (h : List.Forall₂ (fun c m => c = SuiValue.moveValue m) cs ms) :
    ∀ c ∈ cs, c.isMoveValue = true := by
  induction h with
  | nil => simp
  | cons hc _ ih =>
    rintro c (_ | ⟨_, hmem⟩)
    · rw [hc]; rfl
    · exact ih c hmem

/-! ### Induction over the tree -/

mutual

/-- Once every named address is bound, concretization fails only by panicking. -/
theorem intoConcreteValue_error : ∀ (t : ParsedValue), t.AllBound mapping →
    ∀ {f : Fault}, t.intoConcreteValue mapping = .error f → ∃ m, f = .panic m
  | .address (.numerical _), _, _, h => by cases h
  | .address (.named name), hb, _, h => by
    obtain ⟨a, ha⟩ := Option.isSome_iff_exists.1 hb
    simp [intoConcreteValue, ParsedAddress.intoAccountAddress, ha, bind, Except.bind,
      moveValueIntoConcrete, liftError] at h
  | .prim _, _, _, h => by cases h
  | .vector values, hb, _, h => by
    rw [intoConcreteValue, except_bind_eq_error] at h
    rcases h with h | ⟨cs, -, h⟩
    · exact intoConcreteValues_error values hb h
    · exact concreteVector_error h
  | .struct values, hb, _, h => by
    rw [intoConcreteValue, except_bind_eq_error] at h
    rcases h with h | ⟨cs, -, h⟩
    · exact intoConcreteValues_error values hb h
    · exact concreteStruct_error h
  | .custom extra, _, _, h => by cases extra <;> cases h

theorem intoConcreteValues_error : ∀ (values : List ParsedValue), AllBoundList mapping values →
    ∀ {f : Fault}, intoConcreteValues mapping values = .error f → ∃ m, f = .panic m
  | [], _, _, h => by cases h
  | v :: vs, ⟨hv, hvs⟩, _, h => by
    rw [intoConcreteValues, except_bind_eq_error] at h
    rcases h with h | ⟨c, -, h⟩
    · exact intoConcreteValue_error v hv h
    · rw [except_bind_eq_error] at h
      rcases h with h | ⟨cs, -, h⟩
      · exact intoConcreteValues_error vs hvs h
      · cases h

end

theorem concreteVector_map_moveValue (ms : List MoveValue) :
    concreteVector (ms.map .moveValue) = .ok (.moveValue (.vector ms)) := by
  refine concreteVector_eq_ok.2 (.inr ⟨?_, ms, forall₂_map_moveValue ms, rfl⟩)
  cases ms <;> rfl

theorem concreteStruct_map_moveValue (ms : List MoveValue) :
    concreteStruct (ms.map .moveValue) = .ok (.moveValue (.struct ms)) :=
  concreteStruct_eq_ok.2 ⟨ms, forall₂_map_moveValue ms, rfl⟩

mutual

/-- A tree without references concretizes to the Move value it denotes. -/
theorem intoConcreteValue_of_hasRef_false : ∀ (t : ParsedValue), t.AllBound mapping →
    t.hasRef = false →
      ∃ m, t.plainValue mapping = some m ∧ t.intoConcreteValue mapping = .ok (.moveValue m)
  | .address (.numerical a), _, _ => ⟨.address a, rfl, rfl⟩
  | .address (.named name), hb, _ => by
    obtain ⟨a, ha⟩ := Option.isSome_iff_exists.1 hb
    exact ⟨.address a, by simp [plainValue, ParsedAddress.intoAccountAddress, ha, Except.toOption],
      by simp [intoConcreteValue, ParsedAddress.intoAccountAddress, ha, bind, Except.bind,
        moveValueIntoConcrete, liftError]⟩
  | .prim v, _, _ => ⟨v, rfl, rfl⟩
  | .vector values, hb, hr => by
    obtain ⟨ms, hms, hcs⟩ := intoConcreteValues_of_hasRefs_false values hb hr
    refine ⟨.vector ms, by simp [plainValue, hms], ?_⟩
    rw [intoConcreteValue, hcs]
    exact concreteVector_map_moveValue ms
  | .struct values, hb, hr => by
    obtain ⟨ms, hms, hcs⟩ := intoConcreteValues_of_hasRefs_false values hb hr
    refine ⟨.struct ms, by simp [plainValue, hms], ?_⟩
    rw [intoConcreteValue, hcs]
    exact concreteStruct_map_moveValue ms
  | .custom _, _, hr => by cases hr

theorem intoConcreteValues_of_hasRefs_false : ∀ (values : List ParsedValue),
    AllBoundList mapping values → hasRefs values = false →
      ∃ ms, plainValues mapping values = some ms ∧
        intoConcreteValues mapping values = .ok (ms.map .moveValue)
  | [], _, _ => ⟨[], rfl, rfl⟩
  | v :: vs, ⟨hv, hvs⟩, hr => by
    simp only [hasRefs, Bool.or_eq_false_iff] at hr
    obtain ⟨m, hm, hc⟩ := intoConcreteValue_of_hasRef_false v hv hr.1
    obtain ⟨ms, hms, hcs⟩ := intoConcreteValues_of_hasRefs_false vs hvs hr.2
    exact ⟨m :: ms, by simp [plainValues, hm, hms], by
      simp [intoConcreteValues, hc, hcs, bind, Except.bind, pure, Except.pure]⟩

end

mutual

/-- A tree holding a reference never concretizes to a Move value. -/
theorem isMoveValue_of_hasRef : ∀ (t : ParsedValue), t.hasRef = true →
    ∀ {c : SuiValue}, t.intoConcreteValue mapping = .ok c → c.isMoveValue = false
  | .address _, hr, _, _ => by cases hr
  | .prim _, hr, _, _ => by cases hr
  | .vector values, hr, _, h => by
    rw [intoConcreteValue, except_bind_eq_ok] at h
    obtain ⟨cs, hcs, hv⟩ := h
    rcases concreteVector_eq_ok.1 hv with ⟨-, ps, -, rfl⟩ | ⟨-, ms, hms, rfl⟩
    · rfl
    · obtain ⟨c, hc, hnot⟩ := exists_not_isMoveValue_of_hasRefs values hr hcs
      simp [isMoveValue_of_forall₂ hms c hc] at hnot
  | .struct values, hr, _, h => by
    rw [intoConcreteValue, except_bind_eq_ok] at h
    obtain ⟨cs, hcs, hv⟩ := h
    obtain ⟨ms, hms, rfl⟩ := concreteStruct_eq_ok.1 hv
    obtain ⟨c, hc, hnot⟩ := exists_not_isMoveValue_of_hasRefs values hr hcs
    simp [isMoveValue_of_forall₂ hms c hc] at hnot
  | .custom extra, _, _, h => by cases extra <;> (cases h; rfl)

theorem exists_not_isMoveValue_of_hasRefs : ∀ (values : List ParsedValue), hasRefs values = true →
    ∀ {cs : List SuiValue}, intoConcreteValues mapping values = .ok cs →
      ∃ c ∈ cs, c.isMoveValue = false
  | [], hr, _, _ => by cases hr
  | v :: vs, hr, _, h => by
    rw [intoConcreteValues, except_bind_eq_ok] at h
    obtain ⟨c, hc, h⟩ := h
    rw [except_bind_eq_ok] at h
    obtain ⟨cs, hcs, h⟩ := h
    cases h
    simp only [hasRefs, Bool.or_eq_true] at hr
    rcases hr with hr | hr
    · exact ⟨c, List.mem_cons_self _ _, isMoveValue_of_hasRef v hr hc⟩
    · obtain ⟨c', hmem, hnot⟩ := exists_not_isMoveValue_of_hasRefs vs hr hcs
      exact ⟨c', List.mem_cons_of_mem _ hmem, hnot⟩

end

/-! ### Object vectors -/

/-- Only an `object(...)` leaf concretizes to an object. -/
theorem intoConcreteValue_eq_object_iff {t : ParsedValue} {fid : FakeID}
    {ver : Option SequenceNumber} :
    t.intoConcreteValue mapping = .ok (.object fid ver) ↔ t = .custom (.object fid ver) := by
  refine ⟨fun h => ?_, by rintro rfl; rfl⟩
  cases t with
  | address a =>
    rw [intoConcreteValue, except_bind_eq_ok] at h
    obtain ⟨_, -, h⟩ := h
    cases h
  | prim v => cases h
  | vector values =>
    rw [intoConcreteValue, except_bind_eq_ok] at h
    obtain ⟨_, -, hv⟩ := h
    rcases concreteVector_eq_ok.1 hv with ⟨-, _, -, hc⟩ | ⟨-, _, -, hc⟩ <;> cases hc
  | struct values =>
    rw [intoConcreteValue, except_bind_eq_ok] at h
    obtain ⟨_, -, hv⟩ := h
    obtain ⟨_, -, hc⟩ := concreteStruct_eq_ok.1 hv
    cases hc
  | custom extra =>
    cases extra <;> cases h
    rfl

theorem eq_object_of_objectPair?_isSome {v : ParsedValue} (h : v.objectPair?.isSome = true) :
    ∃ fid ver, v = .custom (.object fid ver) := by
  match v, h with
  | .custom (.object fid ver), _ => exact ⟨fid, ver, rfl⟩

theorem intoConcreteValues_of_objects : ∀ (values : List ParsedValue),
    values.all (·.objectPair?.isSome) = true →
      intoConcreteValues mapping values =
        .ok ((values.filterMap objectPair?).map fun p => .object p.1 p.2)
  | [], _ => rfl
  | v :: vs, h => by
    simp only [List.all_cons, Bool.and_eq_true] at h
    obtain ⟨fid, ver, rfl⟩ := eq_object_of_objectPair?_isSome h.1
    simp [intoConcreteValues, intoConcreteValues_of_objects vs h.2, objectPair?, bind,
      Except.bind, pure, Except.pure, intoConcreteValue, SuiExtraValueArgs.intoConcreteValue,
      liftError]

theorem all_objectPair?_of_forall₂ {values : List ParsedValue} {cs : List SuiValue}
    {ps : List (FakeID × Option SequenceNumber)}
    (hcs : List.Forall₂ (fun v c => v.intoConcreteValue mapping = .ok c) values cs)
    (hps : List.Forall₂ (fun c p => c = SuiValue.object p.1 p.2) cs ps) :
    values.all (·.objectPair?.isSome) = true := by
  induction hcs generalizing ps with
  | nil => rfl
  | cons hc _ ih =>
    cases hps with
    | cons hp hps =>
      rw [hp, intoConcreteValue_eq_object_iff] at hc
      subst hc
      simpa [objectPair?] using ih hps

theorem hasRef_of_isObjectVector {t : ParsedValue} (h : t.isObjectVector = true) :
    t.hasRef = true := by
  match t, h with
  | .vector (v :: vs), h =>
    simp only [isObjectVector, List.all_cons, Bool.and_eq_true] at h
    obtain ⟨fid, ver, rfl⟩ := eq_object_of_objectPair?_isSome h.2.1
    rfl

/-! ### The whole traversal -/

theorem exists_intoConcreteValue_of_refsWellPlaced {t : ParsedValue} (hb : t.AllBound mapping)
    (hw : t.RefsWellPlaced) :
    ∃ c, t.intoConcreteValue mapping = .ok c ∧ t.expectedConcrete mapping = some c := by
  rcases hw with hr | hov | hnr
  · cases t with
    | custom extra => cases extra <;> exact ⟨_, rfl, rfl⟩
    | _ => cases hr
  · match t, hov with
    | .vector (v :: vs), hov =>
      have hall : (v :: vs).all (·.objectPair?.isSome) = true := by
        simpa [isObjectVector] using hov
      obtain ⟨fid, ver, rfl⟩ := eq_object_of_objectPair?_isSome (List.all_eq_true.1 hall v
        (List.mem_cons_self _ _))
      refine ⟨.objVec ((ParsedValue.custom (.object fid ver) :: vs).filterMap objectPair?), ?_,
        by simp only [expectedConcrete, hov, if_true]⟩
      rw [intoConcreteValue, intoConcreteValues_of_objects _ hall, except_ok_bind]
      exact concreteVector_eq_ok.2 (.inl ⟨by simp [objectPair?, SuiValue.isObject], _,
        List.forall₂_map_left_iff.2 (List.forall₂_same.2 fun _ _ => rfl), rfl⟩)
  · obtain ⟨m, hm, hc⟩ := intoConcreteValue_of_hasRef_false t hb hnr
    refine ⟨_, hc, ?_⟩
    have hov : t.isObjectVector = false := by
      cases h : t.isObjectVector
      · rfl
      · simp [hasRef_of_isObjectVector h] at hnr
    cases t with
    | vector values => simp [expectedConcrete, hov, hm]
    | custom => cases hnr
    | _ => simp [expectedConcrete, hm]

theorem refsWellPlaced_of_intoConcreteValue {t : ParsedValue} {c : SuiValue}
    (h : t.intoConcreteValue mapping = .ok c) : t.RefsWellPlaced := by
  cases t with
  | address => exact .inr (.inr rfl)
  | prim => exact .inr (.inr rfl)
  | custom => exact .inl rfl
  | struct values =>
    refine .inr (.inr (Bool.eq_false_iff.2 fun hr => ?_))
    have hmove := isMoveValue_of_hasRef _ hr h
    rw [intoConcreteValue, except_bind_eq_ok] at h
    obtain ⟨_, -, hv⟩ := h
    obtain ⟨_, -, rfl⟩ := concreteStruct_eq_ok.1 hv
    cases hmove
  | vector values =>
    have hmove := @isMoveValue_of_hasRef mapping (.vector values)
    rw [intoConcreteValue, except_bind_eq_ok] at h
    obtain ⟨cs, hcs, hv⟩ := h
    rcases concreteVector_eq_ok.1 hv with ⟨hhead, ps, hps, rfl⟩ | ⟨-, ms, -, rfl⟩
    · refine .inr (.inl ?_)
      have hall := all_objectPair?_of_forall₂
        (mapM_eq_ok_iff.1 ((intoConcreteValues_eq_mapM mapping values).symm.trans hcs)) hps
      cases values with
      | nil =>
        cases cs with
        | nil => cases hhead
        | cons => cases hcs
      | cons v vs => simpa [isObjectVector] using hall
    · refine .inr (.inr (Bool.eq_false_iff.2 fun hr => ?_))
      have := hmove hr (by rw [intoConcreteValue, hcs]; exact hv)
      cases this

/-- **Concretizing a value tree.** Once every named address is bound, concretizing a parsed value
tree succeeds exactly when its reference leaves are well placed, and then gives the value the tree
denotes; every other run ends in a panic of `assert_move_value` or `assert_object`. -/
theorem intoConcreteValue_spec (t : ParsedValue) (hb : t.AllBound mapping) :
    ((∃ c, t.intoConcreteValue mapping = .ok c) ↔ t.RefsWellPlaced) ∧
    (∀ c, t.intoConcreteValue mapping = .ok c → t.expectedConcrete mapping = some c) ∧
    (∀ f, t.intoConcreteValue mapping = .error f → ∃ m, f = .panic m) := by
  refine ⟨⟨fun ⟨_, h⟩ => refsWellPlaced_of_intoConcreteValue h, fun hw => ?_⟩, fun c h => ?_,
    fun _ h => intoConcreteValue_error t hb h⟩
  · obtain ⟨c, hc, -⟩ := exists_intoConcreteValue_of_refsWellPlaced hb hw
    exact ⟨c, hc⟩
  · obtain ⟨c', hc', hexp⟩ :=
      exists_intoConcreteValue_of_refsWellPlaced hb (refsWellPlaced_of_intoConcreteValue h)
    rw [h] at hc'
    cases hc'
    exact hexp

def aliceMapping (name : String) : Option AccountAddress :=
  if name = "alice" then some zeroObjectID else none

def aliceStruct : ParsedValue := struct [address (.named "alice"), vector [prim (.u8 1), prim (.u8 2)]]

theorem intoConcreteValue_spec_namedAddress :
    aliceStruct.AllBound aliceMapping ∧
      (((∃ c, aliceStruct.intoConcreteValue aliceMapping = .ok c) ↔ aliceStruct.RefsWellPlaced) ∧
        (∀ c, aliceStruct.intoConcreteValue aliceMapping = .ok c →
          aliceStruct.expectedConcrete aliceMapping = some c) ∧
        (∀ f, aliceStruct.intoConcreteValue aliceMapping = .error f → ∃ m, f = .panic m)) :=
  have hb : aliceStruct.AllBound aliceMapping := ⟨rfl, ⟨trivial, trivial, trivial⟩, trivial⟩
  ⟨hb, intoConcreteValue_spec _ hb⟩

end Proofs

end ParsedValue

end SuiLudka
