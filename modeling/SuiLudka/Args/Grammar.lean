import SuiLudka.Args.Parse

/-!
# What the value-literal parser accepts

The grammar of the three reference forms of the value language, as inductive predicates over the
token stream:

    object ( H ) V      receiving ( H ) V      digest ( NAME )

where the handle `H` is a 256-bit numeral `n`, or `n , m` with `n ≤ u64::MAX`, and the version `V` is
empty or `@ w`. `parseValue_spec` says that `parse_value` accepts exactly these sentences, consumes
the sentence and nothing after it, declines (`None`) exactly the streams that do not start with one
of the three keywords, and on every other stream fails with an `anyhow` error, never a panic.
-/

namespace SuiLudka

/-- The handle between the parentheses of an `object`/`receiving` literal. `n` alone names the object
id whose big-endian value is `n`; `n , m` with `n ≤ u64::MAX` is the enumerated handle `(n, m)`. -/
inductive HandleTokens : List Token → FakeID → Prop
  | known {n : String} {i : U256} {id : ObjectID} (hn : parseU256 n = .ok i)
      (hid : bigEndianValue id.bytes = i.val) :
      HandleTokens [(.number, n)] (.known id)
  | enumerated {n k m : String} {i : U256} {j : UInt64} (hn : parseU256 n = .ok i)
      (hi : i.val ≤ u64Max) (hm : parseU64 m = .ok j) :
      HandleTokens [(.number, n), (.comma, k), (.number, m)] (.enumerated (UInt64.ofNat i.val) j)

/-- The optional `@ w` after the closing parenthesis; it is absent only when the next token is not
`@`. -/
inductive VersionTokens : List Token → Option SequenceNumber → List Token → Prop
  | absent {rest : List Token} (hrest : rest.head?.map Prod.fst ≠ some .atSign) :
      VersionTokens [] none rest
  | present {a w : String} {v : UInt64} {rest : List Token} (hw : parseU64 w = .ok v) :
      VersionTokens [(.atSign, a), (.number, w)] (some (.fromU64 v)) rest

/-- `ObjectLiteral K ts fakeId version rest`: `ts` is `K ( H ) V` followed by `rest`. Punctuation is
recognised by its kind alone, as `Parser::advance` does. -/
inductive ObjectLiteral (keyword : String) :
    List Token → FakeID → Option SequenceNumber → List Token → Prop
  | mk {o c : String} {hs vs rest : List Token} {fakeId : FakeID} {version : Option SequenceNumber}
      (hh : HandleTokens hs fakeId) (hv : VersionTokens vs version rest) :
      ObjectLiteral keyword
        ((.ident, keyword) :: (.lParen, o) :: (hs ++ (.rParen, c) :: (vs ++ rest))) fakeId version rest

/-- `Accepts ts v rest`: the stream `ts` is a literal denoting `v`, followed by `rest`. -/
inductive Accepts : List Token → SuiExtraValueArgs → List Token → Prop
  | object {ts rest : List Token} {fakeId : FakeID} {version : Option SequenceNumber}
      (h : ObjectLiteral "object" ts fakeId version rest) : Accepts ts (.object fakeId version) rest
  | receiving {ts rest : List Token} {fakeId : FakeID} {version : Option SequenceNumber}
      (h : ObjectLiteral "receiving" ts fakeId version rest) :
      Accepts ts (.receiving fakeId version) rest
  | digest {o x c : String} {rest : List Token} :
      Accepts ((.ident, "digest") :: (.lParen, o) :: (.ident, x) :: (.rParen, c) :: rest) (.digest x)
        rest

/-- A token that starts one of the three reference forms. -/
def IsKeyword (t : Token) : Prop :=
  t = (.ident, "object") ∨ t = (.ident, "receiving") ∨ t = (.ident, "digest")

section Parser

variable {ts rest : List Token} {fid : FakeID} {ver : Option SequenceNumber}

theorem parseHandle_eq_ok_rParen_iff {c : String} :
    parseHandle ts = .ok (fid, (.rParen, c) :: rest) ↔
      ∃ hs, ts = hs ++ (.rParen, c) :: rest ∧ HandleTokens hs fid := by
  rw [parseHandle_eq_ok_iff]
  constructor
  · rintro (⟨n, i, rfl, -, hi, rfl⟩ | ⟨n, k, m, i, j, rfl, hi, hle, hj, rfl⟩)
    · exact ⟨_, rfl, .known hi (toObjectID_eq_iff.1 rfl)⟩
    · exact ⟨_, rfl, .enumerated hi hle hj⟩
  · rintro ⟨hs, rfl, hh⟩
    cases hh with
    | known hn hid => exact .inl ⟨_, _, rfl, by simp, hn, by rw [toObjectID_eq_iff.2 hid]⟩
    | enumerated hn hi hm => exact .inr ⟨_, _, _, _, _, rfl, hn, hi, hm, rfl⟩

theorem parseVersion_eq_ok_iff_versionTokens :
    parseVersion ts = .ok (ver, rest) ↔ ∃ vs, ts = vs ++ rest ∧ VersionTokens vs ver rest := by
  rw [parseVersion_eq_ok_iff]
  constructor
  · rintro (⟨rfl, rfl, hc⟩ | ⟨a, w, v, rfl, hv, rfl⟩)
    · exact ⟨[], rfl, .absent hc⟩
    · exact ⟨_, rfl, .present hv⟩
  · rintro ⟨vs, rfl, hv⟩
    cases hv with
    | absent hc => exact .inl ⟨rfl, rfl, hc⟩
    | present hw => exact .inr ⟨_, _, _, rfl, hw, rfl⟩

/-- `parse_receiving_or_object_value K` accepts exactly the literals `K ( H ) V`. -/
theorem parseReceivingOrObjectValue_eq_ok_iff {keyword : String} :
    parseReceivingOrObjectValue keyword ts = .ok ((fid, ver), rest) ↔
      ObjectLiteral keyword ts fid ver rest := by
  simp only [parseReceivingOrObjectValue, bind_eq_ok, advance_eq_ok, ensure_eq_ok, pure_apply,
    beq_iff_eq, Except.ok.injEq, Prod.mk.injEq]
  constructor
  · rintro ⟨_, _, rfl, _, _, ⟨rfl, rfl⟩, o, _, rfl, fid', _, hh, c, _, rfl, ver', _, hv, ⟨rfl, rfl⟩,
      rfl⟩
    obtain ⟨hs, rfl, hhandle⟩ := parseHandle_eq_ok_rParen_iff.1 hh
    obtain ⟨vs, rfl, hversion⟩ := parseVersion_eq_ok_iff_versionTokens.1 hv
    exact .mk hhandle hversion
  · rintro ⟨hh, hv⟩
    exact ⟨_, _, rfl, (), _, ⟨rfl, rfl⟩, _, _, rfl, fid, _,
      parseHandle_eq_ok_rParen_iff.2 ⟨_, rfl, hh⟩, _, _, rfl, ver, _,
      parseVersion_eq_ok_iff_versionTokens.2 ⟨_, rfl, hv⟩, ⟨rfl, rfl⟩, rfl⟩

theorem parseDigestValue_eq_ok_iff {v : SuiExtraValueArgs} :
    parseDigestValue ts = .ok (v, rest) ↔
      ∃ o x c, ts = (.ident, "digest") :: (.lParen, o) :: (.ident, x) :: (.rParen, c) :: rest ∧
        v = .digest x := by
  simp only [parseDigestValue, bind_eq_ok, advance_eq_ok, ensure_eq_ok, pure_apply, beq_iff_eq,
    Except.ok.injEq, Prod.mk.injEq]
  constructor
  · rintro ⟨_, _, rfl, _, _, ⟨rfl, rfl⟩, o, _, rfl, x, _, rfl, c, _, rfl, rfl, rfl⟩
    exact ⟨o, x, c, rfl, rfl⟩
  · rintro ⟨o, x, c, rfl, rfl⟩
    exact ⟨_, _, rfl, (), _, ⟨rfl, rfl⟩, o, _, rfl, x, _, rfl, c, _, rfl, rfl, rfl⟩

theorem parseObjectLike_eq_ok_iff {keyword : String} {mk : FakeID → Option SequenceNumber → SuiExtraValueArgs}
    {v : SuiExtraValueArgs} :
    ((do let (fakeId, version) ← parseReceivingOrObjectValue keyword; pure (mk fakeId version)) :
        ParserM SuiExtraValueArgs) ts = .ok (v, rest) ↔
      ∃ fid ver, v = mk fid ver ∧ ObjectLiteral keyword ts fid ver rest := by
  simp only [bind_eq_ok, Prod.exists, ← parseReceivingOrObjectValue_eq_ok_iff]
  constructor
  · rintro ⟨fid, ver, _, h, hv⟩
    cases hv
    exact ⟨fid, ver, rfl, h⟩
  · rintro ⟨fid, ver, rfl, h⟩
    exact ⟨fid, ver, _, h, rfl⟩

theorem ObjectLiteral.head? {keyword : String} (h : ObjectLiteral keyword ts fid ver rest) :
    ts.head? = some (.ident, keyword) := by
  cases h
  rfl

theorem Accepts.head? {v : SuiExtraValueArgs} (h : Accepts ts v rest) :
    ∃ t ∈ ts.head?, IsKeyword t := by
  cases h with
  | object h => exact ⟨_, h.head?, .inl rfl⟩
  | receiving h => exact ⟨_, h.head?, .inr (.inl rfl)⟩
  | digest => exact ⟨_, rfl, .inr (.inr rfl)⟩

theorem parseValue_ne_panic (m : String) : parseValue ts ≠ some (.error (.panic m)) := by
  unfold parseValue
  split
  · exact fun h => noPanic_parseObjectValue ts m (Option.some.inj h)
  · exact fun h => noPanic_parseDigestValue ts m (Option.some.inj h)
  · exact fun h => noPanic_parseReceivingValue ts m (Option.some.inj h)
  · exact fun h => by cases h

theorem parseValue_eq_none_iff : parseValue ts = none ↔ ∀ t ∈ ts.head?, ¬ IsKeyword t := by
  unfold parseValue
  split
  · simp [*, IsKeyword]
  · simp [*, IsKeyword]
  · simp [*, IsKeyword]
  · simp only [true_iff]
    rintro t ht (rfl | rfl | rfl) <;> simp_all [Option.mem_def]

theorem parseValue_eq_some_ok_iff {v : SuiExtraValueArgs} :
    parseValue ts = some (.ok (v, rest)) ↔ Accepts ts v rest := by
  unfold parseValue
  split <;> rename_i hhead
  · rw [Option.some.injEq, parseObjectValue, parseObjectLike_eq_ok_iff]
    constructor
    · rintro ⟨fid, ver, rfl, h⟩
      exact .object h
    · intro h
      cases h with
      | object h => exact ⟨_, _, rfl, h⟩
      | receiving h => simp [h.head?] at hhead
      | digest => simp at hhead
  · rw [Option.some.injEq, parseDigestValue_eq_ok_iff]
    constructor
    · rintro ⟨o, x, c, rfl, rfl⟩
      exact .digest
    · intro h
      cases h with
      | object h => simp [h.head?] at hhead
      | receiving h => simp [h.head?] at hhead
      | digest => exact ⟨_, _, _, rfl, rfl⟩
  · rw [Option.some.injEq, parseReceivingValue, parseObjectLike_eq_ok_iff]
    constructor
    · rintro ⟨fid, ver, rfl, h⟩
      exact .receiving h
    · intro h
      cases h with
      | object h => simp [h.head?] at hhead
      | receiving h => exact ⟨_, _, rfl, h⟩
      | digest => simp at hhead
  · simp only [reduceCtorEq, false_iff]
    intro h
    obtain ⟨t, ht, hk⟩ := h.head?
    rw [Option.mem_def] at ht
    rcases hk with rfl | rfl | rfl <;> simp_all

/-- **The value-literal parser.** On every token stream, `parse_value` declines exactly when the
stream does not start with `object`, `receiving` or `digest`; it succeeds exactly on the sentences of
the grammar, leaving the tokens after the sentence unconsumed; and on every other stream it returns
an `anyhow` error, never a panic. -/
theorem parseValue_spec (ts : List Token) :
    (parseValue ts = none ↔ ∀ t ∈ ts.head?, ¬ IsKeyword t) ∧
    (∀ v rest, parseValue ts = some (.ok (v, rest)) ↔ Accepts ts v rest) ∧
    ((∃ e, parseValue ts = some (.error (.error e))) ↔
      (∃ t ∈ ts.head?, IsKeyword t) ∧ ¬ ∃ v rest, Accepts ts v rest) := by
  refine ⟨parseValue_eq_none_iff, fun v rest => parseValue_eq_some_ok_iff, ⟨?_, ?_⟩⟩
  · rintro ⟨e, he⟩
    refine ⟨?_, fun ⟨v, rest, hacc⟩ => by simp [parseValue_eq_some_ok_iff.2 hacc] at he⟩
    by_contra hk
    simp only [not_exists, not_and] at hk
    simp [parseValue_eq_none_iff.2 hk] at he
  · rintro ⟨⟨t, ht, hk⟩, hnot⟩
    match hp : parseValue ts with
    | none => exact absurd hk (parseValue_eq_none_iff.1 hp t ht)
    | some (.error (.error e)) => exact ⟨e, rfl⟩
    | some (.error (.panic m)) => exact absurd hp (parseValue_ne_panic m)
    | some (.ok (v, rest)) => exact absurd ⟨v, rest, parseValue_eq_some_ok_iff.1 hp⟩ hnot

example : parseValue [(.ident, "object"), (.lParen, "("), (.number, "0x1"), (.comma, ","),
    (.number, "2"), (.rParen, ")"), (.atSign, "@"), (.number, "3"), (.comma, ",")] =
      some (.ok (.object (.enumerated 1 2) (some ⟨3⟩), [(.comma, ",")])) := rfl

end Parser

end SuiLudka
