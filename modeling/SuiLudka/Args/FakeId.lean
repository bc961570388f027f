import SuiLudka.Args.Grammar

/-!
# One handle, two parsers

An object handle reaches the runner by two separate paths. The `view-object`, `transfer-object` and
`upgrade` commands take it as a command argument through `parse_fake_id`, which splits the text at
its first comma and reads both sides with `parse_u64`, or reads the whole text with `parse_u256`. A
programmable transaction takes it as the literal `object(...)`, which reads a `u256`, a comma, a
`u64`, and only then compares the first number with `u64::MAX`.

`parseFakeId_agrees` says that the two paths name the same object for the same numerals, or both
fail: in the known form always, and in the enumerated form when the first numeral has digits and
they do not start with `+`. On the other numerals `parse_u64` and `parse_u256` read differently,
and so do the two paths (`parseFakeId_disagrees_at_empty_hex`). The comparison goes through the
grammar of `Args.Grammar`: the literal parser is replaced by what it accepts.

An id printed the way Sui prints it, `0x` and 64 hex digits, reads back to itself through either
path (`toHexLiteral_reads_back`): the hex digits are Horner's rule in base 256, and reversing the
little-endian bytes of the value gives the id's bytes back.
-/

namespace SuiLudka

/-- The tokens of the literal `object ( a , b )`. -/
def enumeratedLiteral (a b : String) : List Token :=
  [(.ident, "object"), (.lParen, "("), (.number, a), (.comma, ","), (.number, b), (.rParen, ")")]

/-- The tokens of the literal `object ( a )`. -/
def knownLiteral (a : String) : List Token :=
  [(.ident, "object"), (.lParen, "("), (.number, a), (.rParen, ")")]

theorem splitOnce_append {c : Char} {a b : List Char} (ha : c ∉ a) :
    splitOnce c (a ++ c :: b) = some (a, b) := by
  induction a with
  | nil => simp [splitOnce]
  | cons x xs ih =>
    simp only [List.mem_cons, not_or] at ha
    simp [splitOnce, Ne.symm ha.1, ih ha.2]

theorem splitOnce_eq_none {c : Char} {a : List Char} (ha : c ∉ a) : splitOnce c a = none := by
  induction a with
  | nil => rfl
  | cons x xs ih =>
    simp only [List.mem_cons, not_or] at ha
    simp [splitOnce, Ne.symm ha.1, ih ha.2]

theorem liftError_bind_eq_ok {α β : Type} {x : Except Error α} {f : α → Except Fault β} {r : β} :
    (liftError x >>= f) = .ok r ↔ ∃ a, x = .ok a ∧ f a = .ok r := by
  cases x <;> simp [liftError, bind, Except.bind]

theorem toOption_eq_some_iff {α : Type} {x : Except Fault α} {a : α} :
    x.toOption = some a ↔ x = .ok a := by
  cases x <;> simp [Except.toOption]

section Literals

variable {a b : String} {fid : FakeID} {ver : Option SequenceNumber} {rest : List Token}

theorem objectLiteral_enumeratedLiteral_iff :
    ObjectLiteral "object" (enumeratedLiteral a b) fid ver rest ↔
      ∃ i j, parseU256 a = .ok i ∧ i.val ≤ u64Max ∧ parseU64 b = .ok j ∧
        fid = .enumerated (UInt64.ofNat i.val) j ∧ ver = none ∧ rest = [] := by
  constructor
  · intro h
    generalize hts : enumeratedLiteral a b = ts at h
    obtain ⟨hh, hv⟩ := h
    cases hh with
    | known => simp [enumeratedLiteral] at hts
    | enumerated hn hi hm =>
      simp only [enumeratedLiteral, List.cons_append, List.nil_append, List.cons.injEq,
        Prod.mk.injEq, true_and, List.nil_eq, List.append_eq_nil] at hts
      obtain ⟨-, rfl, -, rfl, -, rfl, rfl⟩ := hts
      cases hv with
      | absent => exact ⟨_, _, hn, hi, hm, rfl, rfl, rfl⟩
  · rintro ⟨i, j, hn, hi, hm, rfl, rfl, rfl⟩
    exact @ObjectLiteral.mk "object" "(" ")" [(.number, a), (.comma, ","), (.number, b)] [] [] _ _
      (.enumerated hn hi hm) (.absent (by simp))

theorem objectLiteral_knownLiteral_iff :
    ObjectLiteral "object" (knownLiteral a) fid ver rest ↔
      ∃ i, parseU256 a = .ok i ∧ fid = .known i.toObjectID ∧ ver = none ∧ rest = [] := by
  constructor
  · intro h
    generalize hts : knownLiteral a = ts at h
    obtain ⟨hh, hv⟩ := h
    cases hh with
    | known hn hid =>
      simp only [knownLiteral, List.cons_append, List.nil_append, List.cons.injEq, Prod.mk.injEq,
        true_and, List.nil_eq, List.append_eq_nil] at hts
      obtain ⟨-, rfl, -, rfl, rfl⟩ := hts
      cases hv with
      | absent => exact ⟨_, hn, by rw [toObjectID_eq_iff.2 hid], rfl, rfl⟩
    | enumerated => simp [knownLiteral] at hts
  · rintro ⟨i, hn, rfl, rfl, rfl⟩
    exact @ObjectLiteral.mk "object" "(" ")" [(.number, a)] [] [] _ _
      (.known hn (toObjectID_eq_iff.1 rfl)) (.absent (by simp))

/-- The handle the literal parser reads from a token stream, when it reads one. -/
def literalHandle (ts : List Token) : Option FakeID :=
  (parseReceivingOrObjectValue "object" ts).toOption.map (·.1.1)

theorem literalHandle_eq_some_iff {ts : List Token} :
    literalHandle ts = some fid ↔ ∃ ver rest, ObjectLiteral "object" ts fid ver rest := by
  simp only [literalHandle, Option.map_eq_some', toOption_eq_some_iff, Prod.exists,
    parseReceivingOrObjectValue_eq_ok_iff]
  constructor
  · rintro ⟨_, ver, rest, h, rfl⟩
    exact ⟨ver, rest, h⟩
  · rintro ⟨ver, rest, h⟩
    exact ⟨fid, ver, rest, h, rfl⟩

theorem parseFakeId_comma_eq_ok_iff (ha : ',' ∉ a.data) :
    parseFakeId (a ++ "," ++ b) = .ok fid ↔
      ∃ i j, parseU64 a = .ok i ∧ parseU64 b = .ok j ∧ fid = .enumerated i j := by
  have hsplit : splitOnce ',' (a ++ "," ++ b).data = some (a.data, b.data) := by
    simpa using splitOnce_append (b := b.data) ha
  simp only [parseFakeId, hsplit, liftError_bind_eq_ok, pure, Except.pure, Except.ok.injEq]
  constructor
  · rintro ⟨i, hi, j, hj, rfl⟩
    exact ⟨i, j, hi, hj, rfl⟩
  · rintro ⟨i, j, hi, hj, rfl⟩
    exact ⟨i, hi, j, hj, rfl⟩

theorem parseFakeId_eq_ok_iff_of_no_comma (ha : ',' ∉ a.data) :
    parseFakeId a = .ok fid ↔ ∃ i, parseU256 a = .ok i ∧ fid = .known i.toObjectID := by
  simp only [parseFakeId, splitOnce_eq_none ha]
  cases hi : parseU256 a with
  | error e => simp [liftError, bind, Except.bind]
  | ok i =>
    simp [liftError, bind, Except.bind, fromBytes_reverse_toLeBytes, pure, Except.pure,
      SuiAddress.toObjectID, eq_comm]

end Literals

/-- **One handle, two parsers.** For numeral texts `a` (without a comma) and `b`, `parse_fake_id`
and the `object(...)` literal parser either both fail or read the same handle: in the known form `a`
always, and in the enumerated form `a,b` when the digits of `a` are not empty and do not start with
`+`, the two texts on which `parse_u64` and `parse_u256` read `a` differently. -/
theorem parseFakeId_agrees (a b : String) (ha : ',' ∉ a.data) :
    (numeralDigits a ≠ [] → (numeralDigits a).head? ≠ some '+' →
      (parseFakeId (a ++ "," ++ b)).toOption = literalHandle (enumeratedLiteral a b)) ∧
      (parseFakeId a).toOption = literalHandle (knownLiteral a) := by
  constructor
  · intro hne hplus
    refine Option.ext fun fid => ?_
    rw [Option.mem_def, Option.mem_def, toOption_eq_some_iff, parseFakeId_comma_eq_ok_iff ha,
      literalHandle_eq_some_iff]
    simp only [objectLiteral_enumeratedLiteral_iff, parseU64_eq_ok_iff_parseU256 hne hplus]
    constructor
    · rintro ⟨_, j, ⟨i, hi, hle, rfl⟩, hj, rfl⟩
      exact ⟨none, [], i, j, hi, hle, hj, rfl, rfl, rfl⟩
    · rintro ⟨_, _, i, j, hi, hle, hj, rfl, -, -⟩
      exact ⟨_, j, ⟨i, hi, hle, rfl⟩, hj, rfl⟩
  · refine Option.ext fun fid => ?_
    rw [Option.mem_def, Option.mem_def, toOption_eq_some_iff, parseFakeId_eq_ok_iff_of_no_comma ha,
      literalHandle_eq_some_iff]
    simp only [objectLiteral_knownLiteral_iff]
    constructor
    · rintro ⟨i, hi, rfl⟩
      exact ⟨none, [], i, hi, rfl, rfl, rfl⟩
    · rintro ⟨_, _, i, hi, rfl, -, -⟩
      exact ⟨i, hi, rfl⟩

/-- At the `u64::MAX` boundary both paths read `18446744073709551615,7` as the enumerated handle,
and both refuse `18446744073709551616,7`. -/
theorem parseFakeId_agrees_at_u64_max :
    ((parseFakeId ("18446744073709551615" ++ "," ++ "7")).toOption =
          some (.enumerated 18446744073709551615 7) ∧
        literalHandle (enumeratedLiteral "18446744073709551615" "7") =
          some (.enumerated 18446744073709551615 7)) ∧
      ((parseFakeId ("18446744073709551616" ++ "," ++ "7")).toOption = none ∧
        literalHandle (enumeratedLiteral "18446744073709551616" "7") = none) :=
  have hmax := (parseFakeId_agrees "18446744073709551615" "7" (by decide)).1 (by decide) (by decide)
  have hover := (parseFakeId_agrees "18446744073709551616" "7" (by decide)).1 (by decide) (by decide)
  have hmaxLit : literalHandle (enumeratedLiteral "18446744073709551615" "7") =
      some (.enumerated 18446744073709551615 7) := rfl
  have hoverLit : literalHandle (enumeratedLiteral "18446744073709551616" "7") = none := rfl
  ⟨⟨hmax.trans hmaxLit, hmaxLit⟩, ⟨hover.trans hoverLit, hoverLit⟩⟩

/-- The enumerated form parts at the digits the hypotheses exclude. `0x_` has no digits:
`parse_u64` refuses it while `parse_u256` reads zero. `+5` starts with `+`: `parse_u64` reads five
while `parse_u256` refuses it. -/
theorem parseFakeId_disagrees_at_empty_hex :
    ((parseFakeId ("0x_" ++ "," ++ "1")).toOption = none ∧
        literalHandle (enumeratedLiteral "0x_" "1") = some (.enumerated 0 1)) ∧
      ((parseFakeId ("+5" ++ "," ++ "1")).toOption = some (.enumerated 5 1) ∧
        literalHandle (enumeratedLiteral "+5" "1") = none) :=
  ⟨⟨rfl, rfl⟩, ⟨rfl, rfl⟩⟩

/-! ### Addresses written in hex -/

/-- The lowercase hexadecimal digit of a number below 16. -/
def hexDigit (d : Nat) : Char :=
  if d < 10 then Char.ofNat ('0'.toNat + d) else Char.ofNat ('a'.toNat + d - 10)

/-- The two hex digits of a byte, the high one first. -/
def hexDigits (b : UInt8) : List Char := [hexDigit (b.toNat / 16), hexDigit (b.toNat % 16)]

/-- An object id as Sui prints it: `0x`, then two lowercase hex digits per byte, the most
significant byte first. -/
def ObjectID.toHexLiteral (id : ObjectID) : String := ⟨'0' :: 'x' :: id.bytes.flatMap hexDigits⟩

theorem digitValue_hexDigit : ∀ d, d < 16 → digitValue (hexDigit d) = some d := by decide

theorem hexDigit_ne : ∀ d, d < 16 → hexDigit d ≠ '_' ∧ hexDigit d ≠ ',' := by decide

theorem hexDigits_ne {b : UInt8} {c : Char} (hc : c ∈ hexDigits b) : c ≠ '_' ∧ c ≠ ',' := by
  have hb : b.toNat < 256 := b.val.isLt
  simp only [hexDigits, List.mem_cons, List.mem_singleton, List.not_mem_nil, or_false] at hc
  rcases hc with rfl | rfl
  · exact hexDigit_ne _ (by omega)
  · exact hexDigit_ne _ (Nat.mod_lt _ (by decide))

/-- Reading the hex digits of bytes is Horner's rule in base 256. -/
theorem readDigits_hexDigits (bytes : List UInt8) (acc : Nat) :
    readDigits 16 acc (bytes.flatMap hexDigits) =
      some (bytes.foldl (fun acc b => 256 * acc + b.toNat) acc) := by
  induction bytes generalizing acc with
  | nil => rfl
  | cons b bs ih =>
    have hb : b.toNat < 256 := b.val.isLt
    have hhi : b.toNat / 16 < 16 := by omega
    have hlo : b.toNat % 16 < 16 := Nat.mod_lt _ (by decide)
    simp only [List.flatMap_cons, hexDigits, List.cons_append, List.nil_append, readDigits,
      digitValue_hexDigit _ hhi, digitValue_hexDigit _ hlo, Option.some_bind, hhi, hlo, if_true,
      List.foldl_cons]
    rw [show (acc * 16 + b.toNat / 16) * 16 + b.toNat % 16 = 256 * acc + b.toNat by omega]
    exact ih _

theorem bigEndianValue_lt (bytes : List UInt8) : bigEndianValue bytes < 256 ^ bytes.length := by
  have h := bigEndianValue_reverse_leBytes bytes.length (bigEndianValue bytes)
  rw [reverse_leBytes_bigEndianValue] at h
  rw [h]
  exact Nat.mod_lt _ (Nat.pos_pow_of_pos _ (by decide))

/-- The printed id reads back, as a `u256`, to the big-endian value of its bytes. -/
theorem parseU256_toHexLiteral (id : ObjectID) :
    ∃ i, parseU256 id.toHexLiteral = .ok i ∧ i.val = bigEndianValue id.bytes := by
  have hlt : bigEndianValue id.bytes < 2 ^ 256 :=
    (bigEndianValue_lt id.bytes).trans_eq (by rw [id.length_bytes]; decide)
  have hdigits : numeralDigits id.toHexLiteral = id.bytes.flatMap hexDigits :=
    List.filter_eq_self.2 fun c hc => by
      obtain ⟨b, -, hc⟩ := List.mem_flatMap.1 hc
      simpa using (hexDigits_ne hc).1
  have hread : readDigits 16 0 (id.bytes.flatMap hexDigits) = some (bigEndianValue id.bytes) := by
    rw [readDigits_hexDigits]
    rfl
  refine ⟨⟨_, hlt⟩, parseU256_eq_ok_iff.2 ?_, rfl⟩
  rw [hdigits]
  exact (u256FromStrRadix_eq_some_iff (determineNumTextAndBase_base_pos _) hlt).2 hread

/-- **Printed addresses read back.** An object id written as Sui prints it, `0x` and two hex digits
per byte, reads back to that very id through both handle parsers: `parse_fake_id` gives its known
handle, and so does the literal `object(...)` around it, which consumes exactly its own tokens. -/
theorem toHexLiteral_reads_back (id : ObjectID) (rest : List Token)
    (hrest : rest.head?.map Prod.fst ≠ some .atSign) :
    parseFakeId id.toHexLiteral = .ok (.known id) ∧
    parseValue (knownLiteral id.toHexLiteral ++ rest) =
      some (.ok (.object (.known id) none, rest)) := by
  obtain ⟨i, hi, hval⟩ := parseU256_toHexLiteral id
  have hid : id = i.toObjectID := toObjectID_eq_iff.2 hval.symm
  have hcomma : ',' ∉ id.toHexLiteral.data := by
    simp only [ObjectID.toHexLiteral, List.mem_cons, List.mem_flatMap, not_or, not_exists, not_and]
    exact ⟨by decide, by decide, fun b _ hc => (hexDigits_ne hc).2 rfl⟩
  refine ⟨(parseFakeId_eq_ok_iff_of_no_comma hcomma).2 ⟨i, hi, hid ▸ rfl⟩,
    parseValue_eq_some_ok_iff.2 (.object ?_)⟩
  exact @ObjectLiteral.mk "object" "(" ")" [(.number, id.toHexLiteral)] [] rest (.known id) none
    (.known hi hval.symm) (.absent hrest)

theorem toHexLiteral_reads_back_alone :
    ([] : List Token).head?.map Prod.fst ≠ some .atSign ∧
    parseFakeId zeroObjectID.toHexLiteral = .ok (.known zeroObjectID) ∧
    parseValue (knownLiteral zeroObjectID.toHexLiteral ++ []) =
      some (.ok (.object (.known zeroObjectID) none, [])) :=
  ⟨by simp, toHexLiteral_reads_back zeroObjectID [] (by simp)⟩

end SuiLudka
