import SuiLudka.Basic

/-!
# Numerals

`parse_u64` and `parse_u256` come from the Move command-line parser, outside this crate. Both strip
an optional `0x` prefix (hexadecimal, else decimal) and the `_` separators, and then hand the digits
to two different readers. `u64::from_str_radix` refuses an empty text and skips one leading `+`;
`U256::from_str_radix` trims leading zeros first, reads an empty remainder as zero, and refuses more
than 64 hex digits.

Below `2 ^ 256` the `u256` reader is Horner's rule (`u256FromStrRadix_eq_some_iff`), and so is the
`u64` reader on digits that are not empty and do not start with `+`. On such digits the two parsers
agree up to `u64::MAX` (`parseU64_eq_ok_iff_parseU256`); `Args.FakeId` shows what the other digits
do to the two handle parsers.
-/

namespace SuiLudka

/-- Modelled from the spec: `determine_num_text_and_base` of the Move command-line parser. A `0x`
prefix selects base 16; anything else is read in base 10. -/
def determineNumTextAndBase (s : String) : List Char × Nat :=
  match s.data with
  | '0' :: 'x' :: digits => (digits, 16)
  | digits => (digits, 10)

/-- `txt.replace('_', "")`: the digits both parsers hand to their reader. -/
def numeralDigits (s : String) : List Char := (determineNumTextAndBase s).1.filter (· ≠ '_')

/-- `char::to_digit`, for bases up to 16. -/
def digitValue (c : Char) : Option Nat :=
  if c.isDigit then some (c.toNat - '0'.toNat)
  else if 'a' ≤ c ∧ c ≤ 'f' then some (c.toNat - 'a'.toNat + 10)
  else if 'A' ≤ c ∧ c ≤ 'F' then some (c.toNat - 'A'.toNat + 10)
  else none

/-- Horner's rule over the digits, most significant first; a digit outside the base is refused. -/
def readDigits (base : Nat) : Nat → List Char → Option Nat
  | acc, [] => some acc
  | acc, c :: cs => (digitValue c).bind fun d =>
      if d < base then readDigits base (acc * base + d) cs else none

/-- `u64::from_str_radix` of Rust's core library, up to its overflow check: an empty text or a lone
sign is refused, one leading `+` is skipped, and every other character must be a digit of the
radix. -/
def u64FromStrRadix (radix : Nat) : List Char → Option Nat
  | [] => none
  | c :: digits =>
    if (c = '+' ∨ c = '-') ∧ digits = [] then none
    else if c = '+' then readDigits radix 0 digits
    else readDigits radix 0 (c :: digits)

/-- `U256::from_str_radix` of `move_core_types`, up to its overflow check: leading zeros are
trimmed, and the rest is read by `from_dec_str` in base 10 or as at most 64 hex digits in base 16;
either reads an empty rest as zero. -/
def u256FromStrRadix (radix : Nat) (src : List Char) : Option Nat :=
  let trimmed := src.dropWhile (· == '0')
  if radix = 16 ∧ 64 < trimmed.length then none else readDigits radix 0 trimmed

/-- Modelled from the spec: `parse_u64`, a numeral that fits in 64 bits. -/
def parseU64 (s : String) : Except Error UInt64 :=
  match u64FromStrRadix (determineNumTextAndBase s).2 (numeralDigits s) with
  | some n => if n ≤ u64Max then .ok (UInt64.ofNat n) else .error (.invalidNumber s)
  | none => .error (.invalidNumber s)

/-- Modelled from the spec: `parse_u256`, a numeral that fits in 256 bits. -/
def parseU256 (s : String) : Except Error U256 :=
  match u256FromStrRadix (determineNumTextAndBase s).2 (numeralDigits s) with
  | some n => if h : n < 2 ^ 256 then .ok ⟨n, h⟩ else .error (.invalidNumber s)
  | none => .error (.invalidNumber s)

theorem u64Max_lt_u256 : u64Max < 2 ^ 256 := by decide

theorem determineNumTextAndBase_base_pos (s : String) : 0 < (determineNumTextAndBase s).2 := by
  unfold determineNumTextAndBase
  split <;> simp

theorem determineNumTextAndBase_hex (digits : List Char) :
    determineNumTextAndBase ⟨'0' :: 'x' :: digits⟩ = (digits, 16) := rfl

/-! ### Horner's rule -/

theorem digitValue_eq_some_zero {c : Char} (h : digitValue c = some 0) : c = '0' := by
  unfold digitValue at h
  split_ifs at h with hdigit
  · have h48 : 48 ≤ c.toNat := by
      simp only [Char.isDigit, Bool.and_eq_true, decide_eq_true_eq] at hdigit
      exact hdigit.1
    have hc : c.toNat = 48 := by
      change some (c.toNat - 48) = some 0 at h
      simp only [Option.some.injEq] at h
      omega
    rw [← Char.ofNat_toNat c, hc]
  all_goals simp at h

theorem readDigits_zero_cons {base : Nat} (hbase : 0 < base) (cs : List Char) :
    readDigits base 0 ('0' :: cs) = readDigits base 0 cs := by
  simp [readDigits, show digitValue '0' = some 0 from rfl, hbase]

/-- Leading zeros do not change what Horner's rule reads. -/
theorem readDigits_dropWhile_zero {base : Nat} (hbase : 0 < base) (cs : List Char) :
    readDigits base 0 (cs.dropWhile (· == '0')) = readDigits base 0 cs := by
  induction cs with
  | nil => rfl
  | cons c cs ih =>
    rw [List.dropWhile_cons]
    by_cases hc : c = '0'
    · subst hc
      rw [if_pos (beq_self_eq_true _), ih, readDigits_zero_cons hbase]
    · rw [if_neg (by simpa using hc)]

/-- Horner's rule shifts the accumulator past every later digit. -/
theorem mul_pow_le_of_readDigits {base acc n : Nat} {cs : List Char}
    (h : readDigits base acc cs = some n) : acc * base ^ cs.length ≤ n := by
  induction cs generalizing acc with
  | nil => cases h; simp
  | cons c cs ih =>
    simp only [readDigits, Option.bind_eq_some] at h
    obtain ⟨d, -, hd⟩ := h
    split at hd
    · calc acc * base ^ (cs.length + 1) = acc * base * base ^ cs.length := by
            rw [Nat.pow_succ, Nat.mul_comm (base ^ _), Nat.mul_assoc]
        _ ≤ (acc * base + d) * base ^ cs.length := Nat.mul_le_mul_right _ (Nat.le_add_right _ _)
        _ ≤ n := ih hd
    · cases hd

/-- Digits that do not start with `0` spell at least `base ^ (length - 1)`. -/
theorem pow_le_of_readDigits_cons {base n : Nat} {c : Char} {cs : List Char} (hc : c ≠ '0')
    (h : readDigits base 0 (c :: cs) = some n) : base ^ cs.length ≤ n := by
  simp only [readDigits, Option.bind_eq_some] at h
  obtain ⟨d, hd, hrest⟩ := h
  split at hrest
  · have hpos : 0 < d := Nat.pos_of_ne_zero fun h0 => hc (digitValue_eq_some_zero (h0 ▸ hd))
    calc base ^ cs.length ≤ d * base ^ cs.length := Nat.le_mul_of_pos_left _ hpos
      _ = (0 * base + d) * base ^ cs.length := by rw [Nat.zero_mul, Nat.zero_add]
      _ ≤ n := mul_pow_le_of_readDigits hrest
  · cases hrest

/-! ### The two readers -/

/-- On digits that are not empty and do not start with `+`, `u64::from_str_radix` is Horner's
rule. -/
theorem u64FromStrRadix_eq_readDigits {radix : Nat} {src : List Char} (hne : src ≠ [])
    (hplus : src.head? ≠ some '+') : u64FromStrRadix radix src = readDigits radix 0 src := by
  obtain ⟨c, cs, rfl⟩ := List.exists_cons_of_ne_nil hne
  have hc : c ≠ '+' := fun h => hplus (h ▸ rfl)
  rw [u64FromStrRadix]
  split_ifs with hsign
  · obtain ⟨hc' | rfl, rfl⟩ := hsign
    · exact absurd hc' hc
    · rfl
  · rfl

/-- More than 64 hex digits after the leading zeros spell at least `16 ^ 64 = 2 ^ 256`. -/
theorem le_of_readDigits_of_long {n : Nat} {src : List Char}
    (hlong : 64 < (src.dropWhile (· == '0')).length) (h : readDigits 16 0 src = some n) :
    2 ^ 256 ≤ n := by
  rw [← readDigits_dropWhile_zero (by decide)] at h
  obtain ⟨c, cs, htrim⟩ := List.exists_cons_of_length_pos (Nat.zero_lt_of_lt hlong)
  have hc : c ≠ '0' := by
    simpa [htrim] using List.head_dropWhile_not (· == '0') src (by simp [htrim])
  rw [htrim, List.length_cons] at hlong
  rw [htrim] at h
  calc 2 ^ 256 = 16 ^ 64 := by decide
    _ ≤ 16 ^ cs.length := Nat.pow_le_pow_right (by decide) (by omega)
    _ ≤ n := pow_le_of_readDigits_cons hc h

/-- Below `2 ^ 256`, `U256::from_str_radix` reads a value exactly when Horner's rule reads it: the
leading zeros it trims do not count, and the hex texts it refuses for their length spell more. -/
theorem u256FromStrRadix_eq_some_iff {radix n : Nat} {src : List Char} (hradix : 0 < radix)
    (hn : n < 2 ^ 256) : u256FromStrRadix radix src = some n ↔ readDigits radix 0 src = some n := by
  by_cases hlong : radix = 16 ∧ 64 < (src.dropWhile (· == '0')).length
  · obtain ⟨rfl, hlt⟩ := hlong
    simp only [u256FromStrRadix, hlt, and_self, if_true, reduceCtorEq, false_iff]
    exact fun h => Nat.not_le.2 hn (le_of_readDigits_of_long hlt h)
  · simp only [u256FromStrRadix, if_neg hlong, readDigits_dropWhile_zero hradix]

/-- At most 64 digits are always read in full by `U256::from_str_radix`. -/
theorem u256FromStrRadix_eq_readDigits {radix : Nat} {src : List Char} (hradix : 0 < radix)
    (hlen : src.length ≤ 64) : u256FromStrRadix radix src = readDigits radix 0 src := by
  have hshort : ¬(radix = 16 ∧ 64 < (src.dropWhile (· == '0')).length) := fun h =>
    absurd ((List.dropWhile_suffix (· == '0')).length_le.trans hlen) (by omega)
  simp only [u256FromStrRadix, if_neg hshort, readDigits_dropWhile_zero hradix]

/-! ### The two parsers -/

theorem parseU64_eq_ok_iff {s : String} {v : UInt64} :
    parseU64 s = .ok v ↔ ∃ n, u64FromStrRadix (determineNumTextAndBase s).2 (numeralDigits s) = some n ∧
      n ≤ u64Max ∧ UInt64.ofNat n = v := by
  unfold parseU64
  cases u64FromStrRadix (determineNumTextAndBase s).2 (numeralDigits s) with
  | none => simp
  | some n => by_cases hn : n ≤ u64Max <;> simp [hn]

theorem parseU256_eq_ok_iff {s : String} {i : U256} :
    parseU256 s = .ok i ↔ u256FromStrRadix (determineNumTextAndBase s).2 (numeralDigits s) = some i.val := by
  unfold parseU256
  cases u256FromStrRadix (determineNumTextAndBase s).2 (numeralDigits s) with
  | none => simp
  | some n =>
    by_cases hn : n < 2 ^ 256
    · simp only [dif_pos hn, Except.ok.injEq, Option.some.injEq, Fin.ext_iff]
    · simp only [dif_neg hn, reduceCtorEq, Option.some.injEq, false_iff]
      exact fun h => hn (h ▸ i.isLt)

example : parseU64 "0x1_0" = .ok 16 := rfl
example : parseU64 "+7" = .ok 7 := rfl
example : parseU256 "0x_" = .ok 0 := rfl
example : parseU256 "18446744073709551616" = .ok ⟨2 ^ 64, by decide⟩ := rfl

/-- **The two widths agree.** On digits that are not empty and do not start with `+`, `parse_u64`
accepts exactly the numerals `parse_u256` reads to at most `u64::MAX`, and reads them to the same
number. -/
theorem parseU64_eq_ok_iff_parseU256 {s : String} {v : UInt64} (hne : numeralDigits s ≠ [])
    (hplus : (numeralDigits s).head? ≠ some '+') :
    parseU64 s = .ok v ↔ ∃ i : U256, parseU256 s = .ok i ∧ i.val ≤ u64Max ∧ UInt64.ofNat i.val = v := by
  have hbase := determineNumTextAndBase_base_pos s
  simp only [parseU64_eq_ok_iff, parseU256_eq_ok_iff, u64FromStrRadix_eq_readDigits hne hplus]
  constructor
  · rintro ⟨n, hn, hle, rfl⟩
    have hlt : n < 2 ^ 256 := lt_of_le_of_lt hle u64Max_lt_u256
    exact ⟨⟨n, hlt⟩, (u256FromStrRadix_eq_some_iff hbase hlt).2 hn, hle, rfl⟩
  · rintro ⟨i, hi, hle, rfl⟩
    exact ⟨i.val, (u256FromStrRadix_eq_some_iff hbase i.isLt).1 hi, hle, rfl⟩

end SuiLudka
