import Locator.Wire.Input

namespace Locator.Wire.Varint

def encode (n : Nat) : Bytes :=
  if n < 128 then [n.toUInt8]
  else (n % 128 + 128).toUInt8 :: encode (n / 128)
termination_by n

/-- The size of a 64-bit number's shortest form, from the place of its top bit. -/
def size (n : Nat) : Nat :=
  ((n ||| 1).log2 * 9 + 73) / 64

/-- Reads at most `count` groups of seven bits, up to the first byte below 128. -/
def readGroups : Nat → Input → Option (Nat × Input)
  | 0, _ => none
  | count + 1, input =>
    match input.next? with
    | none => none
    | some (b, rest) =>
      if b < 128 then some (b.toNat, rest)
      else
        match readGroups count rest with
        | none => none
        | some (high, rest) => some (b.toNat - 128 + 128 * high, rest)

def bound : Nat := 0x10000000000000000

def read? (input : Input) : Option (Nat × Input) :=
  match readGroups 10 input with
  | some (n, rest) => if n < bound then some (n, rest) else none
  | none => none

theorem encode_of_lt {n : Nat} (h : n < 128) : encode n = [n.toUInt8] := by
  rw [encode, if_pos h]

theorem encode_of_ge {n : Nat} (h : 128 ≤ n) :
    encode n = (n % 128 + 128).toUInt8 :: encode (n / 128) := by
  rw [encode, if_neg (by omega)]

theorem size_readGroups {count n : Nat} {input rest : Input}
    (h : readGroups count input = some (n, rest)) : rest.size < input.size := by
  induction count generalizing input n rest with
  | zero => cases h
  | succ count ih =>
    rw [readGroups] at h
    split at h
    · cases h
    · next b after hb =>
      have hs := Input.size_next hb
      split at h
      · cases h
        omega
      · split at h
        · cases h
        · next high last hr =>
          cases h
          have := ih hr
          omega

theorem size_read {n : Nat} {input rest : Input} (h : read? input = some (n, rest)) :
    rest.size < input.size := by
  unfold read? at h
  split at h
  · next hr =>
    split at h
    · cases h
      exact size_readGroups hr
    · cases h
  · cases h

theorem readGroups_encode {count n : Nat} (rest : Bytes) (h : n < Nat.pow 128 count)
    (hc : 0 < count) :
    readGroups count (.ofBytes (encode n ++ rest)) = some (n, .ofBytes rest) := by
  induction count generalizing n with
  | zero => omega
  | succ count ih =>
    change n < Nat.pow 128 count * 128 at h
    by_cases hn : n < 128
    · rw [encode_of_lt hn, List.singleton_append, readGroups, Input.next_cons]
      have hb : n.toUInt8.toNat = n := by
        simp
        omega
      have hl : n.toUInt8 < 128 := by
        rw [UInt8.lt_iff_toNat_lt, hb]
        exact hn
      simp only [if_pos hl, hb]
    · have hd : n / 128 < Nat.pow 128 count := Nat.div_lt_of_lt_mul (Nat.mul_comm _ _ ▸ h)
      have hp : 0 < count := by
        cases count with
        | zero => exact absurd h hn
        | succ => omega
      rw [encode_of_ge (by omega), List.cons_append, readGroups, Input.next_cons]
      have hb : (n % 128 + 128).toUInt8.toNat = n % 128 + 128 := by
        simp
        omega
      have hl : ¬(n % 128 + 128).toUInt8 < 128 := by
        rw [UInt8.lt_iff_toNat_lt, hb]
        simp
      simp only [if_neg hl, ih hd hp, hb, Option.some.injEq, Prod.mk.injEq, and_true]
      omega

theorem read_encode {n : Nat} (rest : Bytes) (h : n < bound) :
    read? (.ofBytes (encode n ++ rest)) = some (n, .ofBytes rest) := by
  have hg : n < Nat.pow 128 10 := Nat.lt_trans h (by decide)
  rw [read?, readGroups_encode rest hg (by omega)]
  exact if_pos h

end Locator.Wire.Varint
