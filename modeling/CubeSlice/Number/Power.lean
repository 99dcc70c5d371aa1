/-!
# Powers

Powers of two and of ten, with the few facts about them that rounding and digit counts rest on.
-/

namespace CubeSlice

def twoTo (e : Nat) : Nat := Nat.pow 2 e

def tenTo (e : Nat) : Nat := Nat.pow 10 e

theorem twoTo_pos (e : Nat) : 0 < twoTo e := Nat.two_pow_pos e

theorem twoTo_add (a b : Nat) : twoTo (a + b) = twoTo a * twoTo b := Nat.pow_add 2 a b

theorem twoTo_le_twoTo {a b : Nat} (h : a ≤ b) : twoTo a ≤ twoTo b :=
  Nat.pow_le_pow_right (by decide) h

theorem twoTo_dvd_twoTo {a b : Nat} (h : a ≤ b) : twoTo a ∣ twoTo b := Nat.pow_dvd_pow 2 h

theorem one_lt_twoTo {e : Nat} (h : 0 < e) : 1 < twoTo e := Nat.one_lt_two_pow (Nat.ne_of_gt h)

theorem lt_twoTo_log2_succ (n : Nat) : n < twoTo (n.log2 + 1) := Nat.lt_log2_self

theorem log2_lt_iff {n e : Nat} (h : n ≠ 0) : n.log2 < e ↔ n < twoTo e := Nat.log2_lt h

theorem tenTo_pos (e : Nat) : 0 < tenTo e := Nat.pow_pos (by decide)

theorem lt_tenTo_self (e : Nat) : e < tenTo e := Nat.lt_pow_self (by decide)

end CubeSlice
