import CubeSlice.Token.Base64Url

/-!
# Reading base64url

Four characters carry three bytes, six bits each. At the end two or three characters carry one or two bytes, and the
bits that fill up the last of them are zero. The reader goes by the ranges of the characters and knows no table.
-/

namespace CubeSlice.Base64Url

def sextet? (c : Char) : Option Nat :=
  if 'A' ≤ c ∧ c ≤ 'Z' then some (c.toNat - 'A'.toNat)
  else if 'a' ≤ c ∧ c ≤ 'z' then some (c.toNat - 'a'.toNat + 26)
  else if '0' ≤ c ∧ c ≤ '9' then some (c.toNat - '0'.toNat + 52)
  else if c = '-' then some 62
  else if c = '_' then some 63
  else none

def decode? : List Char → Option (List UInt8)
  | [] => some []
  | [c, d] => do
    let p ← sextet? c
    let q ← sextet? d
    if q % 16 = 0 then some [UInt8.ofNat (p * 4 + q / 16)] else none
  | [c, d, e] => do
    let p ← sextet? c
    let q ← sextet? d
    let r ← sextet? e
    if r % 4 = 0 then some [UInt8.ofNat (p * 4 + q / 16), UInt8.ofNat (q % 16 * 16 + r / 4)] else none
  | c :: d :: e :: f :: rest => do
    let p ← sextet? c
    let q ← sextet? d
    let r ← sextet? e
    let s ← sextet? f
    let bytes ← decode? rest
    some (UInt8.ofNat (p * 4 + q / 16) :: UInt8.ofNat (q % 16 * 16 + r / 4) :: UInt8.ofNat (r % 4 * 64 + s) :: bytes)
  | _ => none

def isUrlSafe (c : Char) : Bool := c.isAlphanum || c == '-' || c == '_'

theorem sextet?_digit (n : Nat) : sextet? (digit n) = some (n % 64) := by
  have hAll : ∀ k : Fin 64, sextet? (alphabet.getD k.val 'A') = some k.val := by decide +kernel
  exact hAll ⟨n % 64, Nat.mod_lt n (by decide)⟩

theorem isUrlSafe_digit (n : Nat) : isUrlSafe (digit n) = true := by
  have hAll : ∀ k : Fin 64, isUrlSafe (alphabet.getD k.val 'A') = true := by decide +kernel
  exact hAll ⟨n % 64, Nat.mod_lt n (by decide)⟩

theorem encode_ne_nil {bytes : List UInt8} (h : bytes ≠ []) : encode bytes ≠ [] := by
  fun_cases encode bytes
  · exact absurd rfl h
  all_goals exact List.cons_ne_nil _ _

theorem isUrlSafe_of_mem_encode {bytes : List UInt8} {c : Char} (h : c ∈ encode bytes) : isUrlSafe c = true := by
  fun_induction encode bytes with
  | case1 => cases h
  | case2 a n =>
    simp only [List.mem_cons, List.not_mem_nil, or_false] at h
    rcases h with rfl | rfl <;> exact isUrlSafe_digit _
  | case3 a b n =>
    simp only [List.mem_cons, List.not_mem_nil, or_false] at h
    rcases h with rfl | rfl | rfl <;> exact isUrlSafe_digit _
  | case4 a b c rest n ih =>
    simp only [List.mem_cons] at h
    rcases h with rfl | rfl | rfl | rfl | hRest
    · exact isUrlSafe_digit _
    · exact isUrlSafe_digit _
    · exact isUrlSafe_digit _
    · exact isUrlSafe_digit _
    · exact ih hRest

variable (a b c : UInt8)

theorem first_byte (low : Nat) (h : low < 65536) :
    UInt8.ofNat ((a.toNat * 65536 + low) / 262144 % 64 * 4 + (a.toNat * 65536 + low) / 4096 % 64 / 16) = a := by
  have ha := a.toNat_lt
  have hValue : (a.toNat * 65536 + low) / 262144 % 64 * 4 + (a.toNat * 65536 + low) / 4096 % 64 / 16 = a.toNat := by
    omega
  rw [hValue, UInt8.ofNat_toNat]

theorem second_byte (low : Nat) (h : low < 256) :
    UInt8.ofNat ((a.toNat * 65536 + b.toNat * 256 + low) / 4096 % 64 % 16 * 16 +
      (a.toNat * 65536 + b.toNat * 256 + low) / 64 % 64 / 4) = b := by
  have hb := b.toNat_lt
  have hValue : (a.toNat * 65536 + b.toNat * 256 + low) / 4096 % 64 % 16 * 16 +
      (a.toNat * 65536 + b.toNat * 256 + low) / 64 % 64 / 4 = b.toNat := by
    omega
  rw [hValue, UInt8.ofNat_toNat]

theorem third_byte :
    UInt8.ofNat ((a.toNat * 65536 + b.toNat * 256 + c.toNat) / 64 % 64 % 4 * 64 +
      (a.toNat * 65536 + b.toNat * 256 + c.toNat) % 64) = c := by
  have hc := c.toNat_lt
  have hValue : (a.toNat * 65536 + b.toNat * 256 + c.toNat) / 64 % 64 % 4 * 64 +
      (a.toNat * 65536 + b.toNat * 256 + c.toNat) % 64 = c.toNat := by
    omega
  rw [hValue, UInt8.ofNat_toNat]

theorem decode?_encode (bytes : List UInt8) : decode? (encode bytes) = some bytes := by
  fun_induction encode bytes with
  | case1 => rfl
  | case2 a n =>
    have hFill : a.toNat * 65536 / 4096 % 64 % 16 = 0 := by omega
    have hFirst := first_byte a 0 (by decide)
    rw [Nat.add_zero] at hFirst
    simp only [decode?, sextet?_digit, Option.bind_eq_bind, Option.bind_some, n]
    rw [if_pos hFill, hFirst]
  | case3 a b n =>
    have hb := b.toNat_lt
    have hFill : (a.toNat * 65536 + b.toNat * 256) / 64 % 64 % 4 = 0 := by omega
    have hFirst := first_byte a (b.toNat * 256) (by omega)
    have hSecond := second_byte a b 0 (by decide)
    rw [Nat.add_zero] at hSecond
    simp only [decode?, sextet?_digit, Option.bind_eq_bind, Option.bind_some, n]
    rw [if_pos hFill, hFirst, hSecond]
  | case4 a b c rest n ih =>
    have hb := b.toNat_lt
    have hc := c.toNat_lt
    have hFirst := first_byte a (b.toNat * 256 + c.toNat) (by omega)
    rw [← Nat.add_assoc] at hFirst
    have hSecond := second_byte a b c.toNat hc
    have hThird := third_byte a b c
    simp only [decode?, sextet?_digit, Option.bind_eq_bind, Option.bind_some, ih, n]
    rw [hFirst, hSecond, hThird]

end CubeSlice.Base64Url
