import CubeSlice.Proofs.Number.Decimal
import CubeSlice.Number.Literal

/-!
# Reading literals

A literal is read part by part: the whole digits, a fraction behind a point, an exponent behind a letter. What
each spelling of digits reads as is one decimal, whose digits are all digits of the literal taken together.
-/

namespace CubeSlice

theorem digitsValue_eq_ofDigitChars (digits : List Char) : digitsValue digits = Nat.ofDigitChars 10 digits 0 := by
  rw [Nat.ofDigitChars_eq_foldl, digitsValue]
  congr 1
  funext n c
  rw [Nat.mul_comm]

theorem digitsValue_toDigits (n : Nat) : digitsValue (Nat.toDigits 10 n) = n := by
  rw [digitsValue_eq_ofDigitChars, Nat.ofDigitChars_ten_toDigits]

theorem digitsValue_append (xs ys : List Char) :
    digitsValue (xs ++ ys) = digitsValue xs * tenTo ys.length + digitsValue ys := by
  have hPower : tenTo ys.length = 10 ^ ys.length := by
    unfold tenTo
    rfl
  rw [digitsValue_eq_ofDigitChars, Nat.ofDigitChars_append, Nat.ofDigitChars_eq_ofDigitChars_zero,
    ← digitsValue_eq_ofDigitChars, ← digitsValue_eq_ofDigitChars, hPower, Nat.mul_comm]

theorem digitsValue_zeros (k : Nat) : digitsValue (List.replicate k '0') = 0 := by
  rw [digitsValue_eq_ofDigitChars, Nat.ofDigitChars_replicate_zero, Nat.mul_zero]

theorem isDigit_of_mem_zeros {k : Nat} {c : Char} (h : c ∈ List.replicate k '0') : c.isDigit = true := by
  rw [List.eq_of_mem_replicate h]
  decide

theorem isDigit_of_mem_toDigits {n : Nat} {c : Char} (h : c ∈ Nat.toDigits 10 n) : c.isDigit = true :=
  Nat.isDigit_of_mem_toDigits (by decide) (by decide) h

structure Leading (digits : List Char) : Prop where
  isDigit : ∀ c ∈ digits, c.isDigit = true
  head : ∃ c rest, digits = c :: rest ∧ c ≠ '0'

namespace Leading

variable {digits more : List Char}

theorem append (h : Leading digits) (hMore : ∀ c ∈ more, c.isDigit = true) : Leading (digits ++ more) where
  isDigit c hc := (List.mem_append.mp hc).elim (h.isDigit c) (hMore c)
  head := by
    obtain ⟨c, rest, rfl, hc⟩ := h.head
    exact ⟨c, rest ++ more, rfl, hc⟩

theorem of_append (h : Leading (digits ++ more)) (hDigits : digits ≠ []) : Leading digits where
  isDigit c hc := h.isDigit c (List.mem_append_left _ hc)
  head := by
    obtain ⟨c, rest, hEq, hc⟩ := h.head
    cases digits with
    | nil => exact absurd rfl hDigits
    | cons d digits =>
      obtain ⟨rfl, -⟩ := List.cons.inj hEq
      exact ⟨d, digits, rfl, hc⟩

theorem isWholePart (h : Leading digits) : Number.isWholePart digits = true := by
  obtain ⟨c, rest, rfl, hc⟩ := h.head
  have hAll : (c :: rest).all Char.isDigit = true := List.all_eq_true.mpr h.isDigit
  unfold Number.isWholePart
  split
  · contradiction
  · rfl
  · rename_i hEq
    cases hEq
    simp [hc, hAll]

theorem toDigits {n : Nat} (hn : 0 < n) : Leading (Nat.toDigits 10 n) := by
  induction n using Nat.strongRecOn with
  | ind n ih =>
    have hDigit {c : Char} (hc : c ∈ Nat.toDigits 10 n) : c.isDigit = true := isDigit_of_mem_toDigits hc
    rcases Nat.lt_or_ge n 10 with hSmall | hLarge
    · have hNonzero : ∀ d < 10, 0 < d → Nat.digitChar d ≠ '0' := by decide
      refine ⟨fun c hc => hDigit hc, Nat.digitChar n, [], ?_, hNonzero n hSmall hn⟩
      exact Nat.toDigits_of_lt_base hSmall
    · have hSplit := Nat.toDigits_of_base_le (by decide : 1 < 10) hLarge
      rw [hSplit] at hDigit ⊢
      exact (ih (n / 10) (by omega) (by omega)).append fun c hc => hDigit (List.mem_append_right _ hc)

end Leading

namespace Number

variable {s : Bool} {whole tail fraction digits : List Char} {e : Int}

theorem isDigit_of_isWholePart (h : isWholePart whole = true) : ∀ c ∈ whole, c.isDigit = true := by
  unfold isWholePart at h
  split at h
  · cases h
  · simp
  · rw [Bool.and_eq_true] at h
    exact List.all_eq_true.mp h.2

theorem takeWhile_digits (hDigits : ∀ c ∈ digits, c.isDigit = true)
    (hTail : ∀ c ∈ tail.head?, c.isDigit = false) :
    (digits ++ tail).takeWhile Char.isDigit = digits ∧ (digits ++ tail).dropWhile Char.isDigit = tail := by
  rw [List.takeWhile_append_of_pos hDigits, List.dropWhile_append_of_pos hDigits]
  cases tail with
  | nil => simp
  | cons c tail => simp [hTail c rfl]

theorem readUnsigned?_append (hWhole : isWholePart whole = true) (hTail : ∀ c ∈ tail.head?, c.isDigit = false)
    (h : readTail? tail = some (fraction, e)) : readUnsigned? s (whole ++ tail) =
      some (ofDecimal s (digitsValue (whole ++ fraction)) (e - fraction.length)) := by
  obtain ⟨hTake, hDrop⟩ := takeWhile_digits (isDigit_of_isWholePart hWhole) hTail
  simp only [readUnsigned?, hTake, hDrop, hWhole, if_true, h, Option.map_some]

theorem readUnsigned?_whole (s : Bool) (hWhole : isWholePart whole = true) :
    readUnsigned? s whole = some (ofDecimal s (digitsValue whole) 0) := by
  have hTail : ∀ c ∈ ([] : List Char).head?, c.isDigit = false := by simp
  simpa using readUnsigned?_append (s := s) hWhole hTail rfl

theorem readTail?_point (hFraction : fraction ≠ []) (hDigits : ∀ c ∈ fraction, c.isDigit = true) :
    readTail? ('.' :: fraction) = some (fraction, 0) := by
  have hEnd : ∀ c ∈ ([] : List Char).head?, c.isDigit = false := by simp
  obtain ⟨hTake, hDrop⟩ := takeWhile_digits hDigits hEnd
  rw [List.append_nil] at hTake hDrop
  simp [readTail?, hTake, hDrop, hFraction]

theorem readTail?_point_exponent (hFraction : fraction ≠ [])
    (hDigits : ∀ c ∈ fraction, c.isDigit = true) {exponent : List Char} (h : readExponent? exponent = some e) :
    readTail? ('.' :: (fraction ++ 'e' :: exponent)) = some (fraction, e) := by
  have hEnd : ∀ c ∈ ('e' :: exponent).head?, c.isDigit = false := by simp
  obtain ⟨hTake, hDrop⟩ := takeWhile_digits hDigits hEnd
  simp [readTail?, hTake, hDrop, hFraction, h]

theorem readTail?_exponent {exponent : List Char} (h : readExponent? exponent = some e) :
    readTail? ('e' :: exponent) = some ([], e) := by
  simp [readTail?, h]

def exponentChars (e : Int) : List Char := (if e < 0 then '-' else '+') :: Nat.toDigits 10 e.natAbs

theorem read_toDigits (s : Bool) (n : Nat) :
    readExponent?.read s (Nat.toDigits 10 n) = some (if s then -(n : Int) else n) := by
  have hDigits : (Nat.toDigits 10 n).all Char.isDigit = true :=
    List.all_eq_true.mpr fun _ hc => isDigit_of_mem_toDigits hc
  have hSome : (Nat.toDigits 10 n).isEmpty = false := List.isEmpty_eq_false_iff.mpr Nat.toDigits_ne_nil
  rw [readExponent?.read, hSome, hDigits, digitsValue_toDigits]
  cases s <;> rfl

theorem readExponent?_exponentChars (e : Int) : readExponent? (exponentChars e) = some e := by
  unfold exponentChars
  split
  · rename_i hNegative
    have hValue : -(e.natAbs : Int) = e := by omega
    exact (read_toDigits true e.natAbs).trans (congrArg some hValue)
  · rename_i hPositive
    have hValue : (e.natAbs : Int) = e := by omega
    exact (read_toDigits false e.natAbs).trans (congrArg some hValue)

theorem readUnsigned?_zeros (s : Bool) (h : Leading digits) (k : Nat) :
    readUnsigned? s (digits ++ List.replicate k '0') = some (ofDecimal s (digitsValue digits) k) := by
  have hWhole := (h.append fun c (hc : c ∈ List.replicate k '0') => isDigit_of_mem_zeros hc).isWholePart
  have hRead := readUnsigned?_whole s hWhole
  have hValue := ofDecimal_mul_tenTo s (digitsValue digits) k k
  rw [Int.sub_self] at hValue
  simpa [digitsValue_append, digitsValue_zeros, hValue] using hRead

theorem readUnsigned?_point (s : Bool) {front back : List Char} (h : Leading (front ++ back)) (hFront : front ≠ [])
    (hBack : back ≠ []) : readUnsigned? s (front ++ '.' :: back) =
      some (ofDecimal s (digitsValue (front ++ back)) (-(back.length : Int))) := by
  have hTail := readTail?_point hBack fun c hc => h.isDigit c (List.mem_append_right _ hc)
  simpa using readUnsigned?_append (s := s) (h.of_append hFront).isWholePart (by simp) hTail

theorem readUnsigned?_small (s : Bool) (h : Leading digits) (k : Nat) :
    readUnsigned? s ('0' :: '.' :: (List.replicate k '0' ++ digits)) =
      some (ofDecimal s (digitsValue digits) (-((k + digits.length : Nat) : Int))) := by
  have hDigits : ∀ c ∈ List.replicate k '0' ++ digits, c.isDigit = true := fun c hc =>
    (List.mem_append.mp hc).elim isDigit_of_mem_zeros (h.isDigit c)
  obtain ⟨c, rest, hHead, -⟩ := h.head
  have hTail := readTail?_point (by simp [hHead]) hDigits
  have hWhole : isWholePart ['0'] = true := rfl
  have hRead := readUnsigned?_append (s := s) hWhole (by simp) hTail
  have hValue : digitsValue (['0'] ++ (List.replicate k '0' ++ digits)) = digitsValue digits := by
    rw [digitsValue_append, digitsValue_append, digitsValue_zeros, Nat.zero_mul, Nat.zero_add]
    exact (congrArg (· + digitsValue digits) (Nat.zero_mul _)).trans (Nat.zero_add _)
  rw [hValue, List.length_append, List.length_replicate, Int.zero_sub] at hRead
  exact hRead

theorem readUnsigned?_exponent (s : Bool) {c : Char} {rest : List Char} (h : Leading (c :: rest)) (e : Int) :
    readUnsigned? s ((if rest = [] then [c] else c :: '.' :: rest) ++ 'e' :: exponentChars e) =
      some (ofDecimal s (digitsValue (c :: rest)) (e - rest.length)) := by
  have hWhole : isWholePart [c] = true := Leading.isWholePart (h.of_append (List.cons_ne_nil c []))
  have hExponent := readExponent?_exponentChars e
  split
  · rename_i hNone
    subst hNone
    exact readUnsigned?_append hWhole (by simp) (readTail?_exponent hExponent)
  · rename_i hSome
    have hTail := readTail?_point_exponent hSome (fun d hd => h.isDigit d (List.mem_cons_of_mem _ hd)) hExponent
    exact readUnsigned?_append hWhole (by simp) hTail

theorem ne_minus_of_readUnsigned? {x : Number} {cs : List Char} (h : readUnsigned? s cs = some x) :
    ∀ rest, cs ≠ '-' :: rest := by
  rintro rest rfl
  have hMinus : '-'.isDigit = false := by decide
  simp [readUnsigned?, hMinus, isWholePart] at h

theorem ofLiteral?_of_readUnsigned? {x : Number} {cs : List Char} (h : readUnsigned? false cs = some x) :
    ofLiteral? cs = some x := by
  unfold ofLiteral?
  split
  · exact absurd rfl (ne_minus_of_readUnsigned? h _)
  · exact h

end Number

end CubeSlice
