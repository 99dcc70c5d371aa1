import CubeSlice.Failure
import CubeSlice.Proofs.Number.Floor
import CubeSlice.Proofs.Number.Integers
import CubeSlice.Proofs.Token.Reading

/-!
# When service tokens expire

A service token claims the second in which it expires, and nothing else. The division of the clock, its floor and the
sum are exact although the quotient is rounded, and so is the decimal in the token. A lifetime that is no positive safe
integer is refused.
-/

namespace CubeSlice.Token

open Number

attribute [local irreducible] unitsInOne twoTo tenTo

/-- The seconds of a lifetime that tokens can have. -/
structure IsLifetime (x : Number) (seconds : Nat) : Prop where
  index : x.index? = some seconds
  pos : 0 < seconds
  safe : seconds ≤ maxSafe

/-- A token that claims to expire in a second, the number of which is held and written exactly. -/
structure ExpiresIn (second : Int) (secret token : String) : Prop where
  signed : token = sign (.object [("exp", .number (ofInt second))]) secret
  held : (ofInt second).toInt? = some second
  written : ∃ head body tail : String, token.toList.splitOn '.' = [head, body, tail].map String.toList ∧
    textOf? body = some ("\x7b\"exp\":" ++ toString second ++ "\x7d")

variable {x now : Number} {seconds : Nat} {millis : Int}

theorem not_lt_zero_of_zero_lt (h : zero.lt x = true) : x.lt zero = false := by
  cases x with
  | nan => rfl
  | infinite negative =>
    obtain rfl : negative = false := by simpa [zero, lt] using h
    rfl
  | finite negative units held =>
    have hLess : signed false 0 < signed negative units := of_decide_eq_true h
    exact decide_eq_false (Int.not_lt.mpr hLess.le)

theorem exists_isLifetime_iff : (∃ seconds, IsLifetime x seconds) ↔ x.isSafeInteger = true ∧ zero.lt x = true := by
  constructor
  · rintro ⟨seconds, hIndex, hPos, hSafe⟩
    exact ⟨(isSafeInteger_iff hIndex).mpr hSafe, (lt_iff index?_zero hIndex).mpr hPos⟩
  · rintro ⟨hSafe, hPos⟩
    obtain ⟨seconds, hIndex, hMost⟩ := safe_not_negative_iff.mp ⟨hSafe, not_lt_zero_of_zero_lt hPos⟩
    exact ⟨seconds, hIndex, (lt_iff index?_zero hIndex).mp hPos, hMost⟩

theorem lifetime_number (x : Number) : lifetime (.number x) =
    if x.isSafeInteger && zero.lt x then .ok x else .error (.notPositiveInteger (.number x)) := by
  rfl

theorem service_of_isLifetime (h : IsLifetime x seconds) (secret : String) (now : Number) :
    service secret (.number x) now = .ok (sign (.object [("exp", .number (expiry x now))]) secret) := by
  have hAccepted := Bool.and_eq_true_iff.mpr (exists_isLifetime_iff.mp ⟨seconds, h⟩)
  rw [service, lifetime_number, if_pos hAccepted]
  rfl

theorem service_of_not_isLifetime (h : ¬ ∃ seconds, IsLifetime x seconds) (secret : String) (now : Number) :
    service secret (.number x) now = .error (.notPositiveInteger (.number x)) := by
  rw [exists_isLifetime_iff, ← Bool.and_eq_true_iff] at h
  rw [service, lifetime_number, if_neg h]
  rfl

theorem floor_div_thousand (millis : Int) : ⌊(millis : ℚ) / 1000⌋ = millis / 1000 := by
  have hFloor := Rat.floor_intCast_div_natCast millis 1000
  exact_mod_cast hFloor

theorem expiry_eq (h : IsLifetime x seconds) (hNow : now.toInt? = some millis) (hMillis : millis.natAbs ≤ maxSafe) :
    expiry x now = ofInt (millis / 1000 + seconds) := by
  have hThousand : (ofNat 1000).index? = some 1000 := index?_ofNat (by decide)
  have hFloor : (now / ofNat 1000).floor.toInt? = some (millis / 1000) :=
    toInt?_floor_div hNow hMillis hThousand (by decide) (by decide)
  have hSum : ((millis / 1000 : Int) : ℚ) + (seconds : Int) = ((millis / 1000 + seconds : Int) : ℚ) :=
    (Int.cast_add _ _).symm
  have hSign : x.isNegative = false := by
    rw [eq_ofNat_of_index? h.index h.pos (le_exactLimit h.safe)]
    exact isNegative_ofRatio false _ _
  rw [expiry, add_eq_ofInt (value?_intCast_iff.mpr hFloor) (value?_intCast_iff.mpr (toInt?_of_index? h.index)) hSum,
    hSign, Bool.and_false]
  split
  · rename_i hZero
    rw [hZero]
    exact congrArg (ofUnits false) (Nat.zero_mul _).symm
  · rfl

theorem print_expiry {second : Int} (h : second.natAbs ≤ exactLimit) :
    (Json.Value.object [("exp", .number (ofInt second))]).print = "\x7b\"exp\":" ++ toString second ++ "\x7d" := by
  have hFinite : ofInt second = finite (second < 0) (second.natAbs * unitsInOne) (holds_natural h) :=
    ofUnits_of_holds _ (holds_natural h)
  have hText : Json.numberText (ofInt second) = toString second := by
    rw [← text_ofInt h, hFinite, Json.numberText]
  have hKey : Json.quote "exp" = "\"exp\"" := by decide
  rw [← String.toList_inj]
  simp [Json.Value.print, Json.Value.write, Json.Value.writeFields, Json.Value.isAbsent, hText, hKey]

/-- A token for a lifetime of positive safe seconds expires so many seconds after the second that the clock is in,
which lies ahead, as long as that second is at most `2 ^ 53`. Any other number is refused for a lifetime. -/
theorem service_expires (secret : String) (lifetime now : Number) :
    (∀ seconds millis, IsLifetime lifetime seconds → now.toInt? = some millis → millis.natAbs ≤ maxSafe →
      ⌊(millis : ℚ) / 1000⌋ + seconds ≤ 2 ^ 53 →
      ∃ token, service secret (.number lifetime) now = .ok token ∧
        ExpiresIn (⌊(millis : ℚ) / 1000⌋ + seconds) secret token ∧
        millis < (⌊(millis : ℚ) / 1000⌋ + seconds) * 1000) ∧
    ((¬ ∃ seconds, IsLifetime lifetime seconds) → ∃ e, service secret (.number lifetime) now = .error e ∧
      (Failure.lifetime e).name = "ConfigError" ∧
      (Failure.lifetime e).message = "token ttl must be a positive integer, got " ++ lifetime.text) := by
  constructor
  · intro seconds millis hLifetime hNow hMillis hLimit
    have hPos := hLifetime.pos
    have hMost : maxSafe = 9007199254740991 := maxSafe_eq
    have hSecond : (millis / 1000 + seconds).natAbs ≤ exactLimit := by
      have hExact : exactLimit = maxSafe + 1 := rfl
      rw [floor_div_thousand] at hLimit
      omega
    rw [floor_div_thousand]
    refine ⟨_, service_of_isLifetime hLifetime secret now, ⟨?_, toInt?_ofInt hSecond, ?_⟩, ?_⟩
    · rw [expiry_eq hLifetime hNow hMillis]
    · refine ⟨_, _, _, splitOn_sign _ secret, ?_⟩
      rw [textOf?_segment, expiry_eq hLifetime hNow hMillis, print_expiry hSecond]
    · omega
  · intro hNone
    exact ⟨_, service_of_not_isLifetime hNone secret now, rfl, rfl⟩

/-- The longest lifetime under a clock that leaves the last second that is held exactly, the same under a clock before
its start, and a lifetime without end. -/
theorem service_expires_longest :
    IsLifetime (ofNat maxSafe) maxSafe ∧
    (∃ token, service "s" (.number (ofNat maxSafe)) (ofInt 1999) = .ok token ∧
      ExpiresIn 9007199254740992 "s" token) ∧
    (∃ token, service "s" (.number (ofNat maxSafe)) (ofInt (-1)) = .ok token ∧
      ExpiresIn 9007199254740990 "s" token) ∧
    (¬ ∃ seconds, IsLifetime (infinite false) seconds) ∧
    ∃ e, service "s" (.number (infinite false)) zero = .error e ∧ (Failure.lifetime e).name = "ConfigError" := by
  have hLongest : IsLifetime (ofNat maxSafe) maxSafe :=
    ⟨index?_ofNat (le_exactLimit (Nat.le_refl _)), by decide, Nat.le_refl _⟩
  have hEndless : ¬ ∃ seconds, IsLifetime (infinite false) seconds := by
    rintro ⟨seconds, hIndex, -, -⟩
    cases hIndex
  have hAt {clock : Int} (hClock : clock.natAbs ≤ maxSafe) (hLimit : clock / 1000 + maxSafe ≤ 2 ^ 53) :
      ∃ token, service "s" (.number (ofNat maxSafe)) (ofInt clock) = .ok token ∧
        ExpiresIn (clock / 1000 + maxSafe) "s" token := by
    obtain ⟨token, hToken, hExpires, -⟩ := (service_expires "s" (ofNat maxSafe) (ofInt clock)).1 maxSafe clock hLongest
      (toInt?_ofInt (le_exactLimit hClock)) hClock (by rwa [floor_div_thousand])
    rw [floor_div_thousand] at hExpires
    exact ⟨token, hToken, hExpires⟩
  obtain ⟨e, hError, hName, -⟩ := (service_expires "s" (infinite false) zero).2 hEndless
  exact ⟨hLongest, hAt (by decide) (by decide), hAt (by decide) (by decide), hEndless, e, hError, hName⟩

end CubeSlice.Token
