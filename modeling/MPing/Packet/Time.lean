import MPing.Packet.State

/-!
# The two words of a time stamp

`get_seconds` and `get_microseconds` split a time point of nanoseconds. Both truncate toward zero,
so below zero the two words are negative together. Here: no step of the split overflows
(`getSeconds_ok`, `getMicroseconds_ok`), and together the words are the time point in microseconds
(`seconds_microseconds`).
-/

namespace MPing

/-! ## Truncated division -/

/-- `tdiv` is `ediv` of the absolute value, with the sign put back. `omega` knows `ediv` only. -/
theorem tdiv_cases (a k : Int) :
    (0 ≤ a ∧ a.tdiv k = a / k) ∨ (a < 0 ∧ a.tdiv k = -(-a / k)) := by
  by_cases h : 0 ≤ a
  · exact Or.inl ⟨h, Int.tdiv_eq_ediv_of_nonneg h⟩
  · refine Or.inr ⟨by omega, ?_⟩
    rw [← Int.tdiv_eq_ediv_of_nonneg (by omega), Int.neg_tdiv, Int.neg_neg]

/-- A result in range is returned, and unchanged. -/
theorem int64_ok {x : Int} (h1 : -2 ^ 63 ≤ x) (h2 : x < 2 ^ 63) :
    ∃ y : Int64, int64 x = .ok y ∧ y.toInt = x :=
  ⟨Int64.ofInt x, by rw [int64, if_pos ⟨h1, h2⟩], Int64.toInt_ofInt_of_le h1 h2⟩

/-! ## The split -/

/-- The time point in whole seconds. -/
def secondsOf (tv : Int) : Int := tv.tdiv 1000000000

/-- What is left of it, in whole microseconds. -/
def microsecondsOf (tv : Int) : Int := (tv - secondsOf tv * 1000000000).tdiv 1000

theorem secondsOf_cases (tv : Int) :
    (0 ≤ tv ∧ secondsOf tv = tv / 1000000000) ∨ (tv < 0 ∧ secondsOf tv = -(-tv / 1000000000)) :=
  tdiv_cases tv 1000000000

/-- The remainder has the sign of `tv`, so the second division truncates the same way. -/
theorem microsecondsOf_cases (tv : Int) :
    (0 ≤ tv ∧ microsecondsOf tv = tv % 1000000000 / 1000) ∨
      (tv < 0 ∧ microsecondsOf tv = -(-tv % 1000000000 / 1000)) := by
  have hr := tdiv_cases (tv - secondsOf tv * 1000000000) 1000
  rw [← microsecondsOf] at hr
  rcases secondsOf_cases tv with ⟨h, hs⟩ | ⟨h, hs⟩
  · exact Or.inl ⟨h, by omega⟩
  · exact Or.inr ⟨h, by omega⟩

/-- The two words make up the time point in microseconds. -/
theorem seconds_microseconds (tv : Int) :
    secondsOf tv * 1000000 + microsecondsOf tv = tv.tdiv 1000 := by
  have hs := secondsOf_cases tv
  have hm := microsecondsOf_cases tv
  have hd := tdiv_cases tv 1000
  omega

/-- Conversely the time point in microseconds determines the seconds. -/
theorem secondsOf_eq (tv : Int) : secondsOf tv = (tv.tdiv 1000).tdiv 1000000 := by
  have hs := secondsOf_cases tv
  have hd := tdiv_cases tv 1000
  have hq := tdiv_cases (tv.tdiv 1000) 1000000
  omega

theorem microsecondsOf_eq (tv : Int) :
    microsecondsOf tv = tv.tdiv 1000 - (tv.tdiv 1000).tdiv 1000000 * 1000000 := by
  have h := seconds_microseconds tv
  rw [← secondsOf_eq]
  omega

/-! ## What the two functions return -/

namespace MPingState

variable (s : MPingState)

theorem getSeconds_ok : ∃ seconds : Int64,
    s.getSeconds = .ok seconds ∧ seconds.toInt = secondsOf s.tv.toInt := by
  have h1 := s.tv.le_toInt
  have h2 := s.tv.toInt_lt
  have hs := secondsOf_cases s.tv.toInt
  exact int64_ok (x := secondsOf s.tv.toInt) (by omega) (by omega)

theorem getMicroseconds_ok : ∃ microseconds : Int64,
    s.getMicroseconds = .ok microseconds ∧ microseconds.toInt = microsecondsOf s.tv.toInt := by
  have h1 := s.tv.le_toInt
  have h2 := s.tv.toInt_lt
  have hs := secondsOf_cases s.tv.toInt
  have hm := microsecondsOf_cases s.tv.toInt
  -- the four steps of the function, each within the range of `int64_t`
  obtain ⟨seconds, hsec, hsecInt⟩ := s.getSeconds_ok
  obtain ⟨nanos, hnanos, hnanosInt⟩ :=
    int64_ok (x := secondsOf s.tv.toInt * 1000000000) (by omega) (by omega)
  obtain ⟨remaining, hrem, hremInt⟩ :=
    int64_ok (x := s.tv.toInt - secondsOf s.tv.toInt * 1000000000) (by omega) (by omega)
  obtain ⟨microseconds, hmic, hmicInt⟩ :=
    int64_ok (x := microsecondsOf s.tv.toInt) (by omega) (by omega)
  refine ⟨microseconds, ?_, hmicInt⟩
  rw [getSeconds, nanosecondsPerSecond] at hsec
  rw [microsecondsOf, ← hremInt] at hmic
  simp only [getMicroseconds, bind, Except.bind, hsec, hsecInt, nanosecondsPerSecond, hnanos,
    hnanosInt, hrem]
  exact hmic

end MPingState

end MPing
