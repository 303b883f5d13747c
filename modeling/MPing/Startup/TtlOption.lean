import MPing.Startup.Options
import MPing.Spec.Advertised

/-!
# `--ttl`

The ttl is a `uint8_t`, which is a character type, so the library converts the value of `--ttl` as a
character: `--ttl 5` gives 53, the code of `'5'`, and `--ttl 64` is refused. The default of 64 is
not converted and hides it.

* `construct_ttl` — what the option does: one character gives its code, anything else throws
* `ttl_of_reaches` — the ttl of the configuration is the ttl of every packet and of the socket
* `ttl_option_iff` — the option means the number written only where it is right to throw
-/

namespace MPing

open Infra World

/-! ## What the option does -/

section Construct

variable (boost : ProgramOptions) {pre post : List ParsedOption}
  (hother : ∀ o ∈ pre ++ post, o.name ≠ some .ttl) (s : Bytes)

/-- One more option `--ttl`, wherever it stands, leaves the others as they were. -/
theorem given_insert_ttl {name : OptionName} (hname : name ≠ .ttl) :
    given name (pre ++ ⟨some .ttl, s⟩ :: post) = given name (pre ++ post) := by
  have hne : ¬some OptionName.ttl = some name := fun h => hname (Option.some.inj h).symm
  simp [given, List.filterMap_append, hne]

include hother in
theorem given_ttl :
    given .ttl (pre ++ post) = [] ∧ given .ttl (pre ++ ⟨some .ttl, s⟩ :: post) = [s] := by
  rw [List.forall_mem_append] at hother
  have hnone : ∀ os : List ParsedOption, (∀ o ∈ os, o.name ≠ some .ttl) →
      given .ttl os = [] := by
    intro os hos
    exact List.filterMap_eq_nil_iff.mpr fun o ho => if_neg (hos o ho)
  have hpre := hnone pre hother.1
  have hpost := hnone post hother.2
  rw [given] at hpre hpost
  simp [given, List.filterMap_append, hpre, hpost]

include hother in
/-- The option is acceptable exactly if its value is one character. -/
theorem acceptable_insert_ttl (hacc : Acceptable boost (pre ++ post)) :
    Acceptable boost (pre ++ ⟨some .ttl, s⟩ :: post) ↔ (boost.cast.uint8 s).isSome = true := by
  constructor
  · intro h
    have hconv := (h .ttl).2
    rw [(given_ttl hother s).2] at hconv
    exact hconv s (by simp)
  · intro hsome name
    by_cases hname : name = .ttl
    · subst hname
      rw [(given_ttl hother s).2]
      exact ⟨by simp, by simpa [Converts] using hsome⟩
    · rw [given_insert_ttl s hname]
      exact hacc name

include hother in
/--
**What `--ttl` does** on a command line that is valid without it: a value of one character gives
its code, any other is refused.
-/
theorem construct_ttl {config : Configuration} {level : SeverityLevel}
    (hvalid : construct boost (pre ++ post) = .constructed config level) :
    (∀ c, s = [c] → construct boost (pre ++ ⟨some .ttl, s⟩ :: post) =
        .constructed { config with ttl := c } level) ∧
      (s.length ≠ 1 → ∃ e, construct boost (pre ++ ⟨some .ttl, s⟩ :: post) = .threw e) := by
  obtain ⟨hacc, hhelp, hbind, hinterface, rfl, rfl⟩ :=
    (construct_eq_constructed boost (pre ++ post)).mp hvalid
  have haccept := acceptable_insert_ttl boost hother s hacc
  constructor
  · rintro c rfl
    have hcast := boost.cast.uint8_character c
    rw [construct_eq_constructed, haccept, hcast]
    refine ⟨rfl, ?_, ?_, ?_, ?_, ?_⟩
    · rw [given_insert_ttl [c] (by decide)]
      exact hhelp
    · rw [given_insert_ttl [c] (by decide)]
      exact hbind
    · rw [given_insert_ttl [c] (by decide)]
      exact hinterface
    · simp [VariablesMap.members, mapOf, given_insert_ttl, (given_ttl hother [c]).2, hcast]
    · simp [mapOf, given_insert_ttl]
  · intro hlength
    refine construct_of_not_acceptable boost _ fun h => ?_
    have hsome := haccept.mp h
    rw [boost.cast.uint8_other s hlength] at hsome
    cases hsome

end Construct

/-! ## Where the ttl goes -/

/-- **The ttl of the arguments is the ttl of every packet and the hop limit of the socket.** -/
theorem ttl_of_reaches {platform : Platform} {a : Sender.Arguments} {pid : UInt32}
    {es : List Event} {w : World} (h : Sender.Reaches platform a pid es w) :
    (∃ hops, w.sender.socket.socket.hops = some hops ∧ hops.value = a.ttl.toNat) ∧
      ∀ d ∈ w.sent, slice d.payload 5 1 = [a.ttl] := by
  constructor
  · obtain ⟨_, _, _, -, -, -, hfixed⟩ := Sender.fixed_of_reaches h
    exact ⟨.ofByte a.ttl, congrArg UdpSocket.hops hfixed.socket, rfl⟩
  · intro d hd
    obtain ⟨srcHost, destHost, beat, -, rfl⟩ := Spec.mem_sent_of_reaches h hd
    exact MPingState.slice_wire_ttl _

/-! ## The number written -/

/--
The option means the number written: a decimal numeral of 0 to 255 is the ttl of the configuration,
of every packet and of the socket; everything else is refused.
-/
structure MeansItsNumber (boost : ProgramOptions) (args : List Bytes) (s : Bytes) : Prop where
  number : ∀ n ≤ 255, decimalValue s = some n →
    ∃ config level, Configuration.new boost args = .constructed config level ∧
      config.ttl.toNat = n ∧
      ∀ platform pid es w, Sender.Reaches platform config.arguments pid es w →
        (∃ hops, w.sender.socket.socket.hops = some hops ∧ hops.value = n) ∧
        ∀ d ∈ w.sent, slice d.payload 5 1 = [UInt8.ofNat n]
  other : (∀ n ≤ 255, decimalValue s ≠ some n) → ∃ e, Configuration.new boost args = .threw e

/-- A digit is not the number it writes. -/
theorem decimalValue_singleton {c : UInt8} {n : Nat} (h : decimalValue [c] = some n) :
    c.toNat = n + 48 := by
  unfold decimalValue at h
  split at h
  · next hdigits =>
    have hc : 48 ≤ c.toNat := by
      have hdigit : isDigit c = true := by simpa using hdigits.2
      rw [isDigit, Bool.and_eq_true, decide_eq_true_eq] at hdigit
      exact UInt8.le_iff_toNat_le.mp hdigit.1
    simp only [List.foldl_cons, List.foldl_nil, Option.some.injEq] at h
    omega
  · cases h

/--
**The option means the number written only where it is right to refuse it.**

On a command line that is valid without `--ttl`, the value `s` has the meaning it should have
exactly if it is neither one character nor a numeral of 0 to 255. A numeral of one digit is taken
for the code of that digit, a longer one is refused; one character of another kind is taken for its
code.
-/
theorem ttl_option_iff (boost : ProgramOptions) {args : List Bytes} {pre post : List ParsedOption}
    {s : Bytes} {config : Configuration} {level : SeverityLevel}
    (hother : ∀ o ∈ pre ++ post, o.name ≠ some .ttl)
    (hvalid : construct boost (pre ++ post) = .constructed config level)
    (hrun : boost.run args = .ok (pre ++ ⟨some .ttl, s⟩ :: post)) :
    (MeansItsNumber boost args s ↔ s.length ≠ 1 ∧ ∀ n ≤ 255, decimalValue s ≠ some n) ∧
      ∀ c, s = [c] →
        Configuration.new boost args = .constructed { config with ttl := c } level ∧
        ∀ platform pid es w,
          Sender.Reaches platform (Configuration.arguments { config with ttl := c }) pid es w →
          (∃ hops, w.sender.socket.socket.hops = some hops ∧ hops.value = c.toNat) ∧
          ∀ d ∈ w.sent, slice d.payload 5 1 = [c] := by
  obtain ⟨hone, hthrows⟩ := construct_ttl boost hother s hvalid
  have hnew : Configuration.new boost args
      = construct boost (pre ++ ⟨some .ttl, s⟩ :: post) := by
    rw [Configuration.new, hrun]
  refine ⟨⟨?_, ?_⟩, ?_⟩
  · rintro ⟨hnumber, hrefused⟩
    have hnone : ∀ n ≤ 255, decimalValue s ≠ some n := by
      intro n hn hdec
      obtain ⟨config', level', hconstructed, httl, -⟩ := hnumber n hn hdec
      rw [hnew] at hconstructed
      -- only a single character is accepted, and its code is not the digit it is
      by_cases hlen : s.length = 1
      · obtain ⟨c, rfl⟩ := List.length_eq_one_iff.mp hlen
        have hsame := (hone c rfl).symm.trans hconstructed
        cases hsame
        have hc := decimalValue_singleton hdec
        simp only at httl
        omega
      · obtain ⟨e, he⟩ := hthrows hlen
        rw [he] at hconstructed
        cases hconstructed
    refine ⟨?_, hnone⟩
    intro hlen
    obtain ⟨c, rfl⟩ := List.length_eq_one_iff.mp hlen
    obtain ⟨e, hthrew⟩ := hrefused hnone
    rw [hnew, hone c rfl] at hthrew
    cases hthrew
  · rintro ⟨hlen, hnone⟩
    refine ⟨fun n hn hdec => absurd hdec (hnone n hn), fun _ => ?_⟩
    rw [hnew]
    exact hthrows hlen
  · rintro c rfl
    exact ⟨hnew.trans (hone c rfl), fun platform pid es w hreach => ttl_of_reaches hreach⟩

/-- A command line with the required options and `--ttl`. -/
def commandLine (ttl : String) : List Bytes :=
  ["mping-sender", "--bind-address", "2001:db8::1", "--interface-name", "eth0", "--ttl", ttl].map
    bytesOf

/-- `--ttl 256` is refused, as it should be. -/
theorem ttl_option_256 :
    MeansItsNumber .sample (commandLine "256") (bytesOf "256") ∧
      ∃ e, Configuration.new .sample (commandLine "256") = .threw e := by
  have hmeans : MeansItsNumber .sample (commandLine "256") (bytesOf "256") := by
    have hother : ∀ o ∈ [⟨some .bindAddress, bytesOf "2001:db8::1"⟩,
        (⟨some .interfaceName, bytesOf "eth0"⟩ : ParsedOption)] ++ [], o.name ≠ some .ttl := by
      decide
    refine (ttl_option_iff .sample hother rfl rfl).1.mpr ⟨by decide, ?_⟩
    intro n hn hdec
    have hvalue : some 256 = some n := hdec
    cases hvalue
    omega
  exact ⟨hmeans, ⟨_, rfl⟩⟩

/-- `--ttl 5` sets a ttl of 53, and `--ttl 64` is refused. -/
theorem ttl_option_misread :
    (¬MeansItsNumber .sample (commandLine "5") (bytesOf "5") ∧
      ∃ config level, Configuration.new .sample (commandLine "5") = .constructed config level ∧
        config.ttl = 53) ∧
    (¬MeansItsNumber .sample (commandLine "64") (bytesOf "64") ∧
      ∃ e, Configuration.new .sample (commandLine "64") = .threw e) := by
  refine ⟨⟨?_, _, _, rfl, rfl⟩, ?_, _, rfl⟩
  · rintro ⟨hnumber, -⟩
    obtain ⟨config, level, hconstructed, httl, -⟩ := hnumber 5 (by omega) rfl
    cases hconstructed
    exact absurd httl (by decide)
  · rintro ⟨hnumber, -⟩
    obtain ⟨config, level, hconstructed, -⟩ := hnumber 64 (by omega) rfl
    cases hconstructed

end MPing
