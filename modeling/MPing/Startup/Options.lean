import MPing.Startup.Configuration

/-!
# The options of a command line

`store` works its way through the options one by one and stops at the first that it does not like.
Here is what that comes to, without the order, for every library that does so.

* `construct_iff` — exactly which options give a configuration, and which one; exactly which give
  the help
* `construct_perm` — the order of the options and those that are not registered make no difference
-/

namespace MPing

open Infra

/-! ## What is given -/

/-- The values given for an option, in order. -/
def given (name : OptionName) (parsed : List ParsedOption) : List Bytes :=
  parsed.filterMap fun o => if o.name = some name then some o.value else none

/-- The value of an option can be converted to its type. -/
def Converts (boost : ProgramOptions) (value : Bytes) : OptionName → Bool
  | .help => true
  | .logLevel => (boost.cast.severityLevel value).isSome
  | .bindAddress => true
  | .bindPort => (boost.cast.uint16 value).isSome
  | .address => true
  | .port => (boost.cast.uint16 value).isSome
  | .ttl => (boost.cast.uint8 value).isSome
  | .interfaceName => true

/-- Every option is given once at most, with a value that can be converted. -/
def Acceptable (boost : ProgramOptions) (parsed : List ParsedOption) : Prop :=
  ∀ name, (given name parsed).length ≤ 1 ∧ ∀ value ∈ given name parsed, Converts boost value name

/-- The map of options that are acceptable. -/
def mapOf (boost : ProgramOptions) (parsed : List ParsedOption) : VariablesMap where
  help := !(given .help parsed).isEmpty
  logLevel := (given .logLevel parsed).head?.bind boost.cast.severityLevel
  bindAddress := (given .bindAddress parsed).head?
  bindPort := (given .bindPort parsed).head?.bind boost.cast.uint16
  address := (given .address parsed).head?
  port := (given .port parsed).head?.bind boost.cast.uint16
  ttl := (given .ttl parsed).head?.bind boost.cast.uint8
  interfaceName := (given .interfaceName parsed).head?

@[simp] theorem given_nil (name : OptionName) : given name [] = [] := rfl

@[simp] theorem given_concat (name : OptionName) (parsed : List ParsedOption) (o : ParsedOption) :
    given name (parsed ++ [o]) =
      given name parsed ++ if o.name = some name then [o.value] else [] := by
  rw [given, List.filterMap_append, ← given]
  by_cases h : o.name = some name <;> simp [h]

/-! ## One option -/

section Store

variable {boost : ProgramOptions} {parsed : List ParsedOption}

/-- The option is the first of its name, and can be converted. -/
def Joins (boost : ProgramOptions) (parsed : List ParsedOption) (o : ParsedOption) : Prop :=
  ∀ name, o.name = some name → given name parsed = [] ∧ Converts boost o.value name

theorem acceptable_concat {o : ParsedOption} :
    Acceptable boost (parsed ++ [o]) ↔ Acceptable boost parsed ∧ Joins boost parsed o := by
  constructor
  · intro h
    constructor
    · intro name
      obtain ⟨hlen, hconv⟩ := h name
      rw [given_concat] at hlen hconv
      rw [List.length_append] at hlen
      exact ⟨by omega, fun value hvalue => hconv value (List.mem_append_left _ hvalue)⟩
    · intro name hname
      obtain ⟨hlen, hconv⟩ := h name
      rw [given_concat, if_pos hname] at hlen hconv
      rw [List.length_append, List.length_singleton] at hlen
      exact ⟨List.eq_nil_of_length_eq_zero (by omega), hconv o.value (by simp)⟩
  · rintro ⟨h, hjoins⟩ name
    rw [given_concat]
    by_cases hname : o.name = some name
    · obtain ⟨hnil, hconv⟩ := hjoins name hname
      rw [if_pos hname, hnil]
      simpa using hconv
    · rw [if_neg hname, List.append_nil]
      exact h name

/-- A value of an option that is given has been stored. -/
theorem isSome_head?_bind {α : Type} {convert : Bytes → Option α} {values : List Bytes}
    (h : ∀ value ∈ values, (convert value).isSome = true) :
    (values.head?.bind convert).isSome = true ↔ values ≠ [] := by
  cases values with
  | nil => simp
  | cons value values => simpa using h value (by simp)

/-- The map of acceptable options has those that are given. -/
theorem has_mapOf (hacc : Acceptable boost parsed) (name : OptionName) :
    (mapOf boost parsed).has name = true ↔ given name parsed ≠ [] := by
  cases name with
  | help => simp [VariablesMap.has, mapOf]
  | logLevel => exact isSome_head?_bind (hacc .logLevel).2
  | bindPort => exact isSome_head?_bind (hacc .bindPort).2
  | port => exact isSome_head?_bind (hacc .port).2
  | ttl => exact isSome_head?_bind (hacc .ttl).2
  | bindAddress | address | interfaceName => simp [VariablesMap.has, mapOf]

/-- What converts can be put into a map. -/
theorem isSome_put (vm : VariablesMap) (value : Bytes) (name : OptionName) :
    (vm.put boost.cast value name).isSome = Converts boost value name := by
  cases name <;> simp [VariablesMap.put, Converts]

/-- Putting the first value of an option into the map. -/
theorem put_mapOf {name : OptionName} {value : Bytes} {vm : VariablesMap}
    (hnil : given name parsed = [])
    (hput : (mapOf boost parsed).put boost.cast value name = some vm) :
    vm = mapOf boost (parsed ++ [⟨some name, value⟩]) := by
  cases name with
  | help | bindAddress | address | interfaceName =>
    obtain rfl := Option.some.inj hput
    simp [mapOf, hnil]
  | logLevel | bindPort | port | ttl =>
    obtain ⟨v, hv, rfl⟩ := Option.map_eq_some_iff.mp hput
    simp [mapOf, hnil, hv]

/-- **One option**: it joins those that were acceptable, or the constructor throws. -/
theorem store_concat {o : ParsedOption} (hacc : Acceptable boost parsed)
    (hstore : boost.store parsed = .ok (mapOf boost parsed)) :
    (Joins boost parsed o ∧ boost.store (parsed ++ [o]) = .ok (mapOf boost (parsed ++ [o]))) ∨
      (¬Joins boost parsed o ∧ ∃ e, boost.store (parsed ++ [o]) = .error e) := by
  obtain ⟨name, value⟩ := o
  cases name with
  | none =>
    have hmap : mapOf boost (parsed ++ [⟨none, value⟩]) = mapOf boost parsed := by simp [mapOf]
    rw [hmap]
    exact Or.inl ⟨by rintro _ ⟨⟩, boost.store_unregistered hstore rfl⟩
  | some name =>
    have hjoins : Joins boost parsed ⟨some name, value⟩ ↔
        given name parsed = [] ∧ Converts boost value name := by
      simp [Joins]
    rw [hjoins]
    by_cases hnil : given name parsed = []
    · have hhas : (mapOf boost parsed).has name = false := by
        rw [Bool.eq_false_iff, ne_eq, has_mapOf hacc, not_not]
        exact hnil
      have hput := @isSome_put boost (mapOf boost parsed) value name
      cases hconv : (mapOf boost parsed).put boost.cast value name with
      | none =>
        refine Or.inr ⟨?_, _, boost.store_invalid hstore rfl hhas hconv⟩
        rw [← hput, hconv]
        simp
      | some vm =>
        refine Or.inl ⟨⟨hnil, by rw [← hput, hconv]; rfl⟩, ?_⟩
        rw [← put_mapOf hnil hconv]
        exact boost.store_valid hstore rfl hhas hconv
    · have hhas := (has_mapOf hacc name).mpr hnil
      exact Or.inr ⟨fun h => hnil h.1, _, boost.store_repeated hstore rfl hhas⟩

/-- **`store` without its order.** -/
theorem store_cases (boost : ProgramOptions) (parsed : List ParsedOption) :
    (Acceptable boost parsed ∧ boost.store parsed = .ok (mapOf boost parsed)) ∨
      (¬Acceptable boost parsed ∧ ∃ e, boost.store parsed = .error e) := by
  induction parsed using List.reverseRecOn with
  | nil => exact Or.inl ⟨fun name => by simp, boost.store_nil⟩
  | append_singleton parsed o ih =>
    rw [acceptable_concat]
    rcases ih with ⟨hacc, hstore⟩ | ⟨hnot, e, he⟩
    · rcases store_concat (o := o) hacc hstore with ⟨hjoins, hok⟩ | ⟨hnot, herror⟩
      · exact Or.inl ⟨⟨hacc, hjoins⟩, hok⟩
      · exact Or.inr ⟨fun h => hnot h.2, herror⟩
    · exact Or.inr ⟨fun h => hnot h.1, e, boost.store_error o he⟩

end Store

/-! ## The constructor -/

/-- The default if the option is not given, else the value of its only occurrence. -/
def Chosen {α : Type} (convert : Bytes → Option α) (default : α) (values : List Bytes) (v : α) :
    Prop :=
  (values = [] ∧ v = default) ∨ ∃ value, values = [value] ∧ convert value = some v

/-- The options ask for this configuration. -/
structure Describes (boost : ProgramOptions) (parsed : List ParsedOption) (config : Configuration)
    (level : SeverityLevel) : Prop where
  noHelp : given .help parsed = []
  /-- The two options that have to be given. -/
  bindAddress : ∃ value, given .bindAddress parsed = [value] ∧ config.bindAddress = textOf value
  interfaceName : ∃ value, given .interfaceName parsed = [value] ∧
    config.interfaceName = textOf value
  logLevel : Chosen boost.cast.severityLevel .info (given .logLevel parsed) level
  bindPort : Chosen boost.cast.uint16 4321 (given .bindPort parsed) config.bindPort
  address : Chosen (some ∘ textOf) "ff2e::42" (given .address parsed) config.address
  port : Chosen boost.cast.uint16 4321 (given .port parsed) config.port
  /-- The value is one character, and its code is meant. -/
  ttl : Chosen boost.cast.uint8 64 (given .ttl parsed) config.ttl

theorem chosen_iff {α : Type} {convert : Bytes → Option α} {default v : α} {values : List Bytes} :
    Chosen convert default values v ↔
      (values.length ≤ 1 ∧ ∀ value ∈ values, (convert value).isSome = true) ∧
        v = (values.head?.bind convert).getD default := by
  match values with
  | [] => simp [Chosen]
  | [value] =>
    cases hconvert : convert value with
    | none => simp [Chosen, hconvert]
    | some w => simpa [Chosen, hconvert] using eq_comm
  | _ :: _ :: _ => simp [Chosen]

/-- The conditions on the options one by one. -/
theorem acceptable_iff {boost : ProgramOptions} {parsed : List ParsedOption} :
    Acceptable boost parsed ↔ ∀ name ∈ [OptionName.help, .logLevel, .bindAddress, .bindPort,
      .address, .port, .ttl, .interfaceName], (given name parsed).length ≤ 1 ∧
        ∀ value ∈ given name parsed, Converts boost value name := by
  constructor
  · intro h name _
    exact h name
  · intro h name
    refine h name ?_
    cases name <;> decide

/-- `notify` asks for the two required options. -/
theorem notify_eq_ok (boost : ProgramOptions) {vm : VariablesMap} :
    boost.notify vm = .ok () ↔ vm.has .bindAddress = true ∧ vm.has .interfaceName = true := by
  by_cases h : ∀ name ∈ requiredOptions, vm.has name = true
  · simpa [requiredOptions, boost.notify_complete h] using h
  · obtain ⟨name, hname, hmissing⟩ : ∃ name ∈ requiredOptions, vm.has name = false := by
      simpa using h
    obtain ⟨name', -, -, herror⟩ := boost.notify_missing hname hmissing
    rw [herror]
    refine iff_of_false (by simp) ?_
    simpa [requiredOptions] using h

theorem exists_singleton_of_length {values : List Bytes} (h : values.length ≤ 1)
    (hne : values ≠ []) : ∃ value, values = [value] := by
  match values with
  | [] => exact absurd rfl hne
  | [value] => exact ⟨value, rfl⟩

section Construct

variable (boost : ProgramOptions) (parsed : List ParsedOption)

theorem construct_of_acceptable (hacc : Acceptable boost parsed) :
    construct boost parsed =
      if given .help parsed = [] then
        match boost.notify (mapOf boost parsed) with
        | .error e => .threw e
        | .ok () => .constructed (mapOf boost parsed).members
            ((mapOf boost parsed).logLevel.getD .info)
      else .help := by
  have hstore := ((store_cases boost parsed).resolve_right fun h => h.1 hacc).2
  have hhelp := has_mapOf hacc .help
  unfold construct
  rw [hstore]
  dsimp only
  by_cases hnil : given .help parsed = []
  · exact (if_neg fun h => hhelp.mp h hnil).trans (if_pos hnil).symm
  · exact (if_pos (hhelp.mpr hnil)).trans (if_neg hnil).symm

theorem construct_of_not_acceptable (h : ¬Acceptable boost parsed) :
    ∃ e, construct boost parsed = .threw e := by
  obtain ⟨e, he⟩ := ((store_cases boost parsed).resolve_left fun hok => h hok.1).2
  exact ⟨e, by rw [construct, he]⟩

theorem construct_eq_help :
    construct boost parsed = .help ↔ Acceptable boost parsed ∧ given .help parsed ≠ [] := by
  by_cases hacc : Acceptable boost parsed
  · rw [construct_of_acceptable boost parsed hacc]
    by_cases hnil : given .help parsed = []
    · rw [if_pos hnil]
      cases boost.notify (mapOf boost parsed) <;> simp [hnil]
    · simp [hnil, hacc]
  · obtain ⟨e, he⟩ := construct_of_not_acceptable boost parsed hacc
    simp [he, hacc]

/-- How the constructor gets to an object. -/
theorem construct_eq_constructed {config : Configuration} {level : SeverityLevel} :
    construct boost parsed = .constructed config level ↔
      Acceptable boost parsed ∧ given .help parsed = [] ∧ given .bindAddress parsed ≠ [] ∧
        given .interfaceName parsed ≠ [] ∧ config = (mapOf boost parsed).members ∧
        level = (mapOf boost parsed).logLevel.getD .info := by
  by_cases hacc : Acceptable boost parsed
  · have hnotify := @notify_eq_ok boost (mapOf boost parsed)
    rw [has_mapOf hacc, has_mapOf hacc] at hnotify
    rw [construct_of_acceptable boost parsed hacc]
    by_cases hnil : given .help parsed = []
    · rw [if_pos hnil]
      cases hresult : boost.notify (mapOf boost parsed) with
      | error e =>
        rw [hresult] at hnotify
        refine iff_of_false (by simp) fun h => ?_
        cases hnotify.mpr ⟨h.2.2.1, h.2.2.2.1⟩
      | ok u =>
        obtain ⟨hbind, hinterface⟩ := hnotify.mp hresult
        simp [hacc, hnil, hbind, hinterface, eq_comm]
    · simp [hnil]
  · obtain ⟨e, he⟩ := construct_of_not_acceptable boost parsed hacc
    simp [he, hacc]

/-- An acceptable list of options describes what `notify` makes of it. -/
theorem describes_iff {config : Configuration} {level : SeverityLevel} :
    Describes boost parsed config level ↔
      Acceptable boost parsed ∧ given .help parsed = [] ∧ given .bindAddress parsed ≠ [] ∧
        given .interfaceName parsed ≠ [] ∧ config = (mapOf boost parsed).members ∧
        level = (mapOf boost parsed).logLevel.getD .info := by
  rw [acceptable_iff]
  simp only [List.forall_mem_cons, List.not_mem_nil, false_implies, implies_true, and_true]
  constructor
  · rintro ⟨hhelp, ⟨x, hx, hbind⟩, ⟨y, hy, hinterface⟩, hlevel, hbindPort, haddress, hport, httl⟩
    obtain ⟨hlevelAcc, rfl⟩ := chosen_iff.mp hlevel
    obtain ⟨hbindPortAcc, hbindPort⟩ := chosen_iff.mp hbindPort
    obtain ⟨haddressAcc, haddress⟩ := chosen_iff.mp haddress
    obtain ⟨hportAcc, hport⟩ := chosen_iff.mp hport
    obtain ⟨httlAcc, httl⟩ := chosen_iff.mp httl
    refine ⟨⟨by simp [hhelp], hlevelAcc, by simp [hx, Converts], hbindPortAcc,
      ⟨haddressAcc.1, by simp [Converts]⟩, hportAcc, httlAcc, by simp [hy, Converts]⟩, hhelp,
      by simp [hx], by simp [hy], ?_, rfl⟩
    cases config
    simp only [VariablesMap.members, mapOf, Configuration.mk.injEq, hx, hy]
    refine ⟨hbind, hbindPort, haddress.trans ?_, hport, httl, hinterface⟩
    cases (given .address parsed).head? <;> rfl
  · rintro ⟨⟨-, hlevel, hbind, hbindPort, haddress, hport, httl, hinterface⟩, hhelp, hx, hy, rfl,
      rfl⟩
    obtain ⟨x, hx⟩ := exists_singleton_of_length hbind.1 hx
    obtain ⟨y, hy⟩ := exists_singleton_of_length hinterface.1 hy
    refine ⟨hhelp, ⟨x, hx, by simp [VariablesMap.members, mapOf, hx]⟩,
      ⟨y, hy, by simp [VariablesMap.members, mapOf, hy]⟩, chosen_iff.mpr ⟨hlevel, rfl⟩,
      chosen_iff.mpr ⟨hbindPort, rfl⟩, chosen_iff.mpr ⟨⟨haddress.1, by simp⟩, ?_⟩,
      chosen_iff.mpr ⟨hport, rfl⟩, chosen_iff.mpr ⟨httl, rfl⟩⟩
    simp only [VariablesMap.members, mapOf]
    cases (given .address parsed).head? <;> rfl

end Construct

/--
**Exactly these options give a configuration, exactly these the help.**

A configuration comes out if and only if `--bind-address` and `--interface-name` are given once,
every other option once at most, and every value converts; it holds what was given and the defaults
for the rest. The help comes out if and only if `--help` is given once and every other option, the
required ones too, once at most with a value that converts. In all other cases the constructor
throws.
-/
theorem construct_iff (boost : ProgramOptions) (parsed : List ParsedOption) :
    (∀ config level, construct boost parsed = .constructed config level ↔
      Describes boost parsed config level) ∧
    (construct boost parsed = .help ↔
      Acceptable boost parsed ∧ given .help parsed ≠ []) := by
  refine ⟨fun config level => ?_, construct_eq_help boost parsed⟩
  rw [construct_eq_constructed, describes_iff]

/-! ## The order of the options -/

theorem given_filter (name : OptionName) (parsed : List ParsedOption) :
    given name (parsed.filter fun o => o.name.isSome) = given name parsed := by
  rw [given, List.filterMap_filter]
  refine List.filterMap_congr fun o _ => ?_
  cases hname : o.name <;> simp

section Perm

variable {boost : ProgramOptions} {parsed parsed' : List ParsedOption}

/-- The registered options of the two are the same up to their order. -/
def SameOptions (parsed parsed' : List ParsedOption) : Prop :=
  (parsed.filter fun o => o.name.isSome).Perm (parsed'.filter fun o => o.name.isSome)

theorem SameOptions.symm (h : SameOptions parsed parsed') : SameOptions parsed' parsed :=
  List.Perm.symm h

theorem SameOptions.given (h : SameOptions parsed parsed') (name : OptionName) :
    (given name parsed).Perm (given name parsed') := by
  rw [← given_filter name parsed, ← given_filter name parsed']
  exact List.Perm.filterMap _ h

/-- Acceptable options are given in the only order there is. -/
theorem given_eq_of_acceptable (h : SameOptions parsed parsed') (hacc : Acceptable boost parsed)
    (name : OptionName) : given name parsed' = given name parsed := by
  have hperm := h.given name
  have hlen := (hacc name).1
  match hgiven : given name parsed with
  | [] =>
    rw [hgiven] at hperm
    exact hperm.symm.eq_nil
  | [value] =>
    rw [hgiven] at hperm
    exact List.perm_singleton.mp hperm.symm
  | _ :: _ :: _ =>
    rw [hgiven] at hlen
    simp at hlen

theorem acceptable_of_same (h : SameOptions parsed parsed') (hacc : Acceptable boost parsed) :
    Acceptable boost parsed' := by
  intro name
  rw [given_eq_of_acceptable h hacc name]
  exact hacc name

theorem construct_eq_of_acceptable (h : SameOptions parsed parsed')
    (hacc : Acceptable boost parsed) : construct boost parsed' = construct boost parsed := by
  have hmap : mapOf boost parsed' = mapOf boost parsed := by
    simp only [mapOf, given_eq_of_acceptable h hacc]
  rw [construct_of_acceptable boost parsed hacc,
    construct_of_acceptable boost parsed' (acceptable_of_same h hacc), hmap,
    given_eq_of_acceptable h hacc]

end Perm

/--
**Neither the order of the options nor the unregistered ones matter.**

Two command lines with the same registered options, in whatever order and between whatever else, end
the same way: in the same configuration and log level, in the help, or with a throw. Only which of
several errors is thrown may differ.
-/
theorem construct_perm {boost : ProgramOptions} {parsed parsed' : List ParsedOption}
    (h : SameOptions parsed parsed') :
    construct boost parsed = construct boost parsed' ∨
      ∃ e e', construct boost parsed = .threw e ∧ construct boost parsed' = .threw e' := by
  by_cases hacc : Acceptable boost parsed
  · exact Or.inl (construct_eq_of_acceptable h hacc).symm
  · have hacc' : ¬Acceptable boost parsed' := fun hacc' =>
      hacc (acceptable_of_same h.symm hacc')
    obtain ⟨e, he⟩ := construct_of_not_acceptable boost parsed hacc
    obtain ⟨e', he'⟩ := construct_of_not_acceptable boost parsed' hacc'
    exact Or.inr ⟨e, e', he, he'⟩

/-- The two required options in either order, and an unregistered one between them. -/
theorem construct_perm_sample :
    ∃ config level,
      construct .sample [⟨some .bindAddress, bytesOf "::1"⟩, ⟨none, []⟩,
        ⟨some .interfaceName, bytesOf "eth0"⟩] = .constructed config level ∧
      construct .sample [⟨some .interfaceName, bytesOf "eth0"⟩,
        ⟨some .bindAddress, bytesOf "::1"⟩] = .constructed config level := by
  have hsame : SameOptions [⟨some .bindAddress, bytesOf "::1"⟩, ⟨none, []⟩,
      ⟨some .interfaceName, bytesOf "eth0"⟩] [⟨some .interfaceName, bytesOf "eth0"⟩,
        ⟨some .bindAddress, bytesOf "::1"⟩] := List.Perm.swap _ _ _
  rcases @construct_perm .sample _ _ hsame with heq | ⟨e, e', he, -⟩
  · exact ⟨_, _, rfl, heq.symm⟩
  · cases he

end MPing
