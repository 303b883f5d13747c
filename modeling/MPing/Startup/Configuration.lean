import MPing.Sender.Main

/-!
# `Configuration`

The command line (`configuration.hpp`, `configuration.cpp`). What the program decides is which
options there are, of which type, with which defaults and which of them are required, and that
`--help` ends the process between `store` and `notify`. Boost.Program_options is a parameter
(`ProgramOptions`): how it splits the arguments is free, and what `store` and `notify` do with the
options is assumed step by step.

A string of the command line is its bytes. Built with Clang the program has no `--log-level`; the
option is then one of the unregistered ones, which `store` passes over, and the log filter is set to
what is the default otherwise.
-/

namespace MPing

open Infra

/-! ## Boost.Program_options -/

/-- The options the constructor registers. -/
inductive OptionName where
  | help
  | logLevel
  | bindAddress
  | bindPort
  | address
  | port
  | ttl
  | interfaceName
deriving DecidableEq, Repr

/-- An option as it was found on the command line; without a name it is not a registered one. -/
structure ParsedOption where
  name : Option OptionName
  value : Bytes
deriving DecidableEq, Repr

/-- What the library throws. -/
inductive OptionError where
  | invalidCommandLineSyntax
  | multipleOccurrences (name : OptionName)
  | invalidOptionValue (name : OptionName) (value : Bytes)
  | requiredOption (name : OptionName)
deriving DecidableEq, Repr

/-- `boost::log::trivial::severity_level`. -/
inductive SeverityLevel where
  | trace
  | debug
  | info
  | warning
  | error
  | fatal
deriving DecidableEq, Repr

/-- `boost::lexical_cast` to the types of the options. -/
structure LexicalCast where
  /-- `lexical_cast<unsigned char>`, which is what `uint8_t` is. -/
  uint8 : Bytes → Option UInt8
  uint16 : Bytes → Option UInt16
  severityLevel : Bytes → Option SeverityLevel
  /-- One character, and its code. -/
  uint8_character : ∀ c, uint8 [c] = some c
  uint8_other : ∀ s, s.length ≠ 1 → uint8 s = none

/-! ## Numerals -/

/-- A decimal digit. -/
def isDigit (c : UInt8) : Bool := 48 ≤ c && c ≤ 57

/-- The number a string of digits writes in decimal. -/
def decimalValue (s : Bytes) : Option Nat :=
  if s ≠ [] ∧ s.all isDigit then some (s.foldl (fun n c => 10 * n + (c.toNat - 48)) 0) else none

/-! ## Storing -/

/-- `variables_map`, without the defaults. -/
structure VariablesMap where
  help : Bool := false
  logLevel : Option SeverityLevel := none
  bindAddress : Option Bytes := none
  bindPort : Option UInt16 := none
  address : Option Bytes := none
  port : Option UInt16 := none
  ttl : Option UInt8 := none
  interfaceName : Option Bytes := none
deriving DecidableEq, Repr

namespace VariablesMap

/-- `vm.contains(name)`, where defaults do not count. -/
def has (vm : VariablesMap) : OptionName → Bool
  | .help => vm.help
  | .logLevel => vm.logLevel.isSome
  | .bindAddress => vm.bindAddress.isSome
  | .bindPort => vm.bindPort.isSome
  | .address => vm.address.isSome
  | .port => vm.port.isSome
  | .ttl => vm.ttl.isSome
  | .interfaceName => vm.interfaceName.isSome

/-- The map with a value for an option, if the value has the type the option is declared with. -/
def put (cast : LexicalCast) (vm : VariablesMap) (value : Bytes) :
    OptionName → Option VariablesMap
  | .help => some { vm with help := true }
  | .logLevel => (cast.severityLevel value).map ({ vm with logLevel := some · })
  | .bindAddress => some { vm with bindAddress := some value }
  | .bindPort => (cast.uint16 value).map ({ vm with bindPort := some · })
  | .address => some { vm with address := some value }
  | .port => (cast.uint16 value).map ({ vm with port := some · })
  | .ttl => (cast.uint8 value).map ({ vm with ttl := some · })
  | .interfaceName => some { vm with interfaceName := some value }

end VariablesMap

/-- The options declared with `required()`. -/
def requiredOptions : List OptionName := [.bindAddress, .interfaceName]

/-- Boost.Program_options. -/
structure ProgramOptions where
  cast : LexicalCast
  /-- `parser.run()`. -/
  run : List Bytes → Except OptionError (List ParsedOption)
  /-- `store(parsed_options, vm)` into an empty map. -/
  store : List ParsedOption → Except OptionError VariablesMap
  /-- `notify(vm)`, which writes the members if it does not throw. -/
  notify : VariablesMap → Except OptionError Unit
  /-- The error as the `std::exception` that `main` catches. -/
  exception : OptionError → Exception
  store_nil : store [] = .ok {}
  /-- The options are stored in order, and the first error ends it. -/
  store_error : ∀ {parsed e} o, store parsed = .error e → store (parsed ++ [o]) = .error e
  /-- An option that is not registered is passed over. -/
  store_unregistered : ∀ {parsed vm o}, store parsed = .ok vm → o.name = none →
    store (parsed ++ [o]) = .ok vm
  /-- An option may be given once. -/
  store_repeated : ∀ {parsed vm o name}, store parsed = .ok vm → o.name = some name →
    vm.has name = true → store (parsed ++ [o]) = .error (.multipleOccurrences name)
  store_invalid : ∀ {parsed vm o name}, store parsed = .ok vm → o.name = some name →
    vm.has name = false → vm.put cast o.value name = none →
    store (parsed ++ [o]) = .error (.invalidOptionValue name o.value)
  store_valid : ∀ {parsed vm vm' o name}, store parsed = .ok vm → o.name = some name →
    vm.has name = false → vm.put cast o.value name = some vm' → store (parsed ++ [o]) = .ok vm'
  notify_complete : ∀ {vm}, (∀ name ∈ requiredOptions, vm.has name = true) → notify vm = .ok ()
  /-- One of the options that are missing is named. -/
  notify_missing : ∀ {vm name}, name ∈ requiredOptions → vm.has name = false →
    ∃ name' ∈ requiredOptions, vm.has name' = false ∧ notify vm = .error (.requiredOption name')

/-! ## The constructor -/

/-- The bytes of a `std::string`, one character each. -/
def textOf (bytes : Bytes) : String := String.ofList (bytes.map fun b => Char.ofNat b.toNat)

/-- How the constructor ends. -/
inductive Construction where
  | threw (e : OptionError)
  /-- The help was printed and `std::exit(EXIT_SUCCESS)` called. -/
  | help
  /-- The object, and the level the log filter was set to. -/
  | constructed (config : Configuration) (logLevel : SeverityLevel)

/-- The members as `notify` writes them: what was given, else the default. -/
def VariablesMap.members (vm : VariablesMap) : Configuration where
  bindAddress := (vm.bindAddress.map textOf).getD ""
  bindPort := vm.bindPort.getD 4321
  address := (vm.address.map textOf).getD "ff2e::42"
  port := vm.port.getD 4321
  ttl := vm.ttl.getD 64
  interfaceName := (vm.interfaceName.map textOf).getD ""

/-- The constructor behind `parser.run()`. -/
def construct (boost : ProgramOptions) (parsed : List ParsedOption) : Construction :=
  match boost.store parsed with
  | .error e => .threw e
  | .ok vm =>
    if vm.has .help then .help
    else
      match boost.notify vm with
      | .error e => .threw e
      | .ok () => .constructed vm.members (vm.logLevel.getD .info)

/-- `Configuration::Configuration`. -/
def Configuration.new (boost : ProgramOptions) (args : List Bytes) : Construction :=
  match boost.run args with
  | .error e => .threw e
  | .ok parsed => construct boost parsed

/-! ## The library on simple command lines -/

/-- The bytes of an ASCII string. -/
def bytesOf (text : String) : Bytes := text.toList.map fun c => UInt8.ofNat c.toNat

/-- Pairs of an option and its value. -/
def parsePairs : List Bytes → Except OptionError (List ParsedOption)
  | arg :: value :: rest => do
    let name :=
      [(bytesOf "--log-level", OptionName.logLevel), (bytesOf "--bind-address", .bindAddress),
        (bytesOf "--bind-port", .bindPort), (bytesOf "--address", .address),
        (bytesOf "--port", .port), (bytesOf "--ttl", .ttl),
        (bytesOf "--interface-name", .interfaceName)].lookup arg
    return ⟨name, value⟩ :: (← parsePairs rest)
  | [] => .ok []
  | [_] => .error .invalidCommandLineSyntax

def LexicalCast.sample : LexicalCast where
  uint8 := fun
    | [c] => some c
    | _ => none
  uint16 := fun s =>
    (decimalValue s).bind fun n => if n < 65536 then some (UInt16.ofNat n) else none
  severityLevel := fun s =>
    [(bytesOf "trace", SeverityLevel.trace), (bytesOf "debug", .debug), (bytesOf "info", .info),
      (bytesOf "warning", .warning), (bytesOf "error", .error), (bytesOf "fatal", .fatal)].lookup s
  uint8_character := fun _ => rfl
  uint8_other := fun s h =>
    match s, h with
    | [], _ => rfl
    | _ :: _ :: _, _ => rfl

/-- Stores one option. -/
def storeOption (cast : LexicalCast) (vm : VariablesMap) (o : ParsedOption) :
    Except OptionError VariablesMap :=
  match o.name with
  | none => .ok vm
  | some name =>
    if vm.has name then .error (.multipleOccurrences name)
    else
      match vm.put cast o.value name with
      | some vm' => .ok vm'
      | none => .error (.invalidOptionValue name o.value)

theorem foldlM_storeOption_concat {cast : LexicalCast} {vm : VariablesMap}
    {parsed : List ParsedOption} (h : parsed.foldlM (storeOption cast) {} = .ok vm)
    (o : ParsedOption) :
    (parsed ++ [o]).foldlM (storeOption cast) {} = storeOption cast vm o := by
  rw [List.foldlM_append, h]
  show [o].foldlM (storeOption cast) vm = _
  simp only [List.foldlM_cons, List.foldlM_nil, bind_pure]

/-- The library on command lines of such pairs. -/
def ProgramOptions.sample : ProgramOptions where
  cast := .sample
  run := fun args => parsePairs args.tail
  store := fun parsed => parsed.foldlM (storeOption .sample) {}
  notify := fun vm =>
    match requiredOptions.find? (!vm.has ·) with
    | none => .ok ()
    | some name => .error (.requiredOption name)
  exception := fun _ => .invalidArgument "program_options"
  store_nil := rfl
  store_error := fun o h => by
    rw [List.foldlM_append, h]
    rfl
  store_unregistered := fun h hname => by
    rw [foldlM_storeOption_concat h, storeOption, hname]
  store_repeated := fun h hname hhas => by
    rw [foldlM_storeOption_concat h, storeOption, hname]
    exact if_pos hhas
  store_invalid := fun h hname hhas hput => by
    rw [foldlM_storeOption_concat h, storeOption, hname]
    simp [hhas, hput]
  store_valid := fun h hname hhas hput => by
    rw [foldlM_storeOption_concat h, storeOption, hname]
    simp [hhas, hput]
  notify_complete := fun h => by
    rw [List.find?_eq_none.mpr fun name hname => by simp [h name hname]]
  notify_missing := fun {vm name} hname hhas => by
    cases hfind : requiredOptions.find? (!vm.has ·) with
    | none => exact absurd hhas (by simpa using List.find?_eq_none.mp hfind name hname)
    | some name' =>
      exact ⟨name', List.mem_of_find?_eq_some hfind, by simpa using List.find?_some hfind, rfl⟩

end MPing
