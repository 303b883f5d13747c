import MPing.Infra.Bytes
import MPing.Infra.Slice
import MPing.Infra.Logged
import MPing.Infra.Rounding

/-!
# The part of Wireshark's Lua API the dissector uses

A buffer is its bytes. `buffer(o, n)` is a range inside it, and a range that would leave the buffer
is a Lua error, so a `TvbRange` carries the proof that it does not.

What a dissector does to the tree is a log of `Item`s; a Lua error ends the run and leaves the items
already added. `format_time` is a function of Wireshark the dissector only prints the result of; it
is a parameter of the dissector.
-/

namespace MPing.Wireshark

open Infra

/-! ## Values -/

/-- The type of an address. -/
inductive AddressType where
  | ipv4
  | ipv6
  | other (type : Nat)
deriving DecidableEq, Repr

/-- `Address`. Two are equal when type and bytes are. -/
structure WsAddress where
  type : AddressType
  data : Bytes
deriving DecidableEq, Repr

/-- `Pinfo`: what the headers around the payload say. -/
structure Pinfo where
  src : WsAddress
  dst : WsAddress
  srcPort : Nat
  dstPort : Nat
deriving DecidableEq, Repr

/-- Headers of a packet from `192.0.2.1` to `239.1.2.3`. -/
def Pinfo.sample : Pinfo where
  src := ⟨.ipv4, [192, 0, 2, 1]⟩
  dst := ⟨.ipv4, [239, 1, 2, 3]⟩
  srcPort := 4321
  dstPort := 4321

inductive LuaError where
  | outOfBounds
  | concatenateNil
deriving DecidableEq, Repr

/-! ## Ranges -/

/-- `TvbRange`. -/
structure TvbRange where
  buffer : Bytes
  offset : Nat
  len : Nat
  bounded : offset + len ≤ buffer.length

namespace TvbRange

def bytes (r : TvbRange) : Bytes := slice r.buffer r.offset r.len

/-- `uint()`: big-endian. -/
def uint (r : TvbRange) : Nat := ofBigEndian r.bytes

/-- `le_uint()`: little-endian. -/
def leUint (r : TvbRange) : Nat := ofLittleEndian r.bytes

/-- `uint64()`: big-endian. -/
def uint64 (r : TvbRange) : UInt64 := UInt64.ofNat (ofBigEndian r.bytes)

def ipv4 (r : TvbRange) : WsAddress := ⟨.ipv4, r.bytes⟩

def ipv6 (r : TvbRange) : WsAddress := ⟨.ipv6, r.bytes⟩

/--
`stringz()`: the bytes from the start of the range to the first zero.

The length of the range does not limit the scan; only the end of the buffer does.
-/
def stringz (r : TvbRange) : Except LuaError Bytes :=
  let rest := r.buffer.drop r.offset
  if 0 ∈ rest then .ok (rest.takeWhile (· ≠ 0)) else .error .outOfBounds

end TvbRange

/-! ## Numbers -/

/-- `UInt64:tonumber()`: a double, here the integer it stands for. -/
def tonumber (x : UInt64) : Nat := roundNat 53 x.toNat

/-- `math.tointeger()` on a double that is not negative. -/
def mathTointeger (x : Nat) : Option Nat := if x < 2 ^ 63 then some x else none

/-! ## The tree -/

/-- The kind of a `ProtoField`. -/
inductive FieldKind where
  | stringz
  | char
  | uint (bits : Nat)
  | ipv4
  | ipv6
deriving DecidableEq, Repr

inductive Value where
  | uint (n : Nat)
  | string (bytes : Bytes)
  | address (a : WsAddress)
deriving DecidableEq, Repr

/-- What a run of a dissector adds to the tree, for a protocol's nodes, fields and experts. -/
inductive Item (Node Field Expert : Type) where
  | subtree (node : Node) (offset len : Nat) (label : String)
  | field (parent : Node) (field : Field) (offset len : Nat) (value : Value)
  | expert (parent : Node) (expert : Expert)
  | text (parent : Node) (text : String)
deriving DecidableEq, Repr

section Tree

variable {Node Field Expert : Type}

abbrev Dissect (Node Field Expert : Type) := Logged (Item Node Field Expert) LuaError

/-- `buffer(o, n)`. -/
def range (buffer : Bytes) (o n : Nat) : Dissect Node Field Expert TvbRange :=
  if h : o + n ≤ buffer.length then pure ⟨buffer, o, n, h⟩
  else Logged.ofExcept (.error .outOfBounds)

/-- `tree:add(range, label)`, which returns the new node. -/
def addSubtree (node : Node) (r : TvbRange) (label : String) : Dissect Node Field Expert Unit :=
  Logged.tell (.subtree node r.offset r.len label)

/-- `tree:add(field, range, value)` and `tree:add_le(field, range, value)`. -/
def add (parent : Node) (field : Field) (r : TvbRange) (value : Value) :
    Dissect Node Field Expert Unit :=
  Logged.tell (.field parent field r.offset r.len value)

/-- `tree:add(field, range)` for an unsigned field: the value is read from the range. -/
def addUint (parent : Node) (field : Field) (r : TvbRange) : Dissect Node Field Expert Unit :=
  add parent field r (.uint r.uint)

def addProtoExpertInfo (parent : Node) (expert : Expert) : Dissect Node Field Expert Unit :=
  Logged.tell (.expert parent expert)

def addText (parent : Node) (text : String) : Dissect Node Field Expert Unit :=
  Logged.tell (.text parent text)

theorem range_eq {buffer : Bytes} {o n : Nat} (h : o + n ≤ buffer.length) :
    (range buffer o n : Dissect Node Field Expert TvbRange) = pure ⟨buffer, o, n, h⟩ :=
  dif_pos h

/-! ## Reading a log -/

/-- The fields added and their values, in order. -/
def fields (log : List (Item Node Field Expert)) : List (Field × Value) :=
  log.filterMap fun
    | .field _ f _ _ value => some (f, value)
    | _ => none

/-- The values added under one field, in order. -/
def fieldValues [DecidableEq Field] (f : Field) (log : List (Item Node Field Expert)) :
    List Value :=
  ((fields log).filter (·.1 = f)).map (·.2)

/-- The expert infos added, in order. -/
def experts (log : List (Item Node Field Expert)) : List Expert :=
  log.filterMap fun
    | .expert _ e => some e
    | _ => none

theorem mem_experts {log : List (Item Node Field Expert)} {e : Expert} :
    e ∈ experts log ↔ ∃ parent, Item.expert parent e ∈ log := by
  rw [experts, List.mem_filterMap]
  constructor
  · rintro ⟨item, hitem, hexpert⟩
    cases item with
    | expert parent e' =>
      cases hexpert
      exact ⟨parent, hitem⟩
    | subtree | field | text => cases hexpert
  · rintro ⟨parent, hitem⟩
    exact ⟨_, hitem, rfl⟩

@[simp] theorem fields_append (as bs : List (Item Node Field Expert)) :
    fields (as ++ bs) = fields as ++ fields bs := List.filterMap_append

@[simp] theorem experts_append (as bs : List (Item Node Field Expert)) :
    experts (as ++ bs) = experts as ++ experts bs := List.filterMap_append

section Cons

variable (node : Node) (log : List (Item Node Field Expert))

@[simp] theorem fields_nil : fields ([] : List (Item Node Field Expert)) = [] := rfl

@[simp] theorem fields_subtree (o n : Nat) (label : String) :
    fields (.subtree node o n label :: log) = fields log := rfl

@[simp] theorem fields_field (f : Field) (o n : Nat) (value : Value) :
    fields (.field node f o n value :: log) = (f, value) :: fields log := rfl

@[simp] theorem fields_expert (e : Expert) : fields (.expert node e :: log) = fields log := rfl

@[simp] theorem experts_nil : experts ([] : List (Item Node Field Expert)) = [] := rfl

@[simp] theorem experts_subtree (o n : Nat) (label : String) :
    experts (.subtree node o n label :: log) = experts log := rfl

@[simp] theorem experts_field (f : Field) (o n : Nat) (value : Value) :
    experts (.field node f o n value :: log) = experts log := rfl

@[simp] theorem experts_expert (e : Expert) :
    experts (.expert node e :: log) = e :: experts log := rfl

end Cons

end Tree

end MPing.Wireshark
