import Mathlib

/-!
# Network addresses

An address is four or sixteen bytes; each predicate of the network library reads an IPv4 address in four bytes,
whichever way it is written.
-/

namespace ModelDock.Outbound

open List

/-- An IP address: four bytes, or sixteen. -/
@[ext] structure Address where
  bytes : List UInt8
  length_bytes : bytes.length = 4 ∨ bytes.length = 16
deriving DecidableEq

namespace Address

/-- The first twelve bytes of an IPv4 address that is written in sixteen. -/
def v4InV6 : List UInt8 := [0, 0, 0, 0, 0, 0, 0, 0, 0, 0, 0xff, 0xff]

/-- The four bytes of an IPv4 address. -/
def to4 (ip : Address) : Option (List UInt8) :=
  if ip.bytes.length = 4 then some ip.bytes
  else if ip.bytes.take 12 = v4InV6 then some (ip.bytes.drop 12)
  else none

variable {ip : Address} {v4 : List UInt8}

theorem length_of_to4 (h : ip.to4 = some v4) : v4.length = 4 := by
  unfold to4 at h
  split at h
  · next hln =>
    cases h
    exact hln
  · next hln =>
    split at h
    · cases h
      rw [length_drop, ip.length_bytes.resolve_left hln]
    · cases h

/-- An IPv4 address in four bytes, any other address as it is. -/
def normalize (ip : Address) : Address where
  bytes := ip.to4.getD ip.bytes
  length_bytes := by
    cases h : ip.to4 with
    | some v4 => exact .inl (length_of_to4 h)
    | none => exact ip.length_bytes

/-- A mapped address is normalized to its four bytes. -/
theorem bytes_normalize (h : ip.to4 = some v4) : ip.normalize.bytes = v4 := by
  simp only [normalize, h, Option.getD_some]

theorem bytes_normalize_of_none (h : ip.to4 = none) : ip.normalize.bytes = ip.bytes := by
  simp only [normalize, h, Option.getD_none]

/-- The byte at a position. -/
def byte (bytes : List UInt8) (i : ℕ) : UInt8 := bytes.getD i 0

/-- A test of the four bytes of an IPv4 address, or of the sixteen of another one. -/
def test (ip : Address) (v4 v6 : List UInt8 → Bool) : Bool :=
  match ip.to4 with
  | some bytes => v4 bytes
  | none => v6 ip.bytes

theorem test_of_none {v4 v6 : List UInt8 → Bool} (h : ip.to4 = none) : ip.test v4 v6 = v6 ip.bytes := by
  simp only [test, h]

/-- The address of no host. -/
def isUnspecified (ip : Address) : Bool :=
  ip.test (fun v4 => v4 = [0, 0, 0, 0]) fun v6 => v6 = List.replicate 16 0

/-- An address of the host itself. -/
def isLoopback (ip : Address) : Bool :=
  ip.test (fun v4 => byte v4 0 = 127) fun v6 => v6 = List.replicate 15 0 ++ [1]

/-- An address of a private network. -/
def isPrivate (ip : Address) : Bool :=
  ip.test
    (fun v4 => byte v4 0 = 10 || (byte v4 0 = 172 && byte v4 1 &&& 0xf0 = 16) ||
      (byte v4 0 = 192 && byte v4 1 = 168))
    fun v6 => byte v6 0 &&& 0xfe = 0xfc

/-- An address of a group of hosts. -/
def isMulticast (ip : Address) : Bool :=
  ip.test (fun v4 => byte v4 0 &&& 0xf0 = 0xe0) fun v6 => byte v6 0 = 0xff

/-- A group of hosts on one link. -/
def isLinkLocalMulticast (ip : Address) : Bool :=
  ip.test (fun v4 => byte v4 0 = 224 && byte v4 1 = 0 && byte v4 2 = 0)
    fun v6 => byte v6 0 = 0xff && byte v6 1 &&& 0x0f = 0x02

/-- One host on a link. -/
def isLinkLocalUnicast (ip : Address) : Bool :=
  ip.test (fun v4 => byte v4 0 = 169 && byte v4 1 = 254)
    fun v6 => byte v6 0 = 0xfe && byte v6 1 &&& 0xc0 = 0x80

/-- All hosts of the link. -/
def isBroadcast (ip : Address) : Bool :=
  ip.test (fun v4 => v4 = [0xff, 0xff, 0xff, 0xff]) fun _ => false

/-- An address of one host that is not on the link only; private networks count. -/
def isGlobalUnicast (ip : Address) : Bool :=
  !ip.isBroadcast && !ip.isUnspecified && !ip.isLoopback && !ip.isMulticast && !ip.isLinkLocalUnicast

end Address

/-- A network number with as many bytes of mask. -/
structure Block where
  (network mask : List UInt8)

/-- The byte of a mask that has a number of leading ones. -/
def maskByte (ones i : ℕ) : UInt8 := UInt8.ofNat (256 - 2 ^ (8 - min 8 (ones - 8 * i)))

/-- The block of the addresses that agree with a network number in a number of leading bits. -/
def Block.leading (network : List UInt8) (ones : ℕ) : Block :=
  ⟨network, (List.range network.length).map (maskByte ones)⟩

/-- The address belongs to the block. -/
def Block.contains (block : Block) (ip : Address) : Bool :=
  ip.normalize.bytes.length = block.network.length &&
    (ip.normalize.bytes.zip (block.network.zip block.mask)).all fun entry =>
      entry.2.1 &&& entry.2.2 = entry.1 &&& entry.2.2

example : (Block.leading [100, 64, 0, 0] 10).mask = [0xff, 0xc0, 0, 0] := by decide

variable {block : Block} {ip : Address} {i : ℕ} {x m : UInt8}

theorem Block.byte_of_contains (h : block.contains ip) (hnet : block.network[i]? = some x)
    (hmask : block.mask[i]? = some m) : x &&& m = Address.byte ip.normalize.bytes i &&& m := by
  obtain ⟨hln, hall⟩ := Bool.and_eq_true_iff.mp h
  have hbd : i < ip.normalize.bytes.length := by
    rw [of_decide_eq_true hln]
    exact (List.getElem?_eq_some_iff.mp hnet).1
  have hent : (ip.normalize.bytes.zip (block.network.zip block.mask))[i]? =
      some (Address.byte ip.normalize.bytes i, x, m) := by
    simp [List.getElem?_zip_eq_some, hnet, hmask, Address.byte, List.getElem?_eq_getElem hbd]
  simpa using List.all_eq_true.mp hall _ (List.mem_of_getElem? hent)

theorem Block.to4_of_contains (h : block.contains ip) (hln : block.network.length = 16) :
    ip.to4 = none := by
  cases hto4 : ip.to4 with
  | none => rfl
  | some _ =>
    have hsame := of_decide_eq_true (Bool.and_eq_true_iff.mp h).1
    rw [Address.bytes_normalize hto4, Address.length_of_to4 hto4, hln] at hsame
    cases hsame

theorem Block.bytes_of_contains_full (network : List UInt8)
    (h : (Block.leading network (8 * network.length)).contains ip) : ip.normalize.bytes = network := by
  have hln : ip.normalize.bytes.length = network.length := of_decide_eq_true (Bool.and_eq_true_iff.mp h).1
  refine ext_getElem hln fun i hi hi' => ?_
  have hmask : maskByte (8 * network.length) i = 255 := by
    have hones : min 8 (8 * network.length - 8 * i) = 8 := by omega
    simp [maskByte, hones]
  have hbyte := Block.byte_of_contains h (getElem?_eq_getElem hi') (m := 255)
    (by simp [Block.leading, hmask, hi'])
  have hall (b : UInt8) : b &&& 255 = b := UInt8.and_neg_one
  rw [hall, hall] at hbyte
  simp [hbyte, Address.byte, hi]

end ModelDock.Outbound
