import DSoftBus.Lib.ByteString

/-!
The head of the packets that softbus_conn_manager.c posts, as it lies in memory on a
little-endian device: there is no padding between its fields. A packet is the head with
the length of the payload and the payload itself.
-/
namespace DSoftBus.Conn
open ByteString

def moduleConnection : BitVec 32 := 11
def moduleDeviceAuth : BitVec 32 := 14

def magicNumber : BitVec 32 := 0xBABEFACE

structure ConnPktHead where
  magic : BitVec 32
  module : BitVec 32
  seq : BitVec 64
  flag : BitVec 32
  len : BitVec 32

def connPktHeadSize : Nat := 24

namespace ConnPktHead

variable (head : ConnPktHead)

def bytes : Bytes :=
  putWord 4 head.magic ++ (putWord 4 head.module ++ (putWord 8 head.seq ++
    (putWord 4 head.flag ++ putWord 4 head.len)))

def read (bytes : Bytes) : ConnPktHead where
  magic := getWord 32 4 bytes
  module := getWord 32 4 (bytes.drop 4)
  seq := getWord 64 8 (bytes.drop 8)
  flag := getWord 32 4 (bytes.drop 16)
  len := getWord 32 4 (bytes.drop 20)

lemma length_bytes : head.bytes.length = connPktHeadSize := by
  simp [bytes, connPktHeadSize]

lemma read_bytes_append (rest) : read (head.bytes ++ rest) = head := by
  simp [read, bytes, getWord_putWord_append]

lemma read_take {n} (long : connPktHeadSize ≤ n) (bytes) : read (bytes.take n) = read bytes := by
  have front (off count) (inside : off + count ≤ n) :
      ((bytes.take n).drop off).take count = (bytes.drop off).take count := by
    rw [List.drop_take, List.take_take, min_eq_left (by omega)]
  rw [connPktHeadSize] at long
  have magic := front 0 4 (by omega)
  rw [List.drop_zero, List.drop_zero] at magic
  simp only [read, getWord, magic, front 4 4 (by omega), front 8 8 (by omega),
    front 16 4 (by omega), front 20 4 (by omega)]

end ConnPktHead

open ConnPktHead

structure Packet where
  module : BitVec 32
  seq : BitVec 64
  flag : BitVec 32
  payload : Bytes

namespace Packet

def head (packet : Packet) : ConnPktHead where
  magic := magicNumber
  module := packet.module
  seq := packet.seq
  flag := packet.flag
  len := BitVec.ofNat 32 packet.payload.length

def bytes (packet : Packet) : Bytes := packet.head.bytes ++ packet.payload

lemma length_bytes (packet : Packet) :
    packet.bytes.length = connPktHeadSize + packet.payload.length := by
  rw [bytes, List.length_append, ConnPktHead.length_bytes]

end Packet

lemma read_of_begins {packet : Packet} {stream : Bytes}
    (begins : stream.take connPktHeadSize = packet.bytes.take connPktHeadSize) :
    read stream = packet.head := by
  rw [← read_take le_rfl stream, begins,
    read_take le_rfl, Packet.bytes, read_bytes_append]

end DSoftBus.Conn
