import DSoftBus.Lib.ByteString

/-!
The frames of DFile (nstackx_dfile_frame.h): a header of eight bytes in network byte
order and a payload whose length the header tells.
-/
namespace DSoftBus.DFile
open ByteString

structure DFileFrameHeader where
  type : UInt8
  flag : UInt8
  sessionId : BitVec 16
  transId : BitVec 16
  length : BitVec 16

open DFileFrameHeader

def dFileFrameHeaderLen : Nat := 8

def dFileTypeMax : Nat := 13

def DFileFrameHeader.bytes (header : DFileFrameHeader) : Bytes :=
  [header.type, header.flag] ++ (putWordBE 2 header.sessionId ++ (putWordBE 2 header.transId ++
    putWordBE 2 header.length))

def DFileFrameHeader.ofBytes (data : Bytes) : DFileFrameHeader :=
  ⟨data.getD 0 0, data.getD 1 0, getWordBE 16 2 (data.drop 2), getWordBE 16 2 (data.drop 4),
    getWordBE 16 2 (data.drop 6)⟩

lemma DFileFrameHeader.length_bytes (header : DFileFrameHeader) :
    header.bytes.length = dFileFrameHeaderLen := by
  simp [bytes, dFileFrameHeaderLen]

lemma DFileFrameHeader.ofBytes_append (header rest) :
    ofBytes (header.bytes ++ rest) = header := by
  simp [ofBytes, bytes, getWordBE_putWordBE_append]

lemma DFileFrameHeader.ofBytes_take (data : Bytes) :
    ofBytes (data.take dFileFrameHeaderLen) = ofBytes data := by
  simp [ofBytes, getWordBE, List.drop_take, List.take_take, dFileFrameHeaderLen]

structure DFileFrame where
  type : UInt8
  flag : UInt8
  sessionId : BitVec 16
  transId : BitVec 16
  payload : Bytes
  fits : payload.length < 2 ^ 16

namespace DFileFrame
variable (frame : DFileFrame)

def header : DFileFrameHeader :=
  ⟨frame.type, frame.flag, frame.sessionId, frame.transId, BitVec.ofNat 16 frame.payload.length⟩

def bytes : Bytes := frame.header.bytes ++ frame.payload

lemma toNat_length : frame.header.length.toNat = frame.payload.length := by
  rw [header, BitVec.toNat_ofNat, Nat.mod_eq_of_lt frame.fits]

lemma length_bytes : frame.bytes.length = dFileFrameHeaderLen + frame.payload.length := by
  rw [bytes, List.length_append, DFileFrameHeader.length_bytes]

end DFileFrame

end DSoftBus.DFile
