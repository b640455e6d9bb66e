import FutuOpenD.NetCenter
import FutuOpenD.Reassembly
import FutuOpenD.Surroundings
import Mathlib.Data.List.Indexes

/-!
# What `Send` writes, `OnRecv` reads

A packet of `Send` is a `Frame` that carries its own digest, so `codeCut_toBytes` cuts it off again.
A conversation is a list of such packets with consecutive serial numbers, and the receive path hands
out their headers and bodies in order, however their bytes are cut into reads.
-/

namespace FutuOpenD
open Bytes Runs Framing TcpConnect
namespace NetCenter

section
variable {W : Outside} {m : PbMessage} {nProtoID nSerialNo : UInt32}

/-- A message whose packet fits the read store of the receiver. -/
structure Sendable (m : PbMessage) : Prop where
  exact : m.Exact
  size : m.bytes.length ≤ 10485716

theorem Sendable.toNat_nBodyLen (h : Sendable m) : m.byteSize.toUInt32.toNat = m.bytes.length := by
  have hx := toInt_toInt32 m.byteSize.toUInt32
  have := h.exact.2
  have := h.size
  have := m.byteSize.toUInt32.toNat_lt
  rw [Int32.toInt32_toUInt32] at hx
  split at hx <;> omega

theorem Sendable.not_sendThrows (h : Sendable m) : ¬ SendThrows m := by
  have hlen := h.size
  rintro (hneg | ⟨-, hneg⟩)
  · rw [Int32.lt_iff_toInt_lt, ← h.exact.2, Int32.toInt_zero] at hneg
    omega
  · rw [Int32.lt_iff_toInt_lt, Int32.toInt_ofNat_of_lt (by unfold sizeofHeader; omega), Int32.toInt_zero] at hneg
    omega

theorem Sendable.packetHeader_eq (h : Sendable m) :
    packetHeader W nProtoID m.byteSize m.bytes nSerialNo =
      ⟨headerFlag, nProtoID, 0, 0, nSerialNo, UInt32.ofNat m.bytes.length, W.sha1 m.bytes,
        zeros 8⟩ := by
  have hlen : m.byteSize.toUInt32 = UInt32.ofNat m.bytes.length := by
    rw [← h.toNat_nBodyLen, UInt32.ofNat_toNat]
  have htake : m.bytes.take m.byteSize.toInt.toNat = m.bytes := by
    rw [← h.exact.2, Int.toNat_natCast, List.take_length]
  rw [packetHeader, hlen, htake]
  rfl

def Sendable.frame (h : Sendable m) (W : Outside) (nProtoID nSerialNo : UInt32) : Frame where
  header := packetHeader W nProtoID m.byteSize m.bytes nSerialNo
  body := m.bytes
  len := h.toNat_nBodyLen.symm

end

def sendAll (W : Outside) : List (UInt32 × PbMessage) → NetCenter → NetCenter
  | [], n => n
  | m :: ms, n => sendAll W ms (n.send W m.1 m.2).2

/-- What the receiver has to hand out for the messages sent, the first with serial number
`nSerialNo`. -/
def expectedFrames (W : Outside) (nSerialNo : UInt32) (ms : List (UInt32 × PbMessage)) :
    List (APIProtoHeader × List UInt8) :=
  ms.mapIdx fun i m =>
    (⟨headerFlag, m.1, 0, 0, nSerialNo + UInt32.ofNat i, UInt32.ofNat m.2.bytes.length,
      W.sha1 m.2.bytes, zeros 8⟩, m.2.bytes)

section
variable {W : Outside} {m : UInt32 × PbMessage} {ms : List (UInt32 × PbMessage)} {nSerialNo : UInt32}

theorem expectedFrames_cons :
    expectedFrames W nSerialNo (m :: ms) =
      (⟨headerFlag, m.1, 0, 0, nSerialNo, UInt32.ofNat m.2.bytes.length, W.sha1 m.2.bytes,
        zeros 8⟩, m.2.bytes) :: expectedFrames W (nSerialNo + 1) ms := by
  have hserial : ∀ i, nSerialNo + UInt32.ofNat (i + 1) = nSerialNo + 1 + UInt32.ofNat i := fun i => by
    rw [UInt32.ofNat_add, UInt32.add_assoc, UInt32.add_comm (UInt32.ofNat i)]
    rfl
  have hzero : nSerialNo + UInt32.ofNat 0 = nSerialNo := UInt32.add_zero _
  unfold expectedFrames
  rw [List.mapIdx_cons, hzero]
  simp only [hserial]

theorem Sendable.packetOf_eq (h : Sendable m.2) :
    packetOf W m.1 m.2 nSerialNo = ((h.frame W m.1 nSerialNo).header, (h.frame W m.1 nSerialNo).toBytes) := by
  have hlen : ((h.frame W m.1 nSerialNo).toBytes).length < 2 ^ 31 := by
    have := h.size
    rw [Frame.toBytes, List.length_append, APIProtoHeader.length_toBytes]
    show 44 + m.2.bytes.length < 2 ^ 31
    omega
  rw [packetOf]
  exact congrArg _ (withIntSize_of_lt hlen)

theorem Sendable.frame_digest (h : Sendable m.2) :
    W.sha1 (h.frame W m.1 nSerialNo).body = (h.frame W m.1 nSerialNo).header.arrBodySHA1 := by
  show _ = (packetHeader W m.1 m.2.byteSize m.2.bytes nSerialNo).arrBodySHA1
  rw [h.packetHeader_eq]
  rfl

theorem Sendable.frame_fits (h : Sendable m.2) : (h.frame W m.1 nSerialNo).Fits := by
  show (packetHeader W m.1 m.2.byteSize m.2.bytes nSerialNo).nBodyLen.toNat ≤ 10485716
  exact h.toNat_nBodyLen.trans_le h.size

theorem packets_sendAll (hms : ∀ m ∈ ms, Sendable m.2) (n : NetCenter) :
    ∃ fs : List Frame, (sendAll W ms n).packets = n.packets ++ fs.map (fun f => (f.header, f.toBytes)) ∧
      (∀ f ∈ fs, f.Fits ∧ W.sha1 f.body = f.header.arrBodySHA1) ∧
      fs.map (fun f => (f.header, f.body)) = expectedFrames W n.nNextPacketNo ms := by
  induction ms generalizing n with
  | nil => exact ⟨[], (List.append_nil _).symm, by simp, rfl⟩
  | cons m ms ih =>
    have hm := hms m (by simp)
    have hser := hm.exact.1
    obtain ⟨fs, hpackets, hfs, hexp⟩ := ih (fun m' hm' => hms m' (by simp [hm'])) (n.send W m.1 m.2).2
    refine ⟨hm.frame W m.1 n.nNextPacketNo :: fs, ?_, ?_, ?_⟩
    · rw [sendAll, hpackets, packets_send hser, hm.packetOf_eq, List.append_assoc]
      rfl
    · intro f hf
      rcases List.mem_cons.1 hf with rfl | hf
      · exact ⟨hm.frame_fits, hm.frame_digest⟩
      · exact hfs f hf
    · rw [expectedFrames_cons, List.map_cons, hexp, send_nNextPacketNo hser, ← hm.packetHeader_eq (W := W)]
      rfl

/-- What the connection is given are the packets. -/
theorem sendAll_quoteConn (hms : ∀ m ∈ ms, Sendable m.2) (n : NetCenter) :
    ∃ sent es, (sendAll W ms n).packets = n.packets ++ sent ∧
      writeMachine.run n.quoteConn es = some (sendAll W ms n).quoteConn ∧ (∀ e ∈ es, IsSend W e) ∧
      sentPackets es = sent.map Prod.snd := by
  induction ms generalizing n with
  | nil => exact ⟨[], [], (List.append_nil _).symm, rfl, by simp, rfl⟩
  | cons m ms ih =>
    have hser := (hms m (by simp)).exact.1
    obtain ⟨sent, es, hpackets, hrun, hsend, hsent⟩ := ih (fun m' hm' => hms m' (by simp [hm'])) (n.send W m.1 m.2).2
    let p := packetOf W m.1 m.2 n.nNextPacketNo
    refine ⟨p :: sent, .send p.2 (W.uvWrite n.quoteConn.uv.calls.length) :: es, ?_, ?_, ?_, ?_⟩
    · rw [sendAll, hpackets, packets_send hser, List.append_assoc]
      rfl
    · exact Machine.run_cons.2 ⟨_, congrArg some (send_quoteConn hser).symm, hrun⟩
    · exact List.forall_mem_cons.2 ⟨⟨_, _, rfl⟩, hsend⟩
    · exact congrArg (p.2 :: ·) hsent

variable {n : NetCenter}

/-- Successive `Send`s do not throw, and they hand their packets to the connection. The bytes of the packets, read
back in any pieces, are the messages sent, in order and with consecutive serial numbers, and nothing is left
over. -/
theorem send_receive_round_trip (hms : ∀ m ∈ ms, m.2.Exact ∧ m.2.bytes.length ≤ 10485716) :
    ∃ sent, (sendAll W ms n).packets = n.packets ++ sent ∧
      (∀ m ∈ ms, ¬ SendThrows m.2) ∧
      (∃ es, writeMachine.run n.quoteConn es = some (sendAll W ms n).quoteConn ∧ (∀ e ∈ es, IsSend W e) ∧
        sentPackets es = sent.map Prod.snd) ∧
      sent.map Prod.fst = (expectedFrames W n.nNextPacketNo ms).map Prod.fst ∧
      ∀ (mem : Field readStoreLen) (chunks : List (List UInt8)),
        chunks.flatten = (sent.map Prod.snd).flatten →
        Fits (recorder W.sha1) chunks (Buffer.new mem) [] →
        ∃ b, receiveAll (recorder W.sha1) chunks (Buffer.new mem) [] =
          some (b, expectedFrames W n.nNextPacketNo ms) ∧ b.data = [] := by
  have hsend : ∀ m ∈ ms, Sendable m.2 := fun m hm => ⟨(hms m hm).1, (hms m hm).2⟩
  obtain ⟨fs, hpackets, hfs, hexp⟩ := packets_sendAll (W := W) hsend n
  obtain ⟨sent, es, hpackets', hconn⟩ := sendAll_quoteConn (W := W) hsend n
  obtain rfl := List.append_cancel_left (hpackets'.symm.trans hpackets)
  refine ⟨_, hpackets, fun m hm => (hsend m hm).not_sendThrows, ⟨es, hconn⟩, ?_, fun mem chunks hchunks hfits => ?_⟩
  · rw [← hexp, List.map_map, List.map_map]
    rfl
  have hstream : (Buffer.new mem).data ++ chunks.flatten = fs.flatMap Frame.toBytes ++ [] := by
    rw [Buffer.new_data, List.nil_append, hchunks, List.map_map, List.append_nil]
    rfl
  have hd : codeCutter.Drains (fs.flatMap Frame.toBytes ++ []) (fs.map fun f => (f.header, f.body)) [] :=
    Cutter.Drains.flatMap (fun f hf m => codeCut_toBytes (hfs f hf).1 m) rfl
  obtain ⟨b, hr, -, hdata⟩ := receiveAll_of_drains (s := []) (IsReadStore.new mem) rfl hfits (hstream ▸ hd)
  refine ⟨b, ?_, hdata⟩
  rw [hr, recorder_foldl, hexp, List.nil_append, List.filter_eq_self.2]
  intro p hp
  rw [← hexp] at hp
  obtain ⟨f, hf, rfl⟩ := List.mem_map.1 hp
  exact decide_eq_true (hfs f hf).2

def twoKeepAlives : List (UInt32 × PbMessage) :=
  [(apiProtoIDKeepAlive, Request.pbMessage (.keepAlive ⟨1600000000⟩)),
    (apiProtoIDKeepAlive, Request.pbMessage (.keepAlive ⟨1600000008⟩))]

def lastSerialNo : NetCenter := { new with nNextPacketNo := 4294967295 }

/-- The second packet waits for the first to be written, and has the serial number 0. -/
theorem send_receive_round_trip_wrap :
    ∃ sent es b, (sendAll .program twoKeepAlives lastSerialNo).packets = lastSerialNo.packets ++ sent ∧
      writeMachine.run TcpConnect.new es = some (sendAll .program twoKeepAlives lastSerialNo).quoteConn ∧
      sentPackets es = sent.map Prod.snd ∧
      receiveAll (recorder Outside.program.sha1) [(sent.map Prod.snd).flatten] (Buffer.new (zeros readStoreLen)) [] =
        some (b, expectedFrames .program 4294967295 twoKeepAlives) ∧ b.data = [] ∧
      (expectedFrames .program 4294967295 twoKeepAlives).map (fun p => p.1.nSerialNo) = [4294967295, 0] := by
  have hms : ∀ m ∈ twoKeepAlives, m.2.Exact ∧ m.2.bytes.length ≤ 10485716 := by decide +kernel
  obtain ⟨sent, hpackets, -, ⟨es, hrun, -, hsent⟩, -, h⟩ :=
    send_receive_round_trip (W := .program) (n := lastSerialNo) hms
  have hlen : (sent.map Prod.snd).flatten.length ≤ readStoreLen := by
    have hall : (sendAll .program twoKeepAlives lastSerialNo).packets = sent := hpackets
    rw [← hall]
    decide +kernel
  obtain ⟨b, hr, hdata⟩ := h (zeros readStoreLen) [(sent.map Prod.snd).flatten] (List.append_nil _)
    (fits_of_length_le (IsReadStore.new _) (by simpa using hlen))
  exact ⟨sent, es, b, hpackets, hrun, hsent, hr, hdata, by decide +kernel⟩

end
end NetCenter
end FutuOpenD
