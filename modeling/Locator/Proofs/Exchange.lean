import Locator.Backend
import Locator.Proofs.Wire.Reading
import Locator.Channel
import Locator.Proofs.Message.Lawful
import Locator.Proofs.Query

namespace Locator

open Wire

namespace Frame

theorem length32_eq (n : Nat) (h : n < 0x100000000) :
    ∃ a b c d, length32 n = [a, b, c, d] ∧
      0x1000000 * a.toNat + 0x10000 * b.toNat + 0x100 * c.toNat + d.toNat = n := by
  refine ⟨_, _, _, _, rfl, ?_⟩
  simp only [Nat.toUInt8_eq, UInt8.toNat_ofNat']
  omega

theorem take_encode {message : Bytes} (hl : message.length < 0x100000000) (more : Bytes) :
    ∃ a b c d,
      (Input.ofBytes (encode message ++ more)).take? 5 =
        some ([0, a, b, c, d], .ofBytes (message ++ more)) ∧
      0x1000000 * a.toNat + 0x10000 * b.toNat + 0x100 * c.toNat + d.toNat = message.length := by
  obtain ⟨a, b, c, d, he, hn⟩ := length32_eq _ hl
  refine ⟨a, b, c, d, Input.take_eq_some_iff.mpr ⟨rfl, ?_⟩, hn⟩
  rw [Input.bytes_ofBytes, Input.bytes_ofBytes, encode, he]
  simp

theorem size_encode_ne_zero (message more : Bytes) :
    (Input.ofBytes (encode message ++ more)).size ≠ 0 := by
  rw [Input.size_eq, Input.bytes_ofBytes, encode]
  simp

theorem next_encode {message : Bytes} (h : message.length ≤ receiveLimit) (more : Bytes) :
    next? (.ofBytes (encode message ++ more)) = .ok (some (message, .ofBytes more)) := by
  have hl : message.length < 0x100000000 := Nat.lt_of_le_of_lt h (by decide)
  obtain ⟨a, b, c, d, hhead, hn⟩ := take_encode hl more
  have htake : (Input.ofBytes (message ++ more)).take? message.length =
      some (message, .ofBytes more) :=
    Input.take_eq_some_iff.mpr ⟨rfl, rfl⟩
  have hrest : ¬(message.length ≠ 0 ∧ (Input.ofBytes (message ++ more)).size = 0) := by
    rw [Input.size_eq, Input.bytes_ofBytes, List.length_append]
    omega
  simp only [next?, if_neg (size_encode_ne_zero message more), hhead, hn, htake, if_neg hrest,
    if_neg (Nat.not_lt.mpr h)]
  rfl

theorem next_encode_of_tooLarge {message : Bytes} (h : receiveLimit < message.length)
    (hl : message.length < 0x100000000) (more : Bytes) :
    next? (.ofBytes (encode message ++ more)) = .error (.tooLarge message.length) := by
  obtain ⟨a, b, c, d, hhead, hn⟩ := take_encode hl more
  simp only [next?, if_neg (size_encode_ne_zero message more), hhead, hn, if_pos h]
  rfl

end Frame

theorem Mode.ofPath_path (mode : Mode) : Mode.ofPath? (Net.Uri.path mode.path) = some mode := by
  cases mode <;> decide +kernel

theorem Header.fault_ok : Header.fault? (Status.headers ⟨.ok, ""⟩) = none := by
  decide +kernel

theorem length_lt_bound {bytes : Bytes} (h : bytes.length ≤ receiveLimit) :
    bytes.length < Varint.bound :=
  Nat.lt_of_le_of_lt h (by decide)

theorem readMessage_encode {α : Type} [Message α] [LawfulMessage α] {m : α}
    (h : (encode m).length ≤ receiveLimit) : readMessage (encode m) = .ok m := by
  rw [readMessage, decode_encode (length_lt_bound h)]

namespace Server

theorem readRequest_encode {r : Request} (h : (encode r).length ≤ receiveLimit) :
    readRequest (Frame.encode (encode r)) = .ok r := by
  have hn := Frame.next_encode h []
  rw [List.append_nil] at hn
  simp only [readRequest, hn, readMessage_encode h]
  rfl

/-- A request that is within the limit is received as it was sent, whatever the answer to it. -/
theorem received_handle (stub : Stub) (mode : Mode) {r : Request}
    (h : (encode r).length ≤ receiveLimit) :
    (handle stub mode.path (Frame.encode (encode r))).received = [.request mode r] := by
  simp only [handle, Mode.ofPath_path, readRequest_encode h]
  cases stub.answer r <;> rfl

theorem received_handle_of_tooLarge (stub : Stub) (mode : Mode) {r : Request}
    (h : receiveLimit < (encode r).length) (hl : (encode r).length < 0x100000000) :
    (handle stub mode.path (Frame.encode (encode r))).received = [] := by
  have hn := Frame.next_encode_of_tooLarge h hl []
  rw [List.append_nil] at hn
  simp only [handle, Mode.ofPath_path, readRequest, hn]

end Server

namespace Channel

variable {channel : Channel} {stub : Stub} {mode : Mode} {r : Request}

theorem received_call (hl : channel.link = .live) (h : (encode r).length ≤ receiveLimit) :
    (channel.call (.stub stub) mode r).2 = [.request mode r] := by
  simp only [call, hl]
  exact Server.received_handle stub mode h

theorem received_call_of_tooLarge (hk : channel.link = .live)
    (h : receiveLimit < (encode r).length) (hl : (encode r).length < 0x100000000) :
    (channel.call (.stub stub) mode r).2 = [] := by
  simp only [call, hk]
  exact Server.received_handle_of_tooLarge stub mode h hl

/-- A status is read from the headers, if there is room for them. -/
theorem call_of_failure {status : Status} (hl : channel.link = .live)
    (h : (encode r).length ≤ receiveLimit) (hf : stub.failure = some status)
    (hc : status.code ≠ .ok) :
    (channel.call (.stub stub) mode r).1 =
      .error (match Header.fault? status.headers with
        | none => .answered status
        | some fault => .transport fault.code) := by
  have ha : stub.answer r = .error status := by
    rw [Stub.answer, hf]
  simp only [call, hl, Backend.handle, Server.handle, Mode.ofPath_path,
    Server.readRequest_encode h, ha, readReply]
  cases Header.fault? status.headers with
  | none => exact if_pos hc
  | some fault => rfl

theorem call_of_response {response : Response} (hl : channel.link = .live)
    (h : (encode r).length ≤ receiveLimit) (ha : stub.answer r = .ok response)
    (hr : (encode response).length ≤ receiveLimit) :
    (channel.call (.stub stub) mode r).1 = .ok response := by
  have hn := Frame.next_encode hr []
  rw [List.append_nil] at hn
  simp only [call, hl, Backend.handle, Server.handle, Mode.ofPath_path,
    Server.readRequest_encode h, ha, readReply, Header.fault_ok, readBody, hn,
    readMessage_encode hr]
  rfl

end Channel

/-- The entries that a backend has for a query: all of them, or no more than were asked for. -/
def Stub.offered (stub : Stub) (q : Query) : List Entry :=
  if stub.capped then stub.entries.take (min q.maxCount.toNat stub.entries.length)
  else stub.entries

theorem Stub.answer_request {stub : Stub} {q : Query} (hf : stub.failure = none) (hq : q.Valid) :
    stub.answer q.request = .ok ⟨stub.offered q⟩ := by
  have hm := hq.toInt_maxCount
  have hp : 0 < q.request.maxCount := by
    rw [Int32.lt_iff_toInt_lt, hm]
    exact Int.natCast_pos.mpr hq.maxCount_pos
  rw [answer, hf]
  simp only [hp, and_true, hm, Int.toNat_natCast, offered]
  cases stub.capped with
  | false => rfl
  | true => simp

end Locator
