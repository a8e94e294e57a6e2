import Slither.Packet.Encoding
import Slither.Server.StreambufArray

/-!
# Sending

`WSPPServer::send` writes a packet into a buffer of its announced size, which is on the stack if it
is small, and hands the bytes in the buffer to the connection.
-/

set_option linter.unusedSectionVars false

namespace Slither

variable {F : Type} [Field F] [LinearOrder F] [FloorRing F]

namespace StreambufArray

variable {N : ℕ}

/-- What an output stream does with its characters: the first one the buffer refuses, it stops. -/
def putAll (s : StreambufArray N) : List UInt8 → Option (StreambufArray N)
  | [] => some s
  | c :: bytes =>
      match s.sputc c with
      | some (s, .done) => putAll s bytes
      | some (s, _) => some s
      | none => none

theorem putAll_data (bytes : List UInt8) (s : StreambufArray N) (hg : s.gptr = 0)
    (h : s.size + bytes.length ≤ N) :
    ∃ t, s.putAll bytes = some t ∧ t.data = s.data ++ bytes := by
  induction bytes generalizing s with
  | nil => exact ⟨s, rfl, (List.append_nil _).symm⟩
  | cons c bytes ih =>
      have hsize := s.size_add_gptr
      rw [List.length_cons] at h
      obtain ⟨t, ht, htg, hdata⟩ := s.sputc_done c (by omega)
      have hlen : t.size = s.size + 1 := by
        rw [← length_data, hdata, List.length_append, length_data, List.length_singleton]
      obtain ⟨u, hu, hall⟩ := ih t (htg.trans hg) (by omega)
      refine ⟨u, ?_, ?_⟩
      · rw [putAll, ht]
        exact hu
      · rw [hall, hdata, List.append_assoc, List.singleton_append]

end StreambufArray

namespace WSPPServer

/-- The bytes `send` hands to the connection.  `buffer` is the memory of the fixed buffer, and
`dynamic max bytes` is what a `boost::asio::streambuf(max)` holds after `bytes` were written. -/
def send (buffer : Vector UInt8 128) (dynamic : ℕ → List UInt8 → List UInt8) (m : Libm F)
    (clientTime : ℕ) (p : OutPacket F) : Option (List UInt8) :=
  if p.getSize ≤ 128 then
    ((StreambufArray.init buffer).putAll (p.encode m clientTime)).map StreambufArray.data
  else some (dynamic p.getSize (p.encode m clientTime))

/-- Every packet fits the size it announces, and what the connection is handed is the packet. -/
theorem send_complete (buffer : Vector UInt8 128) (dynamic : ℕ → List UInt8 → List UInt8)
    (hdynamic : ∀ max bytes, bytes.length ≤ max → dynamic max bytes = bytes) (m : Libm F)
    (clientTime : ℕ) (p : OutPacket F) (hbody : p.HasBody) :
    (p.encode m clientTime).length ≤ p.getSize ∧
      send buffer dynamic m clientTime p = some (p.encode m clientTime) := by
  have hlen := p.length_encode m clientTime hbody
  refine ⟨hlen, ?_⟩
  unfold send
  split
  · rename_i hsmall
    obtain ⟨t, ht, hdata⟩ := StreambufArray.putAll_data (p.encode m clientTime)
      (StreambufArray.init buffer) rfl (by
        rw [show (StreambufArray.init buffer).size = 0 from rfl]
        omega)
    rw [ht, Option.map_some, hdata]
    rfl
  · rw [hdynamic _ _ hlen]

/-- A snake of two parts. -/
def shortSnake : PacketAddSnake ℚ where
  id := 1
  angle := 0
  speed := 185
  fullness := 0
  skin := 9
  name := [65]
  parts := [⟨21600, 21600⟩, ⟨21558, 21600⟩]

theorem send_complete_short :
    ((OutPacket.addSnake shortSnake).encode Libm.axis 0).length ≤
        (OutPacket.addSnake shortSnake).getSize ∧
      send (Vector.replicate 128 0) (fun max bytes => bytes.take max) Libm.axis 0
        (.addSnake shortSnake) = some ((OutPacket.addSnake shortSnake).encode Libm.axis 0) :=
  send_complete _ _ (fun _ _ h => List.take_of_length_le h) Libm.axis 0 _ (by decide : 2 ≤ 2)

end WSPPServer

end Slither
