import Mathlib.Data.List.TakeDrop
import Mathlib.Algebra.Group.Nat.Defs
import Mathlib.Data.List.Basic
import VelvetRuntime.Error

namespace python.socket

open velvet

/-- What a connection hands over next: some bytes, where none mean that the peer has closed it, or a fault. -/
inductive Arrival where
  | bytes (chunk : List UInt8)
  | fault (message : String)

def os_error (message : String) : Error := ⟨.OSError, message⟩

/-- The bytes that arrive before the connection ends. -/
def delivered : List Arrival → List UInt8
  | [] | .fault _ :: _ | .bytes [] :: _ => []
  | .bytes (byte :: chunk) :: rest => byte :: (chunk ++ delivered rest)

/-- Read `size` bytes in a loop over `recv(remaining)`, which hands over no more than it is asked for. A connection
with nothing left to hand over times out. -/
def receive_exact (ended : Error) : Nat → List Arrival → Except Error (List UInt8 × List Arrival)
  | 0, arrivals => .ok ([], arrivals)
  | _ + 1, [] => .error (os_error "timed out")
  | _ + 1, .fault message :: _ => .error (os_error message)
  | size + 1, .bytes chunk :: rest =>
    if chunk = [] then .error ended
    else if size + 1 < chunk.length then .ok (chunk.take (size + 1), .bytes (chunk.drop (size + 1)) :: rest)
    else do
      let (later, left) ← receive_exact ended (size + 1 - chunk.length) rest
      .ok (chunk ++ later, left)

/-- `struct.Struct("!I").unpack(header)[0]`. -/
def unpack (header : List UInt8) : Nat := header.foldl (fun size byte => 256 * size + byte.toNat) 0

/-- `struct.Struct("!I").pack(size)`. -/
def pack (size : Nat) : Except Error (List UInt8) :=
  if 2 ^ 32 ≤ size then .error ⟨.StructError, "'I' format requires 0 <= number <= 4294967295"⟩
  else .ok [UInt8.ofNat (size / 2 ^ 24), UInt8.ofNat (size / 2 ^ 16), UInt8.ofNat (size / 2 ^ 8), UInt8.ofNat size]

theorem unpack_pack {size : Nat} {packed : List UInt8} (hpack : pack size = .ok packed) :
    packed.length = 4 ∧ unpack packed = size := by
  unfold pack at hpack
  split at hpack
  · cases hpack
  · rename_i hsmall
    cases hpack
    refine ⟨rfl, ?_⟩
    simp only [unpack, List.foldl_cons, List.foldl_nil, UInt8.toNat_ofNat']
    omega

theorem delivered_bytes {chunk : List UInt8} (hchunk : chunk ≠ []) (rest : List Arrival) :
    delivered (.bytes chunk :: rest) = chunk ++ delivered rest := by
  cases chunk with
  | nil => exact absurd rfl hchunk
  | cons byte chunk => rfl

/-- However the bytes arrive, reading takes as many as are asked for, and fails where they do not arrive. -/
theorem receive_exact_spec (ended : Error) (size : Nat) (arrivals : List Arrival) :
    (size ≤ (delivered arrivals).length → ∃ left, receive_exact ended size arrivals = .ok ((delivered arrivals).take size, left) ∧
      delivered left = (delivered arrivals).drop size) ∧
    ((delivered arrivals).length < size → ∃ error, receive_exact ended size arrivals = .error error ∧
      (error = ended ∨ error.kind = .OSError)) := by
  induction arrivals generalizing size with
  | nil =>
    cases size with
    | zero => exact ⟨fun _ => ⟨[], rfl, rfl⟩, fun hnone => absurd hnone (Nat.not_lt_zero _)⟩
    | succ size => exact ⟨fun hsize => absurd hsize (Nat.not_succ_le_zero size), fun _ => ⟨_, rfl, .inr rfl⟩⟩
  | cons arrival rest ih =>
    cases size with
    | zero => exact ⟨fun _ => ⟨_, rfl, rfl⟩, fun hnone => absurd hnone (Nat.not_lt_zero _)⟩
    | succ size =>
      cases arrival with
      | fault message => exact ⟨fun hsize => absurd hsize (Nat.not_succ_le_zero size), fun _ => ⟨_, rfl, .inr rfl⟩⟩
      | bytes chunk =>
        by_cases hchunk : chunk = []
        · subst hchunk
          exact ⟨fun hsize => absurd hsize (Nat.not_succ_le_zero size), fun _ => ⟨_, rfl, .inl rfl⟩⟩
        rw [delivered_bytes hchunk, List.length_append, receive_exact, if_neg hchunk]
        by_cases hlong : size + 1 < chunk.length
        · rw [if_pos hlong]
          refine ⟨fun _ => ⟨.bytes (chunk.drop (size + 1)) :: rest, ?_, ?_⟩, fun hshort => absurd hshort (by omega)⟩
          · rw [List.take_append_of_le_length (Nat.le_of_lt hlong)]
          · rw [delivered_bytes (by simpa using hlong), List.drop_append_of_le_length (Nat.le_of_lt hlong)]
        rw [if_neg hlong]
        obtain ⟨henough, hfails⟩ := ih (size + 1 - chunk.length)
        constructor
        · intro hsize
          obtain ⟨left, hreceived, hleft⟩ := henough (by omega)
          refine ⟨left, ?_, ?_⟩
          · rw [hreceived, List.take_append, List.take_of_length_le (Nat.not_lt.mp hlong)]
            rfl
          · rw [hleft, List.drop_append, List.drop_of_length_le (Nat.not_lt.mp hlong), List.nil_append]
        · intro hshort
          obtain ⟨error, herror, hkind⟩ := hfails (by omega)
          exact ⟨error, by rw [herror]; rfl, hkind⟩

end python.socket
