/-
# All or nothing

An encoder is handed a buffer that may hold something, and its contract is that
it appends: on success and on failure alike the buffer still starts with what it
held.  It may write any number of octets before it fails, and it may succeed
without writing any.  A transcoder turns this into all or nothing:

| decoder | encoder | buffer afterwards | flag |
| --- | --- | --- | --- |
| refuses | | as it was | as it was |
| accepts | fails, or adds nothing | as it was | down |
| accepts | succeeds and adds octets | longer by these octets | down |

One call is told by `settles`, for every length that the buffer can have; a row
of calls into one growing buffer follows from it by induction
(`transcodeAll_eq_append`).

Source: `transcode`; `SPEC_FULL.md` 4.3, no partial output survives.
-/

import Mathlib.Algebra.GroupWithZero.Nat
import OctetRelay.Proofs.Elements

namespace OctetRelay

namespace Codec

/-- The encoder only appends, whether or not it fails. -/
def Appends (codec : Codec) : Prop :=
  ∀ value buffer, buffer <+: (codec.encode value buffer).buffer

/-- What the encoder adds to a buffer. -/
def added (codec : Codec) (value : codec.Decoded) (buffer : Octets) : Octets :=
  (codec.encode value buffer).buffer.drop buffer.length

variable {codec : Codec} (h : codec.Appends)

include h

/-- The buffer holds what it held before, and then what was added. -/
theorem Appends.buffer_encode (value : codec.Decoded) (buffer : Octets) :
    (codec.encode value buffer).buffer = buffer ++ codec.added value buffer := by
  have hprefix : buffer <+: (codec.encode value buffer).buffer := h value buffer
  exact (List.prefix_iff_eq_append.1 hprefix).symm

/-- Cutting the buffer back to its old length undoes whatever the encoder did. -/
theorem Appends.take_encode (value : codec.Decoded) (buffer : Octets) :
    (codec.encode value buffer).buffer.take buffer.length = buffer := by
  rw [h.buffer_encode]
  exact List.take_left

/-- The buffer grows by what was added. -/
theorem Appends.length_encode (value : codec.Decoded) (buffer : Octets) :
    (codec.encode value buffer).buffer.length =
      buffer.length + (codec.added value buffer).length := by
  rw [h.buffer_encode]
  exact List.length_append

end Codec

namespace Call

/-- Why nothing is kept of what an encoder did, if it did not succeed with something added. -/
def refusal (codec : Codec) (value : codec.Decoded) (buffer : Octets) : String :=
  match (codec.encode value buffer).failure with
  | some error => error.message
  | none => "encoder produced no output"

/-- The encoding that a call adds to the buffer: its payload decodes, and the encoder succeeds and
adds something. -/
def encoded? (codec : Codec) (call : Call) : Option Octets :=
  (call.decoded? codec).bind fun value =>
    if (codec.encode value call.buffer).failure = none ∧ codec.added value call.buffer ≠ [] then
      some (codec.added value call.buffer)
    else none

/-- The ways in which a call settles, with the encoding that it adds to the buffer. -/
inductive Settles (codec : Codec) (call : Call) : Option Octets → Prop where
  /-- The payload does not decode: nothing has changed. -/
  | undecoded (hdecoded : call.decoded? codec = none)
    (hdone : call.done codec =
      { result := .error (.decodeFailed call.payload.length)
        isFirst := call.isFirst
        buffer := call.buffer }) : Settles codec call none
  /-- The value cannot be written: nothing is left of what the encoder wrote. -/
  | unencoded {value : codec.Decoded} (hdecoded : call.decoded? codec = some value)
    (hdone : call.done codec =
      { result := .error (.encodeFailed call.payload.length (refusal codec value call.buffer))
        isFirst := false
        buffer := call.buffer }) : Settles codec call none
  /-- The encoding of the value is added, and its octets are counted. -/
  | encoded {value : codec.Decoded} {added : Octets} (hdecoded : call.decoded? codec = some value)
    (hencode : codec.encode value call.buffer = { buffer := call.buffer ++ added })
    (hadded : added ≠ [])
    (hdone : call.done codec =
      { result := .ok added.length
        isFirst := false
        buffer := call.buffer ++ added }) : Settles codec call (some added)

variable {codec : Codec} {call : Call}

/-- A payload that does not decode leaves the buffer and the flag as they were. -/
theorem done_of_decoded?_eq_none (h : call.decoded? codec = none) :
    call.done codec =
      { result := .error (.decodeFailed call.payload.length)
        isFirst := call.isFirst
        buffer := call.buffer } := by
  unfold Block.decoded? at h
  unfold done transcode
  rw [h]

/-- What a call does once its payload has decoded, with an encoder that appends. -/
theorem done_of_decoded? (happends : codec.Appends) {value : codec.Decoded}
    (h : call.decoded? codec = some value) :
    call.done codec =
      if (codec.encode value call.buffer).failure = none ∧ codec.added value call.buffer ≠ [] then
        { result := .ok (codec.added value call.buffer).length
          isFirst := false
          buffer := call.buffer ++ codec.added value call.buffer }
      else
        { result := .error (.encodeFailed call.payload.length (refusal codec value call.buffer))
          isFirst := false
          buffer := call.buffer } := by
  have hlength := happends.length_encode value call.buffer
  have htake := happends.take_encode value call.buffer
  unfold Block.decoded? at h
  unfold done transcode refusal
  rw [h]
  simp only [htake, hlength]
  cases hfailure : (codec.encode value call.buffer).failure with
  | some error => simp
  | none =>
    -- The buffer has grown just when something was added to it.
    have hlonger : call.buffer.length <
        call.buffer.length + (codec.added value call.buffer).length ↔
          codec.added value call.buffer ≠ [] := by
      rw [Nat.lt_add_right_iff_pos, List.length_pos_iff]
    simp only [hlonger, true_and, Nat.add_sub_cancel_left, happends.buffer_encode]

/-- **A call keeps all that the encoder wrote, or nothing.** -/
theorem settles (happends : codec.Appends) (call : Call) :
    call.Settles codec (call.encoded? codec) := by
  unfold encoded?
  cases hdecoded : call.decoded? codec with
  | none => exact .undecoded hdecoded (done_of_decoded?_eq_none hdecoded)
  | some value =>
    have hdone := done_of_decoded? happends hdecoded
    rw [Option.bind_some]
    split
    · rename_i hkept
      rw [if_pos hkept] at hdone
      have hencode : codec.encode value call.buffer =
          { buffer := call.buffer ++ codec.added value call.buffer } := by
        rw [← happends.buffer_encode, ← hkept.1]
      exact .encoded hdecoded hencode hkept.2 hdone
    · rename_i hcut
      rw [if_neg hcut] at hdone
      exact .unencoded hdecoded hdone

/-- The buffer after a call. -/
theorem Settles.buffer_done {added? : Option Octets} (h : call.Settles codec added?) :
    (call.done codec).buffer = call.buffer ++ added?.getD [] := by
  cases h with
  | undecoded _ hdone => rw [hdone]; exact (List.append_nil _).symm
  | unencoded _ hdone => rw [hdone]; exact (List.append_nil _).symm
  | encoded _ _ _ hdone => rw [hdone]; rfl

/-- A call succeeds just when it adds an encoding, and returns the number of its octets. -/
theorem Settles.toOption_result_done {added? : Option Octets} (h : call.Settles codec added?) :
    (call.done codec).result.toOption = added?.map List.length := by
  cases h with
  | undecoded _ hdone => rw [hdone]; rfl
  | unencoded _ hdone => rw [hdone]; rfl
  | encoded _ _ _ hdone => rw [hdone]; rfl

/-- A call tells that decoding failed just when the decoder refused the payload. -/
theorem Settles.decodeFailed_iff {added? : Option Octets} (h : call.Settles codec added?) :
    (∃ length, (call.done codec).result = .error (.decodeFailed length)) ↔
      call.decoded? codec = none := by
  cases h with
  | undecoded hdecoded hdone => simp [hdone, hdecoded]
  | unencoded hdecoded hdone => simp [hdone, hdecoded]
  | encoded hdecoded _ _ hdone => simp [hdone, hdecoded]

end Call

/-- The calls that transcode blocks into one growing buffer, one after the other. -/
def blockCalls (codec : Codec) (buffer : Octets) : List Block → List Call
  | [] => []
  | block :: rest =>
    let call : Call := { block with buffer }
    call :: blockCalls codec (call.done codec).buffer rest

/-- A transcoder that is handed one payload after the other makes such calls, with the flag as it
stands before each. -/
theorem calls_eq_blockCalls (codec : Codec) (isFirst : Bool) (buffer : Octets)
    (payloads : List Octets) :
    let history := calls codec isFirst buffer (payloads.map ({ payload := · }))
    history = blockCalls codec buffer (history.map (·.toBlock)) := by
  induction payloads generalizing isFirst buffer with
  | nil => rfl
  | cons payload rest ih =>
    simp only [List.map_cons, calls, blockCalls, id_eq]
    exact congrArg _ (ih _ _)

variable {codec : Codec}

/-- **A growing buffer holds what it held at first, and the encodings that were added**, in order. -/
theorem transcodeAll_eq_append (happends : codec.Appends) (buffer : Octets) (blocks : List Block) :
    transcodeAll codec buffer blocks =
      buffer ++ ((blockCalls codec buffer blocks).filterMap (Call.encoded? codec)).flatten := by
  induction blocks generalizing buffer with
  | nil => exact (List.append_nil buffer).symm
  | cons block rest ih =>
    rw [transcodeAll, ih, blockCalls, List.filterMap_cons, (Call.settles happends _).buffer_done]
    cases hencoded : Call.encoded? codec { block with buffer } with
    | none => rw [Option.getD_none, List.append_nil]
    | some added => rw [Option.getD_some, List.flatten_cons, List.append_assoc]

/-- The numbers that the calls return add up to the growth of the buffer. -/
theorem length_transcodeAll (happends : codec.Appends) (buffer : Octets) (blocks : List Block) :
    (transcodeAll codec buffer blocks).length =
      buffer.length +
        ((blockCalls codec buffer blocks).filterMap fun call =>
          (call.done codec).result.toOption).sum := by
  have hresults : (fun call : Call => (call.done codec).result.toOption) =
      fun call => (call.encoded? codec).map List.length :=
    funext fun call => (Call.settles happends call).toOption_result_done
  rw [transcodeAll_eq_append happends, List.length_append, List.length_flatten, hresults,
    ← List.map_filterMap]

/-- **A transcoder appends all or nothing.**  Take any codec whose encoder only appends.  A call
either adds the encoding of the decoded value, which is not empty, and returns the number of its
octets, or it fails and leaves the buffer as it was; it says that decoding failed just when the
decoder refused, and then it leaves the flag as it was too.  So after any row of calls into one
buffer, under whatever flags, the buffer is what it was at first with the encodings of the calls
that succeeded behind it, in order, and has grown by the sum of the numbers that they returned.  The
calls that share one flag make such a row. -/
theorem transcode_allOrNothing (happends : codec.Appends) :
    (∀ call : Call,
      call.Settles codec (call.encoded? codec) ∧
        (call.done codec).result.toOption = (call.encoded? codec).map List.length ∧
        ((∃ length, (call.done codec).result = .error (.decodeFailed length)) ↔
          call.decoded? codec = none)) ∧
      (∀ buffer blocks,
        let history := blockCalls codec buffer blocks
        let filled := transcodeAll codec buffer blocks
        filled = buffer ++ (history.filterMap (Call.encoded? codec)).flatten ∧
          filled.length = buffer.length +
            (history.filterMap fun call => (call.done codec).result.toOption).sum) ∧
      ∀ isFirst buffer (payloads : List Octets),
        let history := calls codec isFirst buffer (payloads.map ({ payload := · }))
        history = blockCalls codec buffer (history.map (·.toBlock)) := by
  refine ⟨?_, ?_, calls_eq_blockCalls codec⟩
  · intro call
    have hsettles := Call.settles happends call
    exact ⟨hsettles, hsettles.toOption_result_done, hsettles.decodeFailed_iff⟩
  · intro buffer blocks history filled
    have hfilled := transcodeAll_eq_append happends buffer blocks
    have hlength := length_transcodeAll happends buffer blocks
    exact ⟨hfilled, hlength⟩

/-- An encoder that writes a mark before it fails, and one that adds nothing, between two that add
their payloads: the buffer holds those two payloads behind what it held. -/
theorem transcode_allOrNothing_mixed :
    let codec : Codec :=
      { Decoded := Octets
        decode := fun payload _ => if payload = [] then none else some payload
        encode := fun value buffer =>
          if value = [0] then { buffer := buffer ++ [0x3C], failure := some ⟨"refused"⟩ }
          else if value = [1] then { buffer }
          else { buffer := buffer ++ value } }
    let blocks : List Block := [⟨[], true⟩, ⟨[7, 8], true⟩, ⟨[0], false⟩, ⟨[1], false⟩, ⟨[9], true⟩]
    codec.Appends ∧ transcodeAll codec [0x20] blocks = [0x20, 7, 8, 9] ∧
      (transcodeAll codec [0x20] blocks).length = 1 + [2, 1].sum := by
  intro codec blocks
  have happends : codec.Appends := by
    intro value buffer
    show buffer <+: (if value = [0] then _ else if value = [1] then _ else _ : Encoding).buffer
    split
    · exact List.prefix_append ..
    · split
      · exact List.prefix_refl _
      · exact List.prefix_append ..
  obtain ⟨-, hrow, -⟩ := transcode_allOrNothing happends
  obtain ⟨hfilled, hlength⟩ := hrow [0x20] blocks
  have hencodings :
      (blockCalls codec [0x20] blocks).filterMap (Call.encoded? codec) = [[7, 8], [9]] := by
    subst blocks codec
    decide +kernel
  have hnumbers : ((blockCalls codec [0x20] blocks).filterMap fun call =>
      (call.done codec).result.toOption) = [2, 1] := by
    subst blocks codec
    decide +kernel
  rw [hencodings] at hfilled
  rw [hnumbers] at hlength
  exact ⟨happends, hfilled, hlength⟩

end OctetRelay
