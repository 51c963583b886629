/-
# The first block of a stream

The calls of a transcoder share one flag, which tells the decoder whether its
payload may be the first block of the stream.  It is up at first, and the first
payload that decodes takes it down for good:

| calls | flag | decoder |
| --- | --- | --- |
| before the first block | up | refuses |
| the first block | up | accepts |
| after it | down | either |

Nothing else has a say in it: not the encoder, whether or not it fails, and not
the buffer that a call writes to (`isFirst_done`).  What one call does to the
flag is a step; `calls_firstBlock` follows the flag through a whole history of
calls, and reads off it which payload loses the octets that are to be skipped.

Source: `DecodeState` and `decode` of `OctetStringCodec`; `SPEC_FULL.md` 3,
Decode State, and 8.
-/

import OctetRelay.Proofs.RoundTrip

namespace OctetRelay

/-- A payload, and whether it is taken for the first block of a stream. -/
structure Block where
  payload : Octets
  isFirst : Bool

/-- What the payload of a block decodes to. -/
def Block.decoded? (codec : Codec) (block : Block) : Option codec.Decoded :=
  codec.decode block.payload block.isFirst

/-- What a transcoder is handed in one call. -/
structure Call extends Block where
  /-- What the output buffer holds. -/
  buffer : Octets

namespace Call

variable (codec : Codec) (call : Call)

/-- What the call does. -/
def done : Transcoded := transcode codec call.payload call.isFirst call.buffer

/-- **Only a payload that decodes takes the flag down**, whatever becomes of its encoding. -/
theorem isFirst_done :
    (call.done codec).isFirst = (call.isFirst && (call.decoded? codec).isNone) := by
  unfold done Block.decoded? transcode
  cases codec.decode call.payload call.isFirst with
  | none => simp
  | some value =>
    simp only [Option.isNone_some, Bool.and_false]
    split
    · rfl
    · split <;> rfl

/-- A call asks the decoder about its payload under its flag, and about nothing else. -/
theorem done_congr {decode : Octets → Bool → Option codec.Decoded}
    (h : decode call.payload call.isFirst = call.decoded? codec) :
    call.done { codec with decode } = call.done codec := by
  unfold Block.decoded? at h
  simp only [done, transcode, h]
  cases codec.decode call.payload call.isFirst <;> rfl

end Call

/-- A payload that comes to a transcoder, and what becomes of the output buffer before it does: the
buffer may grow on, be emptied or be replaced. -/
structure Turn where
  payload : Octets
  prepare : Octets → Octets := id

/-- The calls that transcode one payload after the other. -/
def calls (codec : Codec) (isFirst : Bool) (buffer : Octets) : List Turn → List Call
  | [] => []
  | turn :: rest =>
    let call : Call := { payload := turn.payload, isFirst, buffer := turn.prepare buffer }
    let done := call.done codec
    call :: calls codec done.isFirst done.buffer rest

variable {codec : Codec}

/-- Each payload is transcoded by a call of its own, in order. -/
theorem payload_calls (isFirst : Bool) (buffer : Octets) (turns : List Turn) :
    (calls codec isFirst buffer turns).map (·.payload) = turns.map (·.payload) := by
  induction turns generalizing isFirst buffer with
  | nil => rfl
  | cons turn rest ih =>
    rw [calls, List.map_cons, List.map_cons, ih]

/-- A flag that is down stays down. -/
theorem isFirst_of_mem_calls {buffer : Octets} {turns : List Turn} {call : Call}
    (h : call ∈ calls codec false buffer turns) : call.isFirst = false := by
  induction turns generalizing buffer with
  | nil => cases h
  | cons turn rest ih =>
    rw [calls, Call.isFirst_done, Bool.false_and] at h
    rcases List.mem_cons.1 h with rfl | hrest
    · rfl
    · exact ih hrest

/-- **The flag of a call is up just when no call before it has decoded its payload.** -/
theorem isFirst_iff_of_calls {buffer : Octets} {turns : List Turn} {front back : List Call}
    {call : Call} (h : calls codec true buffer turns = front ++ call :: back) :
    call.isFirst = true ↔ ∀ earlier ∈ front, earlier.decoded? codec = none := by
  induction front generalizing buffer turns with
  | nil =>
    cases turns with
    | nil => cases h
    | cons turn rest =>
      rw [calls, List.nil_append] at h
      obtain ⟨rfl, -⟩ := List.cons.inj h
      simp
  | cons first front ih =>
    cases turns with
    | nil => cases h
    | cons turn rest =>
      rw [calls, List.cons_append] at h
      obtain ⟨rfl, hrest⟩ := List.cons.inj h
      rw [Call.isFirst_done, Bool.true_and] at hrest
      rw [List.forall_mem_cons]
      -- The first call hands the flag on as it is, or takes it down for all calls behind.
      cases hdecoded : Block.decoded? codec { payload := turn.payload, isFirst := true } with
      | none =>
        rw [hdecoded] at hrest
        rw [ih hrest]
        simp
      | some value =>
        rw [hdecoded] at hrest
        have hmem : call ∈ front ++ call :: back := by simp
        rw [← hrest] at hmem
        have hdown : call.isFirst = false := isFirst_of_mem_calls hmem
        simp [hdown]

/-- Once the flag is down, the calls behind have it down. -/
theorem pairwise_calls (isFirst : Bool) (buffer : Octets) (turns : List Turn) :
    (calls codec isFirst buffer turns).Pairwise
      fun call later => call.isFirst = false → later.isFirst = false := by
  induction turns generalizing isFirst buffer with
  | nil => exact .nil
  | cons turn rest ih =>
    rw [calls]
    refine .cons (fun later hlater hdown => ?_) (ih _ _)
    obtain rfl : isFirst = false := hdown
    rw [Call.isFirst_done, Bool.false_and] at hlater
    exact isFirst_of_mem_calls hlater

/-- A decoder that answers what is asked in the same way leads to the same calls. -/
theorem calls_congr {decode : Octets → Bool → Option codec.Decoded} {isFirst : Bool}
    {buffer : Octets} {turns : List Turn}
    (h : ∀ call ∈ calls codec isFirst buffer turns,
      decode call.payload call.isFirst = call.decoded? codec) :
    calls { codec with decode } isFirst buffer turns = calls codec isFirst buffer turns := by
  induction turns generalizing isFirst buffer with
  | nil => rfl
  | cons turn rest ih =>
    rw [calls, List.forall_mem_cons] at h
    obtain ⟨hcall, hrest⟩ := h
    have hdone := Call.done_congr codec _ hcall
    rw [calls, calls, hdone, ih hrest]

/-- **The flags are a matter of the payloads and the decoder alone.** -/
theorem map_isFirst_calls {encode : codec.Decoded → Octets → Encoding} {isFirst : Bool}
    {buffer start : Octets} {turns others : List Turn}
    (h : others.map (·.payload) = turns.map (·.payload)) :
    (calls { codec with encode } isFirst start others).map (·.isFirst) =
      (calls codec isFirst buffer turns).map (·.isFirst) := by
  induction turns generalizing isFirst buffer start others with
  | nil =>
    obtain rfl := List.map_eq_nil_iff.1 h
    rfl
  | cons turn rest ih =>
    cases others with
    | nil => cases h
    | cons other others =>
      rw [List.map_cons, List.map_cons] at h
      obtain ⟨hpayload, hothers⟩ := List.cons.inj h
      rw [calls, calls, List.map_cons, List.map_cons, Call.isFirst_done, Call.isFirst_done,
        hpayload]
      exact congrArg (isFirst :: ·) (ih hothers)

/-- The flag is up in the calls before any payload has decoded. -/
theorem isFirst_of_missed {buffer : Octets} {turns : List Turn} {missed rest : List Call}
    (h : calls codec true buffer turns = missed ++ rest)
    (hmissed : ∀ call ∈ missed, call.decoded? codec = none) :
    ∀ call ∈ missed, call.isFirst = true := by
  intro call hcall
  obtain ⟨front, back, rfl⟩ := List.append_of_mem hcall
  rw [List.append_assoc, List.cons_append] at h
  rw [isFirst_iff_of_calls h]
  intro earlier hearlier
  exact hmissed earlier (List.mem_append_left _ hearlier)

/-- The flag is down in the calls behind one that decodes its payload. -/
theorem isFirst_of_later {buffer : Octets} {turns : List Turn} {missed later : List Call}
    {first : Call} (h : calls codec true buffer turns = missed ++ first :: later)
    (hfirst : first.decoded? codec ≠ none) : ∀ call ∈ later, call.isFirst = false := by
  intro call hcall
  obtain ⟨front, back, rfl⟩ := List.append_of_mem hcall
  have hsplit : calls codec true buffer turns = (missed ++ first :: front) ++ call :: back := by
    rw [h, List.append_assoc, List.cons_append]
  rw [← Bool.not_eq_true, isFirst_iff_of_calls hsplit]
  intro hnone
  exact hfirst (hnone first (List.mem_append_right _ (List.mem_cons_self ..)))

/-- **A history falls into the calls up to the first block and those behind it**, unless no payload
decodes. -/
theorem calls_split (codec : Codec) (buffer : Octets) (turns : List Turn) :
    let history := calls codec true buffer turns
    (∀ call ∈ history, call.isFirst = true ∧ call.decoded? codec = none) ∨
      ∃ missed first later value, history = missed ++ first :: later ∧
        (∀ call ∈ missed, call.isFirst = true ∧ call.decoded? codec = none) ∧
        (first.isFirst = true ∧ first.decoded? codec = some value) ∧
        ∀ call ∈ later, call.isFirst = false := by
  intro history
  cases hfind : history.find? fun call => (call.decoded? codec).isSome with
  | none =>
    have hmissed : ∀ call ∈ history, call.decoded? codec = none := by
      intro call hcall
      simpa using List.find?_eq_none.1 hfind call hcall
    have hflag := isFirst_of_missed (List.append_nil history).symm hmissed
    left
    intro call hcall
    exact ⟨hflag call hcall, hmissed call hcall⟩
  | some first =>
    obtain ⟨hfirst, missed, later, hhistory, hfront⟩ := List.find?_eq_some_iff_append.1 hfind
    have hmissed : ∀ call ∈ missed, call.decoded? codec = none := by
      intro call hcall
      simpa using hfront call hcall
    have hflag := isFirst_of_missed hhistory hmissed
    obtain ⟨value, hvalue⟩ := Option.isSome_iff_exists.1 hfirst
    have hdecoded : first.decoded? codec ≠ none := by
      rw [hvalue]
      exact Option.some_ne_none value
    right
    refine ⟨missed, first, later, value, hhistory, ?_, ⟨?_, hvalue⟩, ?_⟩
    · intro call hcall
      exact ⟨hflag call hcall, hmissed call hcall⟩
    · exact (isFirst_iff_of_calls hhistory).2 hmissed
    · exact isFirst_of_later hhistory hdecoded

/-- The content of a block that holds an octet string, as the codec reads it. -/
def Block.content? (skipped : UInt64) (block : Block) : Option Octets :=
  block.decoded? (.octetString skipped)

/-- The content of a block behind the octets that are to be skipped, of which it has to have as
many. -/
def Block.skipped? (skipped : UInt64) (block : Block) : Option Octets :=
  if skipped.toNat ≤ block.payload.length then Uper.decode (block.payload.drop skipped.toNat)
  else none

/-- A block with the flag up is decoded behind the octets that are to be skipped. -/
theorem Block.content?_of_isFirst {skipped : UInt64} {block : Block} (h : block.isFirst = true) :
    block.content? skipped = block.skipped? skipped := by
  simp only [content?, decoded?, skipped?, Codec.octetString, h, if_true, Codec.skip]
  split <;> rfl

/-- A block with the flag down is decoded from its first octet on. -/
theorem Block.content?_of_not_isFirst {skipped : UInt64} {block : Block}
    (h : block.isFirst = false) : block.content? skipped = Uper.decode block.payload := by
  unfold content? decoded?
  rw [h]
  rfl

/-- What transcoding an octet string comes to when its content, if there is one, is known. -/
def Transcoded.ofContent? (payload : Octets) (isFirst : Bool) (buffer : Octets) :
    Option Octets → Transcoded
  | none => { result := .error (.decodeFailed payload.length), isFirst, buffer }
  | some content =>
    { result := .ok (29 + 2 * content.length)
      isFirst := false
      buffer := buffer ++ Xer.element content }

/-- What a call with the codec of an octet string does is known from the content of its block. -/
theorem Call.done_octetString (skipped : UInt64) (call : Call) :
    call.done (.octetString skipped) =
      .ofContent? call.payload call.isFirst call.buffer (call.content? skipped) := by
  cases hcontent : call.content? skipped with
  | none =>
    unfold Block.content? Block.decoded? at hcontent
    simp only [done, transcode, hcontent, Transcoded.ofContent?]
  | some content => exact transcode_octetString hcontent call.buffer

/-- A call whose payload does not decode without the octets that are to be skipped, and that says
so. -/
def Call.Missed (skipped : UInt64) (call : Call) : Prop :=
  call.skipped? skipped = none ∧
    call.done (.octetString skipped) = .ofContent? call.payload true call.buffer none

/-- Histories in which the octets that are to be skipped are taken off one payload at most: off the
first that decodes without them.  Every later one is decoded from its first octet on. -/
inductive SkipsOnce (skipped : UInt64) : List Call → Prop where
  | never {history : List Call} (hmissed : ∀ call ∈ history, call.Missed skipped) :
    SkipsOnce skipped history
  | once {missed later : List Call} {first : Call} {content : Octets}
    (hmissed : ∀ call ∈ missed, call.Missed skipped)
    (hcontent : first.skipped? skipped = some content)
    (hfirst : first.done (.octetString skipped) =
      .ofContent? first.payload true first.buffer (some content))
    (hlater : ∀ call ∈ later, call.done (.octetString skipped) =
      .ofContent? call.payload false call.buffer (Uper.decode call.payload)) :
    SkipsOnce skipped (missed ++ first :: later)

/-- A call with the flag up that finds no content has missed. -/
theorem Call.missed_of_isFirst {skipped : UInt64} {call : Call} (hflag : call.isFirst = true)
    (hnone : call.content? skipped = none) : call.Missed skipped := by
  constructor
  · rw [← Block.content?_of_isFirst hflag]
    exact hnone
  · rw [done_octetString, hflag, hnone]

/-- **At most one payload loses the octets that are to be skipped.** -/
theorem skipsOnce_calls (skipped : UInt64) (buffer : Octets) (turns : List Turn) :
    SkipsOnce skipped (calls (.octetString skipped) true buffer turns) := by
  rcases calls_split (.octetString skipped) buffer turns with
    hall | ⟨missed, first, later, value, hhistory, hfront, ⟨hflag, hvalue⟩, hlater⟩
  · refine .never ?_
    intro call hcall
    obtain ⟨hup, hnone⟩ := hall call hcall
    exact Call.missed_of_isFirst hup hnone
  · have hmissed : ∀ call ∈ missed, call.Missed skipped := by
      intro call hcall
      obtain ⟨hup, hnone⟩ := hfront call hcall
      exact Call.missed_of_isFirst hup hnone
    obtain ⟨content, hcontent⟩ : ∃ content, first.content? skipped = some content :=
      ⟨value, hvalue⟩
    have hskipped : first.skipped? skipped = some content := by
      rw [← Block.content?_of_isFirst hflag, hcontent]
    have hfirst : first.done (.octetString skipped) =
        .ofContent? first.payload true first.buffer (some content) := by
      rw [Call.done_octetString, hflag, hcontent]
    rw [hhistory]
    refine .once hmissed hskipped hfirst ?_
    intro call hcall
    have hdown := hlater call hcall
    rw [Call.done_octetString, Block.content?_of_not_isFirst hdown, hdown]

/-- **The first-block flag in a history of calls.**  Whatever the payloads and the codec are, and
whatever becomes of the buffer between the calls:

* every payload is transcoded by a call of its own;
* the flag of a call is up just when no call before it has decoded its payload, so it is up to and
  including the first that does, and down from there on, for good;
* the decoder is asked about the payloads under these flags and about nothing else;
* neither the encoder nor the buffers have a say in the flags.

So with the codec of an octet string, either no payload decodes without the octets that are to be
skipped, or the first one that does is the only one that loses them: those before it do not decode
without them, and those behind it are decoded from their first octet on. -/
theorem calls_firstBlock (buffer : Octets) (turns : List Turn) :
    (∀ codec : Codec,
      let history := calls codec true buffer turns
      history.map (·.payload) = turns.map (·.payload) ∧
        (∀ front call back, history = front ++ call :: back →
          (call.isFirst = true ↔ ∀ earlier ∈ front, earlier.decoded? codec = none)) ∧
        history.Pairwise (fun call later => call.isFirst = false → later.isFirst = false) ∧
        (∀ decode : Octets → Bool → Option codec.Decoded,
          (∀ call ∈ history, decode call.payload call.isFirst = call.decoded? codec) →
            calls { codec with decode } true buffer turns = history ∧
              ∀ call ∈ history, call.done { codec with decode } = call.done codec) ∧
        ∀ (encode : codec.Decoded → Octets → Encoding) (start : Octets) (others : List Turn),
          others.map (·.payload) = turns.map (·.payload) →
            (calls { codec with encode } true start others).map (·.isFirst) =
              history.map (·.isFirst)) ∧
      ∀ skipped : UInt64,
        SkipsOnce skipped (calls (.octetString skipped) true buffer turns) := by
  refine ⟨?_, fun skipped => skipsOnce_calls skipped buffer turns⟩
  intro codec history
  refine ⟨payload_calls true buffer turns, ?_, pairwise_calls true buffer turns, ?_, ?_⟩
  · intro front call back hhistory
    exact isFirst_iff_of_calls hhistory
  · intro decode hdecode
    refine ⟨calls_congr hdecode, ?_⟩
    intro call hcall
    exact call.done_congr codec (hdecode call hcall)
  · intro encode start others hothers
    exact map_isFirst_calls hothers

/-- An encoder that always fails, after the buffer was emptied once: the second payload is the first
to decode, and a decoder that would refuse it later on is never asked to.  And octet strings behind
two octets that are to be skipped: one that has too few octets, one that loses its first two, and
one of the same octets that loses none. -/
theorem calls_firstBlock_two_skipped :
    let codec : Codec :=
      { Decoded := Octets
        decode := fun payload _ => if payload.length < 2 then none else some payload
        encode := fun _ buffer => { buffer := buffer ++ [0x3C], failure := some ⟨"refused"⟩ } }
    let once (payload : Octets) (isFirst : Bool) : Option Octets :=
      if payload.length < 2 then none else if isFirst then some payload else none
    let turns : List Turn :=
      [{ payload := [1] }, { payload := [2, 2], prepare := fun _ => [] }, { payload := [3] }]
    let first : Call := { payload := [1], isFirst := true, buffer := [0x20] }
    let second : Call := { payload := [2, 2], isFirst := true, buffer := [] }
    let third : Call := { payload := [3], isFirst := false, buffer := [] }
    let blocks : List Turn :=
      [{ payload := [0x01] }, { payload := [0x03, 0x02, 0x01, 0xAB] },
        { payload := [0x03, 0x02, 0x01, 0xAB], prepare := fun _ => [] }]
    let history := calls (.octetString 2) true [] blocks
    calls codec true [0x20] turns = [first, second, third] ∧
      (third.isFirst = true ↔ ∀ earlier ∈ [first, second], earlier.decoded? codec = none) ∧
      calls { codec with decode := once } true [0x20] turns = [first, second, third] ∧
      (calls { codec with encode := fun value buffer => { buffer := buffer ++ value } } true []
        (turns.map ({ payload := ·.payload }))).map (·.isFirst) = [true, true, false] ∧
      SkipsOnce 2 history ∧
      history.map (·.skipped? 2) = [none, some [0xAB], some [0xAB]] ∧
      history.map (fun call => (call.done (.octetString 2)).buffer) =
        [[], Octets.ofAscii "<OCTET_STRING>AB</OCTET_STRING>",
          Octets.ofAscii "<OCTET_STRING>0201AB</OCTET_STRING>"] := by
  intro codec once turns first second third blocks history
  have hhistory : calls codec true [0x20] turns = [first, second, third] := rfl
  obtain ⟨hcodec, -⟩ := calls_firstBlock [0x20] turns
  obtain ⟨-, hflag, -, hdecode, hencode⟩ := hcodec codec
  obtain ⟨-, hskips⟩ := calls_firstBlock [] blocks
  refine ⟨hhistory, hflag [first, second] third [] hhistory, ?_, ?_, hskips 2, ?_, ?_⟩
  · have hsame : ∀ call ∈ [first, second, third],
        once call.payload call.isFirst = call.decoded? codec :=
      List.forall_mem_cons.2 ⟨rfl, List.forall_mem_cons.2 ⟨rfl, List.forall_mem_singleton.2 rfl⟩⟩
    rw [← hhistory] at hsame ⊢
    exact (hdecode once hsame).1
  · exact hencode _ [] _ rfl
  · decide +kernel
  · decide +kernel

end OctetRelay
