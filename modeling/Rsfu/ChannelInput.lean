import Rsfu.DownTrack

/-! What a client sends on its data channels. Its bytes are decoded where they are used, and
each decoding is unwrapped: by the handler of a subscriber, by `process`, and by
`fanout_message` before every send. -/
namespace Rsfu

structure SetRemoteMedia where
  streamId : String
  video : String
  frameRate : String
  audio : Bool
  layers : Option (List String) := none

structure ChannelMessage where
  isString : Bool
  data : Bytes
  deriving DecidableEq

/-- `String::from_utf8` and `str::from_utf8`. -/
def fromUtf8 (data : Bytes) : Option String := String.fromUTF8? (ByteArray.mk data.toArray)

namespace DownTrack

def switchVideo (queued : Bool) (video : String) (d : DownTrack) : DownTrack :=
  match video with
  | "high" => ((d.mute false).switchSpatialLayer 2 true queued).1
  | "medium" => ((d.mute false).switchSpatialLayer 1 true queued).1
  | "low" => ((d.mute false).switchSpatialLayer 0 true queued).1
  | "none" => d.mute true
  | _ => d

def switchFrameRate (frameRate : String) (d : DownTrack) : DownTrack :=
  match frameRate with
  | "high" => d.switchTemporalLayer 2 true
  | "medium" => d.switchTemporalLayer 1 true
  | "low" => d.switchTemporalLayer 0 true
  | _ => d

/-- One turn of the loop of `process`. The layers asked for are places of the receiver's arrays. -/
def setRemoteMedia (queued : Bool) (media : SetRemoteMedia) (d : DownTrack) : DownTrack :=
  match d.kind with
  | .audio => d.mute (!media.audio)
  | .video => (d.switchVideo queued media.video).switchFrameRate media.frameRate
  | .unspecified => d

end DownTrack

section
variable (fromStr : String → Option SetRemoteMedia) (queued : DownTrack → Bool)

/-- `process`; `fromStr` is `serde_json::from_str`, and `queued` the answers of the receivers. -/
def process (msg : ChannelMessage) (downTracks : List DownTrack) : Option (List DownTrack) :=
  (fromUtf8 msg.data).bind fun data =>
    (fromStr data).map fun media =>
      match media.layers with
      | some (_ :: _) => downTracks
      | _ => downTracks.map fun d => d.setRemoteMedia (queued d) media

/-- The handler of `add_data_channel`, on the tracks of the subscriber. -/
def onMessage (tracks : String → Option (List DownTrack)) (msg : ChannelMessage) :
    Option (String → Option (List DownTrack)) :=
  (fromUtf8 msg.data).bind fun data =>
    (fromStr data).bind fun media =>
      match tracks media.streamId with
      | some downTracks => (process fromStr queued msg downTracks).map fun switched streamId =>
          if streamId = media.streamId then some switched else tracks streamId
      | none => some tracks

end

structure FanoutAttempt where
  channel : Nat
  message : ChannelMessage
  deriving DecidableEq

/-- What was handed to a channel so far, and how often that failed. -/
structure FanoutLog where
  attempts : List FanoutAttempt := []
  errors : Nat := 0

/-- `fanout_message`; `sends` tells which attempts succeed. A text goes out as the text decoded. -/
def fanout (sends : Nat → Bool) (msg : ChannelMessage) : List Nat → FanoutLog → Option FanoutLog
  | [], log => some log
  | dc :: rest, log =>
      match fromUtf8 msg.data with
      | none => none
      | some s =>
          let data := if msg.isString then s.toUTF8.data.toList else msg.data
          fanout sends msg rest {
            attempts := log.attempts ++ [⟨dc, ⟨msg.isString, data⟩⟩]
            errors := if sends log.attempts.length then log.errors else log.errors + 1 }

/-- The bytes are the text of a `SetRemoteMedia`. -/
def ParsesAs (fromStr : String → Option SetRemoteMedia) (data : Bytes) : Prop :=
  ∃ text media, fromUtf8 data = some text ∧ fromStr text = some media

theorem fromUtf8_bytes {data : Bytes} {s : String} (decoded : fromUtf8 data = some s) :
    s.toUTF8.data.toList = data := by
  unfold fromUtf8 String.fromUTF8? at decoded
  split at decoded <;> cases decoded
  rfl

section
variable {fromStr : String → Option SetRemoteMedia} {queued : DownTrack → Bool} {msg : ChannelMessage}

theorem parsesAs_iff (msg : ChannelMessage) :
    ParsesAs fromStr msg.data ↔ ((fromUtf8 msg.data).bind fromStr).isSome = true := by
  rw [Option.isSome_iff_exists]
  simp only [ParsesAs, Option.bind_eq_some_iff]
  constructor
  · rintro ⟨text, media, decoded, parsed⟩
    exact ⟨media, text, decoded, parsed⟩
  · rintro ⟨media, text, decoded, parsed⟩
    exact ⟨text, media, decoded, parsed⟩

theorem process_isSome_iff (downTracks : List DownTrack) :
    (process fromStr queued msg downTracks).isSome = true ↔ ParsesAs fromStr msg.data := by
  rw [parsesAs_iff]
  unfold process
  cases fromUtf8 msg.data with
  | none => exact Iff.rfl
  | some text =>
      rw [Option.bind_some, Option.bind_some, Option.isSome_map]

theorem onMessage_isSome_iff (tracks : String → Option (List DownTrack)) :
    (onMessage fromStr queued tracks msg).isSome = true ↔ ParsesAs fromStr msg.data := by
  constructor
  · intro returned
    rw [parsesAs_iff]
    unfold onMessage at returned
    cases decoded : fromUtf8 msg.data with
    | none =>
        rw [decoded] at returned
        cases returned
    | some text =>
        cases parsed : fromStr text with
        | none =>
            rw [decoded, Option.bind_some, parsed] at returned
            cases returned
        | some media => rw [Option.bind_some, parsed, Option.isSome_some]
  · rintro ⟨text, media, decoded, parsed⟩
    unfold onMessage
    rw [decoded, Option.bind_some, parsed, Option.bind_some]
    split
    · rw [Option.isSome_map, process_isSome_iff]
      exact ⟨text, media, decoded, parsed⟩
    · rfl

/-- Text that decodes is sent to every channel as it came, whichever sends fail. -/
theorem fanout_decoded {sends : Nat → Bool} {s : String} (decoded : fromUtf8 msg.data = some s)
    (dataChannels : List Nat) (log : FanoutLog) :
    ∃ done, fanout sends msg dataChannels log = some done ∧
      done.attempts = log.attempts ++ dataChannels.map fun dc => ⟨dc, msg⟩ := by
  induction dataChannels generalizing log with
  | nil => exact ⟨log, rfl, (List.append_nil _).symm⟩
  | cons dc rest ih =>
      have same : (if msg.isString then s.toUTF8.data.toList else msg.data) = msg.data := by
        rw [fromUtf8_bytes decoded, ite_self]
      unfold fanout
      rw [decoded]
      dsimp only
      rw [same]
      obtain ⟨done, returned, attempts⟩ := ih _
      refine ⟨done, returned, ?_⟩
      rw [attempts, List.map_cons, List.append_assoc]
      rfl

theorem fanout_passes_iff (sends : Nat → Bool) (dataChannels : List Nat) :
    (∃ done, fanout sends msg dataChannels {} = some done ∧
        done.attempts = dataChannels.map fun dc => ⟨dc, msg⟩) ↔
      dataChannels = [] ∨ (fromUtf8 msg.data).isSome = true := by
  constructor
  · rintro ⟨done, returned, -⟩
    cases dataChannels with
    | nil => exact Or.inl rfl
    | cons dc rest =>
        unfold fanout at returned
        cases decoded : fromUtf8 msg.data with
        | none =>
            rw [decoded] at returned
            cases returned
        | some s => exact Or.inr rfl
  · rintro (rfl | decodes)
    · exact ⟨{}, rfl, rfl⟩
    · obtain ⟨s, decoded⟩ := Option.isSome_iff_exists.mp decodes
      exact fanout_decoded decoded dataChannels {}

end

/-- The handler and `process` return exactly when the bytes are the text of a `SetRemoteMedia`; a
fanout reaches all its channels exactly when it has none or the bytes are text. -/
theorem channel_input_iff (fromStr : String → Option SetRemoteMedia) (queued : DownTrack → Bool)
    (tracks : String → Option (List DownTrack)) (downTracks : List DownTrack) (sends : Nat → Bool)
    (dataChannels : List Nat) (msg : ChannelMessage) :
    ((onMessage fromStr queued tracks msg).isSome = true ↔ ParsesAs fromStr msg.data) ∧
      ((process fromStr queued msg downTracks).isSome = true ↔ ParsesAs fromStr msg.data) ∧
      ((∃ done, fanout sends msg dataChannels {} = some done ∧
          done.attempts = dataChannels.map fun dc => ⟨dc, msg⟩) ↔
        dataChannels = [] ∨ (fromUtf8 msg.data).isSome = true) :=
  ⟨onMessage_isSome_iff tracks, process_isSome_iff downTracks, fanout_passes_iff sends dataChannels⟩

/-- A byte that is no text panics in all three. -/
theorem byte_panics_everywhere :
    fanout (fun _ => true) ⟨false, [255]⟩ [4] {} = none ∧
      onMessage (fun _ => some ⟨"", "", "", false, none⟩) (fun _ => true) (fun _ => none) ⟨false, [255]⟩ = none ∧
      process (fun _ => some ⟨"", "", "", false, none⟩) (fun _ => true) ⟨false, [255]⟩ [] = none := by
  have undecoded : fromUtf8 [255] = none := by
    unfold fromUtf8
    decide
  refine ⟨?_, ?_, ?_⟩
  · unfold fanout
    rw [undecoded]
  · unfold onMessage
    rw [undecoded]
    rfl
  · unfold process
    rw [undecoded]
    rfl

end Rsfu
