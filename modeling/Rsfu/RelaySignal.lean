import Rsfu.DownTrack
import Rsfu.RelayPeer
import Rsfu.Serde

/-! Track signalling of a relay peer: a signal is written as JSON into the payload
of a request. The receiving side reads the signal from the event of the request, and
the codec parameters of the track are written by no encoder and read by no decoder,
so no signal ever gets through. -/
namespace Rsfu
open Serde

structure TrackMeta where
  streamId : String
  trackId : String
  codecParameters : Option CodecParameters

/-- The fields of `RTCRtpCodingParameters` that the relay fills in or reads. -/
structure CodingParameters where
  rid : String := ""
  ssrc : UInt32 := 0
  payloadType : UInt8 := 0

structure SctpTransportCapabilities where
  maxMessageSize : UInt32

/-- The candidates and the ICE and DTLS parameters are values of the webrtc crate. -/
structure Signal (Candidate Ice Dtls : Type) where
  encodings : Option CodingParameters
  iceCandidates : List Candidate
  iceParameters : Ice
  dtlsParameters : Dtls
  sctpCapabilities : SctpTransportCapabilities
  trackMeta : Option TrackMeta

/-- The text layer of serde_json: what it writes for a value and reads from bytes. -/
structure SerdeJson where
  toVec : Json → Bytes
  fromSlice : Bytes → Option Json

def utf8 (s : String) : Bytes := s.toUTF8.data.toList

def signalerRequestEvent : String := "rsfu_relay_request"

/-- `codec_parameters` is skipped both ways and reads as its default. -/
instance : Codec TrackMeta where
  encode m := .object [("streamId", encode m.streamId), ("trackId", encode m.trackId)]
  decode
    | .object fields => do
        let streamId ← readRequired fields "streamId"
        let trackId ← readRequired fields "trackId"
        return ⟨streamId, trackId, none⟩
    | _ => none

instance : Codec Request where
  encode r := .object [("id", encode r.id), ("reply", encode r.isReply), ("event", encode r.event),
    ("payload", encode r.payload)]
  decode
    | .object fields => do
        let id ← readRequired fields "id"
        let isReply ← readRequired fields "reply"
        let event ← readRequired fields "event"
        let payload ← readRequired fields "payload"
        return ⟨id, isReply, event, payload⟩
    | _ => none

instance : RoundTrips Request where
  decode_encode r := by
    let fields := [("id", encode r.id), ("reply", encode r.isReply), ("event", encode r.event),
      ("payload", encode r.payload)]
    have id : readRequired fields "id" = some r.id := readRequired_of_lookup List.lookup_cons_self
    have reply : readRequired fields "reply" = some r.isReply := by
      apply readRequired_of_lookup
      rw [lookup_cons_ne _ _ (by decide), List.lookup_cons_self]
    have event : readRequired fields "event" = some r.event := by
      apply readRequired_of_lookup
      rw [lookup_cons_ne _ _ (by decide), lookup_cons_ne _ _ (by decide), List.lookup_cons_self]
    have payload : readRequired fields "payload" = some r.payload := by
      apply readRequired_of_lookup
      rw [lookup_cons_ne _ _ (by decide), lookup_cons_ne _ _ (by decide), lookup_cons_ne _ _ (by decide),
        List.lookup_cons_self]
    change ((readRequired fields "id").bind fun id => (readRequired fields "reply").bind fun isReply =>
      (readRequired fields "event").bind fun event => (readRequired fields "payload").bind fun payload =>
        some (⟨id, isReply, event, payload⟩ : Request)) = some r
    rw [id, reply, event, payload]
    rfl
  encode_ne_null _ := nofun

/-- What is left of the track on the other side. -/
def TrackMeta.skipped (m : TrackMeta) : TrackMeta := { m with codecParameters := none }

theorem decode_track (m : TrackMeta) : decode (encode m) = some m.skipped := by
  let fields := [("streamId", encode m.streamId), ("trackId", encode m.trackId)]
  have streamId : readRequired fields "streamId" = some m.streamId := readRequired_of_lookup List.lookup_cons_self
  have trackId : readRequired fields "trackId" = some m.trackId := by
    apply readRequired_of_lookup
    rw [lookup_cons_ne _ _ (by decide), List.lookup_cons_self]
  change ((readRequired fields "streamId").bind fun streamId => (readRequired fields "trackId").bind fun trackId =>
    some (⟨streamId, trackId, none⟩ : TrackMeta)) = _
  rw [streamId, trackId]
  rfl

theorem decodedTrack_codec {json : Json} {m : TrackMeta} (read : decode json = some m) :
    m.codecParameters = none := by
  cases json with
  | object fields =>
      simp only [decode, Option.bind_eq_bind, Option.bind_eq_some_iff, Option.pure_def, Option.some.injEq] at read
      obtain ⟨streamId, -, trackId, -, rfl⟩ := read
      rfl
  | _ => cases read

theorem optionalTrack_codec {fields : List (String × Json)} {name : String} {m : TrackMeta}
    (read : readOptional fields name = some (some m)) : m.codecParameters = none := by
  unfold readOptional at read
  split at read
  · cases read
  · cases read
  · obtain ⟨_, decoded, same⟩ := Option.map_eq_some_iff.mp read
    cases same
    exact decodedTrack_codec decoded

section Signals
variable {Candidate Ice Dtls : Type} [Codec Candidate] [Codec Ice] [Codec Dtls] [Codec CodingParameters]
  [Codec SctpTransportCapabilities]

instance : Codec (Signal Candidate Ice Dtls) where
  encode s := .object (writeOptional "encodings" s.encodings ++
    [("iceCandidates", encode s.iceCandidates), ("iceParameters", encode s.iceParameters),
      ("dtlsParameters", encode s.dtlsParameters), ("sctpTransportCapabilities", encode s.sctpCapabilities)] ++
    writeOptional "trackInfo" s.trackMeta)
  decode
    | .object fields => do
        let encodings ← readOptional fields "encodings"
        let iceCandidates ← readRequired fields "iceCandidates"
        let iceParameters ← readRequired fields "iceParameters"
        let dtlsParameters ← readRequired fields "dtlsParameters"
        let sctpCapabilities ← readRequired fields "sctpTransportCapabilities"
        let trackMeta ← readOptional fields "trackInfo"
        return ⟨encodings, iceCandidates, iceParameters, dtlsParameters, sctpCapabilities, trackMeta⟩
    | _ => none

/-- What `add_track` reads from the remote track. -/
structure RemoteTrack where
  streamId : String
  trackId : String
  codec : CodecParameters
  payloadType : UInt8

/-- The signal that `add_track` builds, with the SSRC of the new sender. -/
def addTrackSignal [Inhabited Ice] [Inhabited Dtls] (remoteTrack : RemoteTrack) (ssrc : UInt32) :
    Signal Candidate Ice Dtls where
  encodings := some { ssrc, payloadType := remoteTrack.payloadType }
  iceCandidates := []
  iceParameters := default
  dtlsParameters := default
  sctpCapabilities := ⟨0⟩
  trackMeta := some ⟨remoteTrack.streamId, remoteTrack.trackId, some remoteTrack.codec⟩

/-- The bytes that `add_track` sends through `request`. -/
def addTrackBytes (serde : SerdeJson) (rng : StdRng) (p : RelayPeer) (signal : Signal Candidate Ice Dtls) : Bytes :=
  serde.toVec (encode (p.request rng signalerRequestEvent (serde.toVec (encode signal))).2)

inductive HandleError where
  | request
  | signal
  deriving DecidableEq

/-- `handle_request` up to its call of `receive`: the signal it passes on, if it gets to one. -/
def handleRequest (serde : SerdeJson) (data : Bytes) : Except HandleError (Option (Signal Candidate Ice Dtls)) :=
  match (serde.fromSlice data).bind decode with
  | none => .error .request
  | some (request : Request) =>
      if request.event = signalerRequestEvent ∧ ¬ request.isReply then
        match (serde.fromSlice (utf8 request.event)).bind decode with
        | none => .error .signal
        | some signal => .ok (some signal)
      else .ok none

/-- The codec that `receive` registers; unwrapping a missing field panics. -/
def registeredCodec (s : Signal Candidate Ice Dtls) : Option (CodecParameters × CodecType) := do
  let codecParameters ← (← s.trackMeta).codecParameters
  let mime := codecParameters.capability.mimeType
  return (codecParameters,
    if RustText.startsWith mime "audio/" then .audio
    else if RustText.startsWith mime "video/" then .video
    else .unspecified)

/-- The signal that was sent is the one passed to `receive`, which gets as far as the registration. -/
def SignalSurvives (serde : SerdeJson) (rng : StdRng) (p : RelayPeer) (signal : Signal Candidate Ice Dtls) : Prop :=
  ∃ decoded, handleRequest serde (addTrackBytes serde rng p signal) = .ok (some decoded) ∧ decoded = signal ∧
    (registeredCodec decoded).isSome = true

theorem decodedSignal_codec {json : Json} {s : Signal Candidate Ice Dtls} (read : decode json = some s) :
    registeredCodec s = none := by
  cases json with
  | object fields =>
      simp only [decode, Option.bind_eq_bind, Option.bind_eq_some_iff, Option.pure_def, Option.some.injEq] at read
      obtain ⟨encodings, -, candidates, -, ice, -, dtls, -, sctp, -, trackMeta, track, rfl⟩ := read
      cases trackMeta with
      | none => rfl
      | some m =>
          have missing := optionalTrack_codec track
          simp only [registeredCodec, Option.bind_eq_bind, Option.bind_some, missing, Option.bind_none]
  | _ => cases read

/-- Whatever `handle_request` passes to `receive` makes it panic. -/
theorem handled_codec {serde : SerdeJson} {data : Bytes} {s : Signal Candidate Ice Dtls}
    (passed : handleRequest serde data = .ok (some s)) : registeredCodec s = none := by
  unfold handleRequest at passed
  split at passed
  · cases passed
  · split at passed
    · split at passed
      · cases passed
      · rename_i decoded
        cases passed
        obtain ⟨json, -, read⟩ := Option.bind_eq_some_iff.mp decoded
        exact decodedSignal_codec read
    · cases passed

/-- The request itself gets through; its event, from which the signal is read, is not JSON. -/
theorem addTrack_fails {serde : SerdeJson} {rng : StdRng} {p : RelayPeer} {signal : Signal Candidate Ice Dtls}
    (reads : serde.fromSlice (addTrackBytes serde rng p signal) =
      some (encode (p.request rng signalerRequestEvent (serde.toVec (encode signal))).2))
    (noJson : serde.fromSlice (utf8 signalerRequestEvent) = none) :
    handleRequest serde (addTrackBytes serde rng p signal) =
      (.error .signal : Except HandleError (Option (Signal Candidate Ice Dtls))) := by
  have asks : (p.request rng signalerRequestEvent (serde.toVec (encode signal))).2.event = signalerRequestEvent ∧
      ¬ (p.request rng signalerRequestEvent (serde.toVec (encode signal))).2.isReply = true :=
    ⟨rfl, Bool.false_ne_true⟩
  unfold handleRequest
  rw [reads, Option.bind_some, RoundTrips.decode_encode]
  simp only [asks.1, asks.2, noJson, Option.bind_none]
  rfl

/-- No signal that `add_track` builds survives the way to the remote peer. -/
theorem signal_never_survives [Inhabited Ice] [Inhabited Dtls] (serde : SerdeJson) (rng : StdRng) (p : RelayPeer)
    (remoteTrack : RemoteTrack) (ssrc : UInt32) :
    ¬ SignalSurvives serde rng p (addTrackSignal remoteTrack ssrc : Signal Candidate Ice Dtls) := by
  rintro ⟨decoded, passed, -, registers⟩
  rw [handled_codec passed] at registers
  cases registers

end Signals

section Laws
variable {Candidate Ice Dtls : Type} [Codec Candidate] [Codec Ice] [Codec Dtls] [Codec CodingParameters]
  [Codec SctpTransportCapabilities]

variable [RoundTrips Candidate] [RoundTrips Ice] [RoundTrips Dtls] [RoundTrips CodingParameters]
  [RoundTrips SctpTransportCapabilities]

/-- Every field of a signal reads back but the codec parameters of its track. -/
theorem decode_signal (s : Signal Candidate Ice Dtls) :
    decode (encode s) = some { s with trackMeta := s.trackMeta.map TrackMeta.skipped } := by
  let fields := writeOptional "encodings" s.encodings ++
    (("iceCandidates", encode s.iceCandidates) :: ("iceParameters", encode s.iceParameters) ::
      ("dtlsParameters", encode s.dtlsParameters) :: ("sctpTransportCapabilities", encode s.sctpCapabilities) ::
      (writeOptional "trackInfo" s.trackMeta ++ []))
  have object : encode s = .object fields := by
    refine congrArg Json.object ?_
    simp only [fields, List.append_nil, List.append_assoc]
    rfl
  have encodings : readOptional fields "encodings" = some s.encodings := by
    apply readOptional_reads
    rw [lookup_writeOptional_self, lookup_cons_ne _ _ (by decide), lookup_cons_ne _ _ (by decide),
      lookup_cons_ne _ _ (by decide), lookup_cons_ne _ _ (by decide), lookup_writeOptional_ne _ _ (by decide),
      List.lookup_nil, Option.or_none]
  have candidates : readRequired fields "iceCandidates" = some s.iceCandidates := by
    apply readRequired_of_lookup
    rw [lookup_writeOptional_ne _ _ (by decide), List.lookup_cons_self]
  have ice : readRequired fields "iceParameters" = some s.iceParameters := by
    apply readRequired_of_lookup
    rw [lookup_writeOptional_ne _ _ (by decide), lookup_cons_ne _ _ (by decide), List.lookup_cons_self]
  have dtls : readRequired fields "dtlsParameters" = some s.dtlsParameters := by
    apply readRequired_of_lookup
    rw [lookup_writeOptional_ne _ _ (by decide), lookup_cons_ne _ _ (by decide), lookup_cons_ne _ _ (by decide),
      List.lookup_cons_self]
  have sctp : readRequired fields "sctpTransportCapabilities" = some s.sctpCapabilities := by
    apply readRequired_of_lookup
    rw [lookup_writeOptional_ne _ _ (by decide), lookup_cons_ne _ _ (by decide), lookup_cons_ne _ _ (by decide),
      lookup_cons_ne _ _ (by decide), List.lookup_cons_self]
  have trackMeta : readOptional fields "trackInfo" = some (s.trackMeta.map TrackMeta.skipped) := by
    refine readOptional_of_lookup TrackMeta.skipped decode_track (fun _ => nofun) ?_
    rw [lookup_writeOptional_ne _ _ (by decide), lookup_cons_ne _ _ (by decide), lookup_cons_ne _ _ (by decide),
      lookup_cons_ne _ _ (by decide), lookup_cons_ne _ _ (by decide), lookup_writeOptional_self, List.lookup_nil,
      Option.or_none]
  rw [object]
  change ((readOptional fields "encodings").bind fun encodings =>
    (readRequired fields "iceCandidates").bind fun iceCandidates =>
    (readRequired fields "iceParameters").bind fun iceParameters =>
    (readRequired fields "dtlsParameters").bind fun dtlsParameters =>
    (readRequired fields "sctpTransportCapabilities").bind fun sctpCapabilities =>
    (readOptional fields "trackInfo").bind fun trackMeta =>
      some (⟨encodings, iceCandidates, iceParameters, dtlsParameters, sctpCapabilities, trackMeta⟩ :
        Signal Candidate Ice Dtls)) = _
  rw [encodings, candidates, ice, dtls, sctp, trackMeta]
  rfl

end Laws

mutual

/-- The compact text of a document without characters to escape. -/
def compact : Json → String
  | .null => "null"
  | .bool b => if b then "true" else "false"
  | .number n => toString n
  | .string s => "\"" ++ s ++ "\""
  | .array items => "[" ++ compactItems items ++ "]"
  | .object fields => "\x7b" ++ compactFields fields ++ "\x7d"

def compactItems : List Json → String
  | [] => ""
  | [item] => compact item
  | item :: rest => compact item ++ "," ++ compactItems rest

def compactFields : List (String × Json) → String
  | [] => ""
  | [(name, value)] => "\"" ++ name ++ "\":" ++ compact value
  | (name, value) :: rest => "\"" ++ name ++ "\":" ++ compact value ++ "," ++ compactFields rest

end

/-- The text layer on one document: it writes any, and reads this one back. -/
def readsDocument (document : Json) : SerdeJson where
  toVec json := utf8 (compact json)
  fromSlice bytes := if bytes = utf8 (compact document) then some document else none

theorem readsDocument_other {document : Json} {bytes : Bytes} (other : bytes ≠ utf8 (compact document)) :
    (readsDocument document).fromSlice bytes = none := if_neg other

theorem readsDocument_reads {document json : Json} {bytes : Bytes} (same : json = document)
    (written : bytes = utf8 (compact json)) : (readsDocument document).fromSlice bytes = some json := by
  subst same
  exact if_pos written


section Example

/-- Values of the webrtc crate that no field of this signal depends on. -/
local instance : Codec Unit := ⟨fun _ => .object [], fun _ => none⟩

local instance : Codec CodingParameters where
  encode c := .object [("rid", .string c.rid), ("ssrc", .number c.ssrc.toNat), ("payloadType", encode c.payloadType)]
  decode _ := none

local instance : Codec SctpTransportCapabilities :=
  ⟨fun c => .object [("maxMessageSize", .number c.maxMessageSize.toNat)], fun _ => none⟩

def cameraSignal : Signal Unit Unit Unit :=
  addTrackSignal ⟨"stream", "camera", ⟨⟨"video/VP8", 90000, "", []⟩, 96⟩, 96⟩ 7

def countingRng : StdRng := ⟨Unit, fun _ => (), fun _ => (5, ())⟩

/-- The request for `cameraSignal`, with the text of the signal for its payload. -/
def cameraRequest : Json :=
  encode (({} : RelayPeer).request countingRng signalerRequestEvent (utf8 (compact (encode cameraSignal)))).2

/-- The remote peer takes the name of the event for the signal. -/
theorem event_is_no_signal :
    handleRequest (readsDocument cameraRequest) (addTrackBytes (readsDocument cameraRequest) countingRng
    {} cameraSignal) =
      (.error .signal : Except HandleError (Option (Signal Unit Unit Unit))) ∧
    ¬ SignalSurvives (readsDocument cameraRequest) countingRng {} cameraSignal := by
  have fails : handleRequest (readsDocument cameraRequest)
      (addTrackBytes (readsDocument cameraRequest) countingRng {} cameraSignal) =
        (.error .signal : Except HandleError (Option (Signal Unit Unit Unit))) := by
    refine addTrack_fails (readsDocument_reads ?_ ?_) (readsDocument_other ?_)
    · unfold cameraRequest
      rfl
    · rfl
    · decide +kernel
  refine ⟨fails, ?_⟩
  rintro ⟨decoded, passed, -⟩
  rw [fails] at passed
  cases passed

end Example

end Rsfu
