import Rsfu.HeldLocks
import Rsfu.Receiver
import Rsfu.Reception
import Rsfu.RelayPeer

/-! Three calls that can wait for a lock of their own task: `bind` runs `calc` under
the buffer's lock, `handle_request` looks a sender up in its `if let`, and
`add_up_track` keeps the guards of its three tables to its end. -/
namespace Rsfu
open HeldLocks Locked

inductive BufferLock where
  | buffer
  deriving DecidableEq

/-- A buffer during `bind`, with the pending packets that went through `calc`. -/
structure Binding where
  buffer : Buffer
  processed : List PendingPacket := []

namespace Binding

/-- `calc` on a pending packet: a lock for the codec type, and one for the rest. -/
def runCalc (crates : RtpCrates) (pp : PendingPacket) : Locked BufferLock Binding Unit := do
  let _ ← guarded .buffer get
  guarded .buffer (attempt fun b => (b.buffer.calc crates pp.packet pp.arrivalTime).map fun r =>
    ⟨r.buffer, b.processed ++ [pp]⟩)

/-- The part of `bind` before its loop. -/
def prepare (crates : RtpCrates) (params : RtpParameters) (maxBitrate : UInt64) (b : Binding) :
    Option Binding :=
  params.codecs[0]?.map fun codec =>
    let mime := RustText.toLowercase codec.mimeType
    let buffer := { b.buffer with clockRate := codec.clockRate, maxBitrate, mime }
    { b with buffer := (buffer.bindStore.bindExtension crates params).bindFeatures crates params codec }

/-- `bind`, whose guard lives to its end. -/
def bind (crates : RtpCrates) (params : RtpParameters) (maxBitrate : UInt64) : Locked BufferLock Binding Unit :=
  guarded .buffer do
    attempt (prepare crates params maxBitrate)
    let b ← get
    forEach b.buffer.pendingPackets (runCalc crates)
    modify fun b => { b with buffer := { b.buffer with pendingPackets := [], bound := true } }

theorem prepare_pending {crates : RtpCrates} {params : RtpParameters} {maxBitrate : UInt64} {b b' : Binding}
    (prepared : prepare crates params maxBitrate b = some b') :
    b'.buffer.pendingPackets = b.buffer.pendingPackets ∧ b'.processed = b.processed := by
  obtain ⟨codec, -, rfl⟩ := Option.map_eq_some_iff.mp prepared
  refine ⟨?_, rfl⟩
  let named := { b.buffer with clockRate := codec.clockRate, maxBitrate, mime := RustText.toLowercase codec.mimeType }
  change ((named.bindStore.bindExtension crates params).bindFeatures crates params codec).pendingPackets = _
  obtain ⟨_, _, _, _, _, _, _, _, _, bound⟩ := named.bindCodec_frame crates params codec
  rw [bound]

theorem prepare_eq_none (crates : RtpCrates) (params : RtpParameters) (maxBitrate : UInt64) (b : Binding) :
    prepare crates params maxBitrate b = none ↔ params.codecs = [] := by
  rw [prepare, Option.map_eq_none_iff, List.getElem?_eq_none_iff, Nat.le_zero, List.length_eq_zero_iff]

/-- The first pending packet makes `calc` ask for the lock that `bind` holds. -/
theorem bind_run_eq (crates : RtpCrates) (params : RtpParameters) (maxBitrate : UInt64) (b : Binding) :
    bind crates params maxBitrate [] b =
      match prepare crates params maxBitrate b with
      | none => .panics
      | some b' =>
          if b.buffer.pendingPackets = [] then
            .done { b' with buffer := { b'.buffer with pendingPackets := [], bound := true } } ()
          else .waits .buffer := by
  rw [bind, guarded_free List.not_mem_nil, bind_run]
  unfold attempt
  cases prepared : prepare crates params maxBitrate b with
  | none => rfl
  | some b' =>
      simp only [get_bind, (prepare_pending prepared).1]
      cases b.buffer.pendingPackets with
      | nil => rfl
      | cons pp rest => rfl

/-- The buffer's own `bind`, where it returns. -/
theorem bind_agrees (crates : RtpCrates) (params : RtpParameters) (maxBitrate : UInt64) (b : Buffer) :
    (match bind crates params maxBitrate [] ⟨b, []⟩ with
      | .done s () => some s.buffer
      | _ => none) = b.bind crates params maxBitrate := by
  rw [bind_run_eq]
  unfold Buffer.bind
  cases prepared : prepare crates params maxBitrate ⟨b, []⟩ with
  | none =>
      have codecs := (prepare_eq_none crates params maxBitrate ⟨b, []⟩).mp prepared
      rw [codecs]
      rfl
  | some b' =>
      obtain ⟨kept, -⟩ := prepare_pending prepared
      obtain ⟨codec, first, rfl⟩ := Option.map_eq_some_iff.mp prepared
      simp only at kept
      simp only [first, Option.bind_eq_bind, Option.bind_some, kept]
      cases none : b.pendingPackets with
      | nil =>
          rw [if_pos rfl, if_pos List.isEmpty_nil]
      | cons pp rest => rfl

theorem bind_free_iff (crates : RtpCrates) (params : RtpParameters) (maxBitrate : UInt64) (b : Binding) :
    (∀ lock, bind crates params maxBitrate [] b ≠ .waits lock) ↔ b.buffer.pendingPackets = [] ∨
    params.codecs = [] := by
  have run := bind_run_eq crates params maxBitrate b
  rw [← prepare_eq_none crates params maxBitrate b]
  cases prepared : prepare crates params maxBitrate b with
  | none =>
      rw [prepared] at run
      refine iff_of_true (fun lock waits => ?_) (Or.inr rfl)
      cases run.symm.trans waits
  | some b' =>
      rw [prepared] at run
      rw [or_iff_left (Option.some_ne_none b')]
      by_cases none : b.buffer.pendingPackets = []
      · refine iff_of_true (fun lock waits => ?_) none
        cases (run.trans (if_pos none)).symm.trans waits
      · exact iff_of_false (fun free => free .buffer (run.trans (if_neg none))) none

/-- `bind` returns a bound buffer, and each pending packet went through `calc` in its order. -/
def Completes (crates : RtpCrates) (params : RtpParameters) (maxBitrate : UInt64) (b : Buffer) : Prop :=
  ∃ s, bind crates params maxBitrate [] ⟨b, []⟩ = .done s () ∧
    s.processed = b.pendingPackets ∧ s.buffer.pendingPackets = [] ∧ s.buffer.bound = true

theorem completes_iff (crates : RtpCrates) (params : RtpParameters) (maxBitrate : UInt64) (b : Buffer) :
    Completes crates params maxBitrate b ↔ b.pendingPackets = [] ∧ params.codecs ≠ [] := by
  have run := bind_run_eq crates params maxBitrate ⟨b, []⟩
  have codecs := prepare_eq_none crates params maxBitrate ⟨b, []⟩
  cases prepared : prepare crates params maxBitrate ⟨b, []⟩ with
  | none =>
      rw [prepared] at run codecs
      refine iff_of_false (fun ⟨s, done, _⟩ => ?_) (fun bound => bound.2 (codecs.mp rfl))
      cases run.symm.trans done
  | some b' =>
      rw [prepared] at run codecs
      have some_codec : params.codecs ≠ [] := fun none => Option.some_ne_none b' (codecs.mpr none)
      by_cases none : b.pendingPackets = []
      · refine iff_of_true ⟨_, run.trans (if_pos none), ?_, rfl, rfl⟩ ⟨none, some_codec⟩
        exact (prepare_pending prepared).2.trans none.symm
      · refine iff_of_false (fun ⟨s, done, _⟩ => ?_) (fun bound => none bound.1)
        cases (run.trans (if_neg none)).symm.trans done

end Binding

inductive PeerLock where
  | pendingRequests
  | onRequestHandler
  deriving DecidableEq

/-- A peer that handles replies, with the messages its handler got. -/
structure ReplyHandling where
  peer : RelayPeer
  hasHandler : Bool := true
  handled : List (String × Bytes) := []

namespace ReplyHandling

/-- The send to the call that waits, if its end of the channel is still there. -/
def send (r : Request) (k : Nat) (h : ReplyHandling) : Option ReplyHandling :=
  match h.peer.calls[k]? with
  | some ⟨req, state, events⟩ =>
      match state with
      | .returned _ => none
      | _ => some { h with peer := h.peer.setCall k ⟨req, state, events ++ [r.payload]⟩ }
  | none => none

/-- `handle_request` on a reply: the guard of the lookup lives to the end of the `if let`.
The answer is false when the send fails and the error is returned. -/
def handleRequest (signalerEvent : String) (r : Request) : Locked PeerLock ReplyHandling Bool := do
  let sent ← guarded .pendingRequests do
    let h ← get
    match h.peer.pendingRequests r.id with
    | none => pure true
    | some k =>
        match h.send r k with
        | none => pure false
        | some h =>
            modify fun _ => h
            guarded .pendingRequests (modify fun h => { h with
              peer := { h.peer with pendingRequests := Function.update h.peer.pendingRequests r.id none } })
            pure true
  if sent ∧ r.event ≠ signalerEvent then
    guarded .onRequestHandler (modify fun h =>
      if h.hasHandler then { h with handled := h.handled ++ [(r.event, r.payload)] } else h)
  pure sent

/-- The sender under the id of the reply reaches a call that has not returned. -/
def Reaches (h : ReplyHandling) (r : Request) : Prop :=
  ∃ k c, h.peer.pendingRequests r.id = some k ∧ h.peer.calls[k]? = some c ∧
    ∀ result, c.state ≠ .returned result

theorem send_eq_none_iff (r : Request) (k : Nat) (h : ReplyHandling) :
    h.send r k = none ↔ ∀ c, h.peer.calls[k]? = some c → ∃ result, c.state = .returned result := by
  unfold send
  cases h.peer.calls[k]? with
  | none => exact iff_of_true rfl fun c impossible => by cases impossible
  | some c =>
      obtain ⟨req, state, events⟩ := c
      cases state with
      | returned result =>
          refine iff_of_true rfl fun c same => ?_
          cases same
          exact ⟨result, rfl⟩
      | _ =>
          refine iff_of_false (Option.some_ne_none _) fun all => ?_
          obtain ⟨result, same⟩ := all _ rfl
          cases same

theorem handleRequest_free_iff (signalerEvent : String) (r : Request) (h : ReplyHandling) :
    (∀ lock, handleRequest signalerEvent r [] h ≠ .waits lock) ↔ ¬ h.Reaches r := by
  unfold handleRequest Reaches
  rw [bind_run, guarded_free List.not_mem_nil]
  simp only [get_bind]
  cases found : h.peer.pendingRequests r.id with
  | none =>
      refine iff_of_true (fun lock waits => ?_) (fun ⟨k, _, impossible, _⟩ => by cases impossible)
      simp only [pure_run] at waits
      split at waits
      · cases waits
      · cases waits
  | some k =>
      simp only
      cases sent : h.send r k with
      | none =>
          have returned := (send_eq_none_iff r k h).mp sent
          refine iff_of_true (fun lock waits => by cases waits) fun ⟨j, c, same, call, waiting⟩ => ?_
          cases same
          obtain ⟨result, ended⟩ := returned c call
          exact waiting result ended
      | some h' =>
          refine iff_of_false (fun free => free .pendingRequests ?_) fun unreached => ?_
          · simp only [modify_bind, guarded_bind_held (List.mem_singleton_self _)]
          · have returned : h.send r k = none := (send_eq_none_iff r k h).mpr fun c call => by
              by_contra never
              exact unreached ⟨k, c, rfl, call, fun result ended => never ⟨result, ended⟩⟩
            cases returned.symm.trans sent

end ReplyHandling

inductive ReceiverLock where
  | upTracks
  | buffers
  | available
  | downTracks (layer : Fin 3)
  | pendingTracks (layer : Fin 3)
  | trackType (t : Nat)
  deriving DecidableEq

/-- The tables of a receiver; a track and a buffer are named by numbers. -/
structure UpTracks where
  closed : Bool := false
  isSimulcast : Bool
  upTracks : Fin 3 → Option Nat := fun _ => none
  buffers : Fin 3 → Option Nat := fun _ => none
  layers : SimulcastReceiver

namespace UpTracks

/-- The layer of a RID: quarter, half or full resolution. -/
def layerOf (rid : String) : Fin 3 := if rid = "f" then 2 else if rid = "h" then 1 else 0

def onLayers (f : SimulcastReceiver → SimulcastReceiver) (u : UpTracks) : UpTracks :=
  { u with layers := f u.layers }

/-- `switch_down_track`. -/
def switchDownTrack (t : Nat) (layer : Fin 3) : Locked ReceiverLock UpTracks Unit := do
  let u ← get
  if u.closed then pure ()
  else
    let open' ← guarded .available (do return (← get).layers.available layer)
    if open' then
      modify (onLayers fun g => { g with pending := Function.update g.pending layer true })
      guarded (.pendingTracks layer) (modify (onLayers fun g =>
        { g with pendingTracks := Function.update g.pendingTracks layer (g.pendingTracks layer ++ [t]) }))

/-- `switch_spatial_layer`, whose receiver answers an error always. -/
def switchSpatialLayer (target : Fin 3) (t : Nat) : Locked ReceiverLock UpTracks Unit :=
  guarded (.trackType t) do
    let u ← get
    match u.layers.tracks[t]? with
    | none => pure ()
    | some track =>
        if track.currentSpatialLayer ≠ track.targetSpatialLayer ∨ track.currentSpatialLayer = target then pure ()
        else switchDownTrack t target

/-- The tracks of each of some layers are switched under the lock of their layer. -/
def switchLayers (target : Fin 3) (layers : List (Fin 3)) : Locked ReceiverLock UpTracks Unit :=
  forEach layers fun layer => guarded (.downTracks layer) do
    let u ← get
    forEach (u.layers.downTracks layer) (switchSpatialLayer target)

def subBestQuality (target : Fin 3) : Locked ReceiverLock UpTracks Unit :=
  switchLayers target ((List.finRange 3).filter fun layer => layer < target)

def subLowestQuality (target : Fin 3) : Locked ReceiverLock UpTracks Unit :=
  switchLayers target ((List.finRange 3).filter fun layer => target < layer).reverse

/-- Whether a layer is available, under its lock. -/
def isAvailable (layer : Fin 3) : Locked ReceiverLock UpTracks Bool :=
  guarded .available (do return (← get).layers.available layer)

/-- `add_up_track`; the three guards are alive while the tracks are switched. -/
def addUpTrack (rid : String) (track buffer : Nat) (bestQualityFirst : Bool) :
    Locked ReceiverLock UpTracks (Option (Fin 3)) := do
  let u ← get
  if u.closed then pure none
  else
    let layer := layerOf rid
    guarded .upTracks do
      modify fun u => { u with upTracks := Function.update u.upTracks layer (some track) }
      guarded .buffers do
        modify fun u => { u with buffers := Function.update u.buffers layer (some buffer) }
        guarded .available do
          modify (onLayers fun g => { g with available := Function.update g.available layer true })
          if u.isSimulcast then
            if bestQualityFirst then
              if (← isAvailable 2) ∨ layer = 2 then subBestQuality layer
            else if (← isAvailable 0) ∨ layer = 0 then subLowestQuality layer
          pure (some layer)

theorem addUpTrack_free_iff (rid : String) (track buffer : Nat) (bestQualityFirst : Bool) (u : UpTracks) :
    (∀ lock, addUpTrack rid track buffer bestQualityFirst [] u ≠ .waits lock) ↔
      u.closed = true ∨ u.isSimulcast = false := by
  unfold addUpTrack
  rw [get_bind]
  cases closed : u.closed with
  | true =>
      refine iff_of_true (fun lock waits => ?_) (Or.inl rfl)
      cases waits
  | false =>
      simp only [Bool.false_eq_true, if_false, false_or]
      have second : ReceiverLock.buffers ∉ [ReceiverLock.upTracks] := by decide
      have third : ReceiverLock.available ∉ [ReceiverLock.buffers, ReceiverLock.upTracks] := by decide
      rw [guarded_free List.not_mem_nil, modify_bind, guarded_free second, modify_bind, guarded_free third,
        modify_bind]
      cases simulcast : u.isSimulcast with
      | false =>
          refine iff_of_true (fun lock waits => ?_) rfl
          cases waits
      | true =>
          refine iff_of_false (fun free => free .available ?_) Bool.false_ne_true.symm
          -- both orders of quality ask first whether a layer is available
          cases bestQualityFirst with
          | true => rfl
          | false => rfl

end UpTracks

/-- The three calls wait for no lock of their own, under exactly these conditions. -/
theorem own_locks_iff (crates : RtpCrates) (params : RtpParameters) (maxBitrate : UInt64) (b : Buffer)
    (signalerEvent : String) (r : Request) (h : ReplyHandling) (rid : String) (track buffer : Nat)
    (bestQualityFirst : Bool) (u : UpTracks) :
    ((∀ lock, Binding.bind crates params maxBitrate [] ⟨b, []⟩ ≠ .waits lock) ↔
      b.pendingPackets = [] ∨ params.codecs = []) ∧
    (Binding.Completes crates params maxBitrate b ↔ b.pendingPackets = [] ∧ params.codecs ≠ []) ∧
    ((∀ lock, ReplyHandling.handleRequest signalerEvent r [] h ≠ .waits lock) ↔ ¬ h.Reaches r) ∧
    ((∀ lock, UpTracks.addUpTrack rid track buffer bestQualityFirst [] u ≠ .waits lock) ↔
      u.closed = true ∨ u.isSimulcast = false) :=
  ⟨Binding.bind_free_iff crates params maxBitrate ⟨b, []⟩, Binding.completes_iff crates params maxBitrate b,
    ReplyHandling.handleRequest_free_iff signalerEvent r h,
    UpTracks.addUpTrack_free_iff rid track buffer bestQualityFirst u⟩

/-- A packet that came before `bind`: `calc` waits for the lock of `bind`. -/
theorem bind_waits_for_itself :
    Binding.bind bareCrates ⟨[], [⟨"audio/opus", 48000, "", []⟩]⟩ 0 []
      ⟨{ Buffer.new 1 with pendingPackets := [⟨0, (bareArrival 5).pkt⟩] }, []⟩ = .waits .buffer := by
  rw [Binding.bind_run_eq]
  rfl

end Rsfu
