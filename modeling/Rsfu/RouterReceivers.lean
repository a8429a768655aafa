import Rsfu.ArrivalReport
import Rsfu.BitrateWindows
import Rsfu.Interning
import Rsfu.OwnLocks
import Rsfu.TaskTable

/-! How tracks come into a router. Each remote track of a publisher is handed to `add_receiver`.
Its calls run side by side up to the list of receivers, which the rest of a call holds. Tracks of
one id share a receiver, tracks of one ssrc a buffer, and all video tracks one responder. -/
namespace Rsfu
open Interning

/-- A remote track, with the parameters of the transport's receiver it came by. -/
structure UpTrack where
  ssrc : UInt32
  kind : CodecType
  rid : String := ""
  id : String
  parameters : RtpParameters

/-- A receiver of the router. Its buffers are named by their numbers in the factory. -/
structure RouterReceiver where
  trackId : String
  isSimulcast : Bool
  upTracks : Fin 3 → Option UpTrack := fun _ => none
  buffers : Fin 3 → Option Nat := fun _ => none
  available : Fin 3 → Bool := fun _ => false

def RouterReceiver.new (t : UpTrack) : RouterReceiver where
  trackId := t.id
  isSimulcast := t.rid ≠ ""

/-- What `add_up_track` writes before it looks whether the receiver is a simulcast one. -/
def RouterReceiver.addUpTrack (r : RouterReceiver) (t : UpTrack) (b : Nat) : RouterReceiver :=
  let layer := UpTracks.layerOf t.rid
  { r with
    upTracks := Function.update r.upTracks layer (some t)
    buffers := Function.update r.buffers layer (some b)
    available := Function.update r.available layer true }

/-- How far `add_receiver` has come, with the numbers of its buffer and its receiver. At `switching`
the call asks for `available` of a simulcast receiver again while it has it, and never goes on. -/
inductive AddReceiverPoint where
  | entered
  | feedback (b : Nat)
  | audioLevel (b : Nat)
  | responder (b : Nat)
  | newResponder (b : Nat)
  | transportWideCc (b : Nat)
  | rtcpReader (b : Nat)
  | receivers (b : Nat)
  | upTrack (b r : Nat) (publish : Bool)
  | switching (b r : Nat) (publish : Bool)
  | binding (b r : Nat) (publish : Bool)
  | returned (b r : Nat) (publish : Bool)
  | panicked (b r : Nat) (publish : Bool)
  deriving DecidableEq, Repr

/-- Where the handlers of the kind of track are set. -/
def AddReceiverPoint.handlers (b : Nat) : CodecType → AddReceiverPoint
  | .audio => .audioLevel b
  | .video => .responder b
  | .unspecified => .rtcpReader b

/-- The call holds the list of receivers, which a panic gives back. -/
def AddReceiverPoint.holdsReceivers : AddReceiverPoint → Bool
  | .upTrack _ _ _ | .switching _ _ _ | .binding _ _ _ => true
  | _ => false

structure AddReceiver where
  track : UpTrack
  point : AddReceiverPoint := .entered

/-- A router. The reader of an ssrc hands sender reports to the buffer in `rtcpReaders`, and each
loop of `readLoops` writes what it reads to one buffer. The packets read, those the forwarding tasks
have read on from a buffer, the transport-wide numbers the buffers announced, and those of them that
were announced before the last responder was made are histories. -/
structure RouterReceivers where
  calls : List AddReceiver := []
  buffers : List Buffer := []
  rtcpReaders : UInt32 → Option Nat := fun _ => none
  receivers : List RouterReceiver := []
  twcc : Option Responder := none
  writeLoops : List (Nat × Fin 3) := []
  readLoops : List Nat := []
  rtcpChannel : List (List Feedback) := []
  reads : List (Nat × Bytes × Int) := []
  forwarded : List (Nat × ExtPacket) := []
  numbers : List (UInt16 × Int) := []
  lost : List (UInt16 × Int) := []

/-- Calls start and go on, loops read packets, and forwarding tasks read them on from the buffers.
The sender ssrc of a new responder is random. -/
inductive RouterEvent where
  | addReceiver (t : UpTrack)
  | resume (k : Nat) (sSsrc : UInt32)
  | read (i : Nat) (clock : ClockReads) (pkt : Bytes)
  | readExtended (i : Nat)

namespace RouterReceivers
variable (crates : RtpCrates) (maxBandwidth : UInt64)

def receiversLocked (g : RouterReceivers) : Bool := g.calls.any fun c => c.point.holdsReceivers

/-- The setters of handlers take the lock of the buffer. -/
def onBuffer (g : RouterReceivers) (b : Nat) (f : Buffer → Buffer) : Option RouterReceivers :=
  g.buffers[b]?.map fun buffer => { g with buffers := g.buffers.set b (f buffer) }

/-- The calls of `calc` to the handlers. No session has an audio observer. -/
def handle (g : RouterReceivers) : BufferEvent → RouterReceivers
  | .transportWideCc sn timeNs _ => {
      g with
      twcc := g.twcc.map fun r => r.push sn timeNs
      numbers := g.numbers ++ [(sn, timeNs)] }
  | .audioLevel _ => g
  | .feedback pkts => { g with rtcpChannel := g.rtcpChannel ++ [pkts] }

/-- The call goes on to its next await. -/
def resumeCall (g : RouterReceivers) (t : UpTrack) (sSsrc : UInt32) :
    AddReceiverPoint → Option (RouterReceivers × AddReceiverPoint)
  | .entered =>
      let (buffers, b, _) := intern Buffer.mediaSsrc g.buffers t.ssrc (.new t.ssrc)
      some ({ g with buffers }, .feedback b)
  | .feedback b =>
      (g.onBuffer b fun buffer => { buffer with onFeedbackCallback := true }).map fun g => (g, .handlers b t.kind)
  | .audioLevel b =>
      (g.onBuffer b fun buffer => { buffer with onAudioLevel := true }).map fun g => (g, .rtcpReader b)
  | .responder b => some (g, if g.twcc.isNone then .newResponder b else .transportWideCc b)
  | .newResponder b =>
      some ({ g with twcc := some (.new t.ssrc sSsrc), lost := g.numbers }, .transportWideCc b)
  | .transportWideCc b =>
      (g.onBuffer b fun buffer => { buffer with onTransportWideCc := true }).map fun g => (g, .rtcpReader b)
  | .rtcpReader b => some ({ g with rtcpReaders := Function.update g.rtcpReaders t.ssrc (some b) }, .receivers b)
  | .receivers b =>
      if g.receiversLocked then none
      else
        let (receivers, r, publish) := intern RouterReceiver.trackId g.receivers t.id (.new t)
        some ({ g with receivers }, .upTrack b r publish)
  | .upTrack b r publish => g.receivers[r]?.map fun receiver =>
      let receivers := g.receivers.set r (receiver.addUpTrack t b)
      if receiver.isSimulcast then ({ g with receivers }, .switching b r publish)
      else
        ({ g with receivers, writeLoops := g.writeLoops ++ [(r, UpTracks.layerOf t.rid)] }, .binding b r publish)
  | .switching _ _ _ => none
  | .binding b r publish =>
      -- bind takes the first codec, whether there is one or not
      if t.parameters.codecs = [] then some (g, .panicked b r publish)
      else g.buffers[b]?.bind fun buffer => (buffer.bind crates t.parameters maxBandwidth).map fun buffer =>
        ({ g with buffers := g.buffers.set b buffer, readLoops := g.readLoops ++ [b] }, .returned b r publish)
  | .returned _ _ _ => none
  | .panicked _ _ _ => none

def step (g : RouterReceivers) : RouterEvent → Option RouterReceivers
  | .addReceiver t => some { g with calls := g.calls ++ [{ track := t }] }
  | .resume k sSsrc => g.calls[k]?.bind fun c =>
      (g.resumeCall crates maxBandwidth c.track sSsrc c.point).map fun (g', point) =>
        { g' with calls := g.calls.set k { c with point } }
  | .read i clock pkt => g.readLoops[i]?.bind fun b => g.buffers[b]?.bind fun buffer =>
      (buffer.write crates clock pkt).map fun (buffer, c) => {
        (c.elim [] Buffer.Calc.events).foldl handle g with
        buffers := g.buffers.set b buffer
        reads := g.reads ++ [(b, pkt, (clock.subsecNanos : Int))] }
  | .readExtended i => g.writeLoops[i]?.bind fun (r, layer) => g.receivers[r]?.bind fun receiver =>
      (receiver.buffers layer).bind fun b => g.buffers[b]?.bind fun buffer =>
        match buffer.extPackets with
        | [] => none
        | ep :: rest => some {
            g with
            buffers := g.buffers.set b { buffer with extPackets := rest }
            forwarded := g.forwarded ++ [(b, ep)] }

/-- What the call does on its way to the next await. -/
inductive Resumes (g : RouterReceivers) (t : UpTrack) :
    AddReceiverPoint → RouterReceivers → AddReceiverPoint → Prop where
  | entered : Resumes g t .entered { g with buffers := (intern Buffer.mediaSsrc g.buffers t.ssrc (.new t.ssrc)).1 }
      (.feedback (intern Buffer.mediaSsrc g.buffers t.ssrc (.new t.ssrc)).2.1)
  | feedback {b : Nat} {buffer : Buffer} (found : g.buffers[b]? = some buffer) :
      Resumes g t (.feedback b) { g with buffers := g.buffers.set b { buffer with onFeedbackCallback := true } }
        (.handlers b t.kind)
  | audioLevel {b : Nat} {buffer : Buffer} (found : g.buffers[b]? = some buffer) :
      Resumes g t (.audioLevel b) { g with buffers := g.buffers.set b { buffer with onAudioLevel := true } }
        (.rtcpReader b)
  | shared {b : Nat} (there : g.twcc.isSome = true) : Resumes g t (.responder b) g (.transportWideCc b)
  | missing {b : Nat} (absent : g.twcc = none) : Resumes g t (.responder b) g (.newResponder b)
  | newResponder {b : Nat} (sSsrc : UInt32) :
      Resumes g t (.newResponder b) { g with twcc := some (.new t.ssrc sSsrc), lost := g.numbers }
        (.transportWideCc b)
  | transportWideCc {b : Nat} {buffer : Buffer} (found : g.buffers[b]? = some buffer) :
      Resumes g t (.transportWideCc b) { g with buffers := g.buffers.set b { buffer with onTransportWideCc := true } }
        (.rtcpReader b)
  | rtcpReader {b : Nat} : Resumes g t (.rtcpReader b)
      { g with rtcpReaders := Function.update g.rtcpReaders t.ssrc (some b) } (.receivers b)
  | receivers {b : Nat} (free : g.receiversLocked = false) : Resumes g t (.receivers b)
      { g with receivers := (intern RouterReceiver.trackId g.receivers t.id (.new t)).1 }
      (.upTrack b (intern RouterReceiver.trackId g.receivers t.id (.new t)).2.1
        (intern RouterReceiver.trackId g.receivers t.id (.new t)).2.2)
  | simulcast {b r : Nat} {publish : Bool} {receiver : RouterReceiver} (there : g.receivers[r]? = some receiver)
      (simulcast : receiver.isSimulcast = true) : Resumes g t (.upTrack b r publish)
        { g with receivers := g.receivers.set r (receiver.addUpTrack t b) } (.switching b r publish)
  | upTrack {b r : Nat} {publish : Bool} {receiver : RouterReceiver} (there : g.receivers[r]? = some receiver)
      (single : receiver.isSimulcast = false) : Resumes g t (.upTrack b r publish)
        { g with
          receivers := g.receivers.set r (receiver.addUpTrack t b)
          writeLoops := g.writeLoops ++ [(r, UpTracks.layerOf t.rid)] } (.binding b r publish)
  | noCodec {b r : Nat} {publish : Bool} (none : t.parameters.codecs = []) :
      Resumes g t (.binding b r publish) g (.panicked b r publish)
  | binding {b r : Nat} {publish : Bool} {buffer bound : Buffer} (found : g.buffers[b]? = some buffer)
      (binds : buffer.bind crates t.parameters maxBandwidth = some bound) : Resumes g t (.binding b r publish)
        { g with
          buffers := g.buffers.set b bound
          readLoops := g.readLoops ++ [b] } (.returned b r publish)

section
variable {crates : RtpCrates} {maxBandwidth : UInt64} {g g' : RouterReceivers} {t : UpTrack} {sSsrc : UInt32}
  {point point' : AddReceiverPoint}

theorem onBuffer_eq_some {b : Nat} {f : Buffer → Buffer} (h : g.onBuffer b f = some g') :
    ∃ buffer, g.buffers[b]? = some buffer ∧ g' = { g with buffers := g.buffers.set b (f buffer) } := by
  obtain ⟨buffer, found, same⟩ := Option.map_eq_some_iff.mp h
  exact ⟨buffer, found, same.symm⟩

theorem resumeCall_resumes (h : g.resumeCall crates maxBandwidth t sSsrc point = some (g', point')) :
    Resumes crates maxBandwidth g t point g' point' := by
  cases point with
  | entered =>
      cases h
      exact .entered
  | feedback b =>
      obtain ⟨next, set, same⟩ := Option.map_eq_some_iff.mp h
      cases same
      obtain ⟨buffer, found, rfl⟩ := onBuffer_eq_some set
      exact .feedback found
  | audioLevel b =>
      obtain ⟨next, set, same⟩ := Option.map_eq_some_iff.mp h
      cases same
      obtain ⟨buffer, found, rfl⟩ := onBuffer_eq_some set
      exact .audioLevel found
  | responder b =>
      cases h
      cases twcc : g.twcc with
      | none => exact .missing twcc
      | some r => exact .shared (Option.isSome_iff_exists.mpr ⟨r, twcc⟩)
  | newResponder b =>
      cases h
      exact .newResponder sSsrc
  | transportWideCc b =>
      obtain ⟨next, set, same⟩ := Option.map_eq_some_iff.mp h
      cases same
      obtain ⟨buffer, found, rfl⟩ := onBuffer_eq_some set
      exact .transportWideCc found
  | rtcpReader b =>
      cases h
      exact .rtcpReader
  | receivers b =>
      dsimp only [resumeCall] at h
      split at h
      · cases h
      · rename_i free
        cases h
        exact .receivers (Bool.not_eq_true _ ▸ free)
  | upTrack b r publish =>
      obtain ⟨receiver, there, same⟩ := Option.map_eq_some_iff.mp h
      dsimp only at same
      split at same
      · rename_i simulcast
        cases same
        exact .simulcast there simulcast
      · rename_i single
        cases same
        exact .upTrack there (Bool.eq_false_of_not_eq_true single)
  | switching b r publish => cases h
  | binding b r publish =>
      dsimp only [resumeCall] at h
      split at h
      · rename_i none
        cases h
        exact .noCodec none
      · obtain ⟨buffer, found, h⟩ := Option.bind_eq_some_iff.mp h
        obtain ⟨bound, binds, same⟩ := Option.map_eq_some_iff.mp h
        cases same
        exact .binding found binds
  | returned b r publish => cases h
  | panicked b r publish => cases h

theorem step_cases {e : RouterEvent} (h : g.step crates maxBandwidth e = some g') :
    (∃ t, e = .addReceiver t ∧ g' = { g with calls := g.calls ++ [{ track := t }] }) ∨
      (∃ k sSsrc t before next point, e = .resume k sSsrc ∧ g.calls[k]? = some ⟨t, before⟩ ∧
        Resumes crates maxBandwidth g t before next point ∧ g' = { next with calls := g.calls.set k ⟨t, point⟩ }) ∨
      (∃ i clock pkt b buffer written recorded, e = .read i clock pkt ∧ g.readLoops[i]? = some b ∧
        g.buffers[b]? = some buffer ∧ buffer.write crates clock pkt = some (written, recorded) ∧
        g' = {
          (recorded.elim [] Buffer.Calc.events).foldl handle g with
          buffers := g.buffers.set b written
          reads := g.reads ++ [(b, pkt, (clock.subsecNanos : Int))] }) ∨
      ∃ i b buffer ep rest, e = .readExtended i ∧ g.buffers[b]? = some buffer ∧ buffer.extPackets = ep :: rest ∧
        g' = {
          g with
          buffers := g.buffers.set b { buffer with extPackets := rest }
          forwarded := g.forwarded ++ [(b, ep)] } := by
  cases e with
  | addReceiver t =>
      cases h
      exact Or.inl ⟨t, rfl, rfl⟩
  | resume k sSsrc =>
      obtain ⟨c, found, h⟩ := Option.bind_eq_some_iff.mp h
      obtain ⟨⟨next, point⟩, resumed, same⟩ := Option.map_eq_some_iff.mp h
      cases same
      exact Or.inr (Or.inl ⟨k, sSsrc, c.track, c.point, next, point, rfl, found, resumeCall_resumes resumed, rfl⟩)
  | read i clock pkt =>
      obtain ⟨b, loop, h⟩ := Option.bind_eq_some_iff.mp h
      obtain ⟨buffer, found, h⟩ := Option.bind_eq_some_iff.mp h
      obtain ⟨⟨written, recorded⟩, writes, same⟩ := Option.map_eq_some_iff.mp h
      cases same
      exact Or.inr (Or.inr (Or.inl ⟨i, clock, pkt, b, buffer, written, recorded, rfl, loop, found, writes, rfl⟩))
  | readExtended i =>
      obtain ⟨⟨r, layer⟩, task, h⟩ := Option.bind_eq_some_iff.mp h
      obtain ⟨receiver, there, h⟩ := Option.bind_eq_some_iff.mp h
      obtain ⟨b, has, h⟩ := Option.bind_eq_some_iff.mp h
      obtain ⟨buffer, found, h⟩ := Option.bind_eq_some_iff.mp h
      cases queue : buffer.extPackets with
      | nil =>
          rw [queue] at h
          cases h
      | cons ep rest =>
          rw [queue] at h
          cases h
          exact Or.inr (Or.inr (Or.inr ⟨i, b, buffer, ep, rest, rfl, found, queue, rfl⟩))

/-- What no handler changes, no packet changes. -/
theorem handle_kept {γ : Type*} {f : RouterReceivers → γ} (keeps : ∀ g e, f (handle g e) = f g) (g : RouterReceivers)
    (events : List BufferEvent) : f (events.foldl handle g) = f g := by
  induction events generalizing g with
  | nil => rfl
  | cons e rest ih => exact (ih (g.handle e)).trans (keeps g e)

end

/-- What a buffer was written. -/
def readsOf (g : RouterReceivers) (b : Nat) : List (Bytes × Int) :=
  (g.reads.filter fun one => one.1 = b).map Prod.snd

/-- What was read on from a buffer. -/
def forwardedOf (g : RouterReceivers) (b : Nat) : List ExtPacket :=
  (g.forwarded.filter fun one => one.1 = b).map Prod.snd

end RouterReceivers

/-- A track of one codec. -/
def sentTrack (ssrc : UInt32) (id rid : String) (kind : CodecType) (mimeType : String) : UpTrack where
  ssrc := ssrc
  kind := kind
  rid := rid
  id := id
  parameters := ⟨[], [⟨mimeType, 90000, "", []⟩]⟩

end Rsfu
