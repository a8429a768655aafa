import Rsfu.LockScopes

/-! The mutexes of the server and the scopes in which its calls hold them. Peers, sessions,
routers, receivers, down tracks and buffers are numbered; a publisher's router has the number
of its peer. Waits for the network and for timers end, and are not shown. Waits for a packet are:
they end only when one comes. -/
namespace Rsfu
open LockScopes Scopes

inductive SfuLock where
  | provider | sessions | dataChannels
  | peers (s : Nat) | relayPeers (s : Nat) | fanoutDataChannels (s : Nat) | sessionOnClose (s : Nat)
  | peerId (p : Nat) | peerSession (p : Nat) | subscriber (p : Nat) | publisher (p : Nat)
  | onOffer (p : Nat) | onIceCandidate (p : Nat)
  | mediaEngine (p : Nat) | tracks (p : Nat) | channels (p : Nat) | candidates (p : Nat) | onNegotiate (p : Nat)
  | publisherTracks (q : Nat) | publisherRelayPeers (q : Nat) | publisherCandidates (q : Nat)
  | onIceConnectionStateChange (q : Nat)
  | twcc (q : Nat) | extInfo (q : Nat) | stats (q : Nat) | receivers (q : Nat) | factory (q : Nat)
  | rtcpReceiver (q : Nat) | stopSender (q : Nat) | stopReceiver (q : Nat) | rtcpWriter (q : Nat)
  | onAddReceiverTrack (q : Nat)
  | upTracks (r : Nat) | buffers (r : Nat) | available (r : Nat) | downTracks (r layer : Nat)
  | pendingTracks (r layer : Nat) | receiverOnClose (r : Nat)
  | trackType (d : Nat) | ssrc (d : Nat) | payloadType (d : Nat) | mime (d : Nat) | writeStream (d : Nat)
  | sequencer (d : Nat) | snOffset (d : Nat) | tsOffset (d : Nat) | lastSn (d : Nat) | lastTs (d : Nat)
  | simulcast (d : Nat) | onBind (d : Nat) | downTrackOnClose (d : Nat)
  | buffer (b : Nat) | onTransportWideCc (b : Nat) | onAudioLevel (b : Nat) | onFeedbackCallback (b : Nat)
  | rtcpReader (b : Nat) | onPacket (b : Nat)
  deriving DecidableEq, Repr

namespace SfuLocks
open SfuLock

def maybe (p : Scopes SfuLock) : Scopes SfuLock := .either p .skip

/-- The handler that `join` installs makes an offer and hands it to `on_offer`. -/
def negotiate (p : Nat) : Scopes SfuLock := .hold (onNegotiate p) (touch (onOffer p))

/-- The channel is looked up, and inserted if it is new. -/
def addDataChannel2 (p : Nat) : Scopes SfuLock := block [touch (channels p), touch (channels p)]

/-- `Subscriber::set_remote_description` reads the candidates and clears them. -/
def flushCandidates (p : Nat) : Scopes SfuLock := block [touch (candidates p), touch (candidates p)]

def getDataChannels (s : Nat) : Scopes SfuLock :=
  .hold (peers s) (.each fun v => block [touch (subscriber v), touch (channels v)])

/-- `add_down_track` of a receiver. -/
def storeDownTrack (r : Nat) : Scopes SfuLock :=
  block [maybe (touch (available r)), .each fun layer => touch (downTracks r layer), maybe (touch (upTracks r)),
    .each fun d => touch (trackType d), .each fun layer => touch (downTracks r layer)]

/-- `add_down_track` of a router, for subscriber `p` and receiver `r`. -/
def addDownTrack (p r : Nat) : Scopes SfuLock :=
  block [touch (tracks p), touch (mediaEngine p), .each fun d => touch (downTrackOnClose d),
    .each fun d => touch (onBind d), touch (tracks p), storeDownTrack r]

def addDownTracks (q p : Nat) : Scopes SfuLock :=
  block [maybe (touch (receivers q)), .each fun r => addDownTrack p r, negotiate p]

/-- `subscribe` keeps its two guards to its end. -/
def subscribe (s p : Nat) : Scopes SfuLock :=
  .hold (fanoutDataChannels s) (block [
    .each fun _ => block [touch (subscriber p), addDataChannel2 p, touch (peerId p), getDataChannels s],
    .hold (peers s) (block [
      .each fun c => block [touch (peerId c), touch (peerId p), touch (publisher c), touch (peerId c),
        touch (peerId p), touch (publisher c), touch (subscriber p), addDownTracks c p],
      touch (subscriber p), negotiate p])])

/-- A session that is new is given its close handler and inserted. -/
def getSession (s : Nat) : Scopes SfuLock := block [touch sessions, touch (sessionOnClose s), touch sessions]

/-- `join` keeps the provider to its end, and the peer's id while it makes a transport. -/
def join (s p : Nat) : Scopes SfuLock :=
  block [touch (peerSession p), touch (peerId p), .hold provider (block [
    getSession s, touch (peerSession p),
    maybe (block [touch (peerId p), touch (onNegotiate p), touch (subscriber p)]),
    maybe (block [
      maybe (.hold dataChannels (.each fun _ => .hold (subscriber p) (touch (channels p)))),
      .hold (peerId p) (touch (rtcpWriter p)), touch (onIceConnectionStateChange p), touch (publisher p)]),
    touch (peerId p), touch (peers s), subscribe s p])]

def answer (p : Nat) : Scopes SfuLock :=
  .hold (publisher p) (block [touch (peerId p), touch (publisherCandidates p), touch (peerId p)])

def setRemoteDescription (p : Nat) : Scopes SfuLock :=
  .hold (subscriber p) (block [touch (peerId p), flushCandidates p, negotiate p])

def trickle (p : Nat) : Scopes SfuLock :=
  .hold (subscriber p) (.hold (publisher p) (block [
    touch (peerId p), .either (touch (publisherCandidates p)) (touch (candidates p))]))

/-- `add_up_track` keeps the guards of its three tables to its end; for a simulcast track it
looks the availability up once more. -/
def addUpTrack (simulcast : Bool) (r : Nat) : Scopes SfuLock :=
  .hold (upTracks r) (.hold (buffers r) (.hold (available r) (if simulcast then touch (available r) else .skip)))

/-- `add_receiver` keeps the guard of `receivers` to its end. -/
def addReceiver (simulcast : Bool) (q b r : Nat) : Scopes SfuLock :=
  block [touch (factory q), .hold (buffer b) (touch (onFeedbackCallback b)),
    maybe (.hold (buffer b) (touch (onAudioLevel b))),
    maybe (block [touch (twcc q), touch (twcc q)]), maybe (.hold (buffer b) (touch (onTransportWideCc b))),
    maybe (touch (stats q)), touch (factory q), .hold (rtcpReader b) (touch (onPacket b)),
    .hold (receivers q) (block [
      maybe (block [touch (receiverOnClose r), touch (onAddReceiverTrack q)]), addUpTrack simulcast r,
      touch (buffer b)])]

def publish (s r : Nat) : Scopes SfuLock :=
  block [touch (peers s), .each fun v => block [touch (subscriber v), touch (peerId v), touch (peerId v),
    touch (subscriber v), addDownTrack v r, negotiate v]]

/-- A new track of a publisher. No relay peer is ever inserted. -/
def onTrack (simulcast : Bool) (s q b r : Nat) : Scopes SfuLock :=
  block [addReceiver simulcast q b r, maybe (publish s r), touch (publisherTracks q), touch (publisherRelayPeers q)]

/-- `add_data_channel` of a session, by peer `p`. -/
def addDataChannel (s p : Nat) : Scopes SfuLock :=
  block [getDataChannels s, touch (fanoutDataChannels s), touch (fanoutDataChannels s), touch (peers s),
    touch (subscriber p), maybe (touch (channels p)), touch (peers s),
    .each fun v => block [touch (peerId v), touch (subscriber v), touch (publisher v), touch (subscriber v),
      addDataChannel2 v, negotiate v]]

def removePeer (s p : Nat) : Scopes SfuLock :=
  block [touch (peerId p), .hold (peers s) (block [
    touch (relayPeers s), .hold (sessionOnClose s) (touch sessions)])]

/-- `close_with_parameters`, which a failed ICE connection runs too. -/
def closePublisher (q : Nat) : Scopes SfuLock := .hold (publisherRelayPeers q) (touch (stopSender q))

def close (s p : Nat) : Scopes SfuLock :=
  block [.hold (peerSession p) (removePeer s p), .hold (publisher p) (closePublisher p), touch (subscriber p)]

/-- The close handler of a down track removes it from its subscriber and negotiates. -/
def closeDownTrack (d : Nat) : Scopes SfuLock :=
  .hold (downTrackOnClose d) (.each fun p => block [touch (tracks p), negotiate p])

def writeSimpleRtp (d : Nat) : Scopes SfuLock :=
  block [touch (payloadType d), touch (ssrc d),
    maybe (block [touch (lastSn d), maybe (.hold (snOffset d) (block [
      touch (lastSn d), .hold (tsOffset d) (touch (lastTs d))]))]),
    touch (snOffset d), .hold (tsOffset d) (.hold (sequencer d) (block [
      maybe (.hold (lastSn d) (touch (lastTs d))), touch (writeStream d)]))]

def writeSimulcastRtp (d : Nat) : Scopes SfuLock :=
  block [touch (ssrc d),
    .hold (simulcast d) (block [maybe (touch (mime d)),
      maybe (.either (.hold (tsOffset d) (block [touch (lastTs d), .hold (snOffset d) (touch (lastSn d))]))
        (.hold (lastTs d) (.hold (lastSn d) (touch (mime d)))))]),
    touch (snOffset d), touch (tsOffset d), maybe (block [touch (mime d), touch (simulcast d)]),
    maybe (block [touch (lastSn d), touch (lastTs d)]), touch (simulcast d), touch (payloadType d),
    touch (writeStream d)]

/-- `write_rtp` of a down track, whose type is that of its receiver. -/
def writeDownTrack (simulcast : Bool) (d : Nat) : Scopes SfuLock :=
  .hold (trackType d) (if simulcast then writeSimulcastRtp d else writeSimpleRtp d)

/-- `bind` runs once and before anything is written to its track, so nobody else has the
sequencer and the RTCP reader it takes too. -/
def bind (d : Nat) : Scopes SfuLock :=
  .hold (ssrc d) (.hold (payloadType d) (.hold (writeStream d) (.hold (mime d) (touch (onBind d)))))

/-- `read_extended` looks for a packet again and again until there is one. -/
def readExtended (b : Nat) : Scopes SfuLock :=
  block [touch (buffer b), .each fun _ => block [touch (buffer b), touch (buffer b)], .await, touch (buffer b),
    touch (buffer b)]

/-- A round of `write_rtp` keeps the guard of `buffers`, also while it waits for its packet. On a
simulcast receiver a key frame completes the pending switches of the layer, and any other packet
asks for one. -/
def writeRtp (simulcast : Bool) (r layer : Nat) : Scopes SfuLock :=
  let delete : Scopes SfuLock := .each fun l => .hold (downTracks r l) (.each fun d => closeDownTrack d)
  let switch : Scopes SfuLock := block [touch (pendingTracks r layer),
    .each fun _ => block [delete, touch (downTracks r layer)], touch (pendingTracks r layer)]
  .hold (buffers r) (block [.each fun b => readExtended b,
    if simulcast then maybe (.either switch (touch (upTracks r))) else .skip,
    .hold (downTracks r layer) (.each fun d => writeDownTrack simulcast d), delete])

/-- A packet of buffer `b`, whose handlers report to router `q`. -/
def writeBuffer (q b : Nat) : Scopes SfuLock :=
  block [touch (buffer b), touch (buffer b), .hold (buffer b) (block [
    maybe (.hold (onTransportWideCc b) (.hold (twcc q) (touch (extInfo q)))), maybe (touch (onAudioLevel b)),
    touch (onFeedbackCallback b)])]

/-- A round of `send_rtcp`, which waits for packets to send with the guards of its two channels. -/
def sendRtcp (q : Nat) : Scopes SfuLock :=
  .hold (rtcpReceiver q) (.hold (stopReceiver q) (block [.await, touch (rtcpWriter q)]))

def sendStreamDownTrackReports (p : Nat) : Scopes SfuLock := .hold (tracks p) (.each fun d => touch (ssrc d))

/-- On a simulcast track `switch_spatial_layer` asks the receiver with its guard held. -/
def switchSpatialLayer (d : Nat) : Scopes SfuLock :=
  .hold (trackType d) (maybe (.each fun r => block [touch (available r),
    .each fun layer => touch (pendingTracks r layer)]))

/-- A message on the channel of `Subscriber::add_data_channel`. -/
def processMessage (p : Nat) : Scopes SfuLock :=
  .hold (tracks p) (.each fun d => block [maybe (switchSpatialLayer d), touch (trackType d)])

/-- The signalling server installs its handlers before `join`. -/
def installHandlers (p : Nat) : Scopes SfuLock := block [touch (onOffer p), touch (onIceCandidate p)]

end SfuLocks

/-- What the signalling server, the peer connections and the server's own tasks call. Receivers
of a single layer are added by `onTrack false` and served by `writeRtp false`. -/
inductive SfuCall where
  | installHandlers (p : Nat)
  | iceCandidate (p : Nat)
  | join (s p : Nat)
  | answer (p : Nat)
  | setRemoteDescription (p : Nat)
  | trickle (p : Nat)
  | close (s p : Nat)
  | closePublisher (q : Nat)
  | onTrack (simulcast : Bool) (s q b r : Nat)
  | addDataChannel (s p : Nat)
  | fanoutMessage (s : Nat)
  | processMessage (p : Nat)
  | bind (d : Nat)
  | writeRtp (simulcast : Bool) (r layer : Nat)
  | writeBuffer (q b : Nat)
  | sendRtcp (q : Nat)
  | sendStreamDownTrackReports (p : Nat)

def SfuCall.locks : SfuCall → Scopes SfuLock
  | installHandlers p => SfuLocks.installHandlers p
  | iceCandidate p => touch (.onIceCandidate p)
  | join s p => SfuLocks.join s p
  | answer p => SfuLocks.answer p
  | setRemoteDescription p => SfuLocks.setRemoteDescription p
  | trickle p => SfuLocks.trickle p
  | close s p => SfuLocks.close s p
  | closePublisher q => SfuLocks.closePublisher q
  | onTrack simulcast s q b r => SfuLocks.onTrack simulcast s q b r
  | addDataChannel s p => SfuLocks.addDataChannel s p
  | fanoutMessage s => SfuLocks.getDataChannels s
  | processMessage p => SfuLocks.processMessage p
  | bind d => SfuLocks.bind d
  | writeRtp simulcast r layer => SfuLocks.writeRtp simulcast r layer
  | writeBuffer q b => SfuLocks.writeBuffer q b
  | sendRtcp q => SfuLocks.sendRtcp q
  | sendStreamDownTrackReports p => SfuLocks.sendStreamDownTrackReports p

/-- The call adds or serves a simulcast receiver. -/
def SfuCall.simulcast : SfuCall → Bool
  | onTrack simulcast _ _ _ _ => simulcast
  | writeRtp simulcast _ _ => simulcast
  | _ => false

end Rsfu
