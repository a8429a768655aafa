import Mathlib.Data.List.Pairwise
import Rsfu.RtcpFeedback

/-! What a receiver puts on its RTCP channel. Picture loss indications are held back
for 500 ms after the last one, but only the first packet of a vector is looked at, and
what is decided for it holds for the whole vector. -/
namespace Rsfu
open GuardedRun

inductive ReceiverError where
  | errChannelSend
  deriving DecidableEq, Repr

/-- What `send_rtcp` works on: the milliseconds of the last indication, and the vectors on
the channel with the time each was put there. -/
structure RtcpChannel where
  lastPli : UInt64 := 0
  channelOpen : Bool := true
  sent : List (UInt64 × List RtcpPacket) := []

/-- A call of `send_rtcp` at a time in milliseconds. -/
structure RtcpCall where
  now : UInt64
  packets : List RtcpPacket

namespace RtcpChannel

def put (r : RtcpChannel) (now : UInt64) (p : List RtcpPacket) : RtcpChannel × Except ReceiverError Unit :=
  if r.channelOpen then ({ r with sent := r.sent ++ [(now, p)] }, .ok ()) else (r, .error .errChannelSend)

def sendRtcp (r : RtcpChannel) (now : UInt64) (p : List RtcpPacket) : RtcpChannel × Except ReceiverError Unit :=
  match p.head? with
  | some packet =>
      if packet.isPli then
        if now - r.lastPli < 500 then (r, .ok ())
        else { r with lastPli := now }.put now p
      else r.put now p
  | none => r.put now p

def step (r : RtcpChannel) (call : RtcpCall) : Option RtcpChannel := some (r.sendRtcp call.now call.packets).1

def sendAll (r : RtcpChannel) (calls : List RtcpCall) : RtcpChannel :=
  calls.foldl (fun r call => (r.sendRtcp call.now call.packets).1) r

def others (packets : List RtcpPacket) : List RtcpPacket := packets.filter fun packet => !packet.isPli

/-- The packets other than indications that are on the channel, in order. -/
def delivered (r : RtcpChannel) : List RtcpPacket := others (r.sent.flatMap Prod.snd)

/-- The vectors on the channel with an indication, each with its time. -/
def pliVectors (r : RtcpChannel) : List (UInt64 × List RtcpPacket) := r.sent.filter fun v => v.2.any RtcpPacket.isPli

def Apart (a b : UInt64 × List RtcpPacket) : Prop := a.1.toNat + 500 ≤ b.1.toNat

instance (a b : UInt64 × List RtcpPacket) : Decidable (Apart a b) := inferInstanceAs (Decidable (_ ≤ _))

/-- Vectors with an indication are 500 ms apart, and every other packet is delivered. -/
def Throttles (calls : List RtcpCall) : Prop :=
  (sendAll {} calls).pliVectors.Pairwise Apart ∧
    (sendAll {} calls).delivered = others (calls.flatMap RtcpCall.packets)

instance (calls : List RtcpCall) : Decidable (Throttles calls) := inferInstanceAs (Decidable (_ ∧ _))

def BeginsWithPli (packets : List RtcpPacket) : Prop := packets.head?.any RtcpPacket.isPli = true

instance (packets : List RtcpPacket) : Decidable (BeginsWithPli packets) := inferInstanceAs (Decidable (_ = true))

/-- The call finds the last indication less than 500 ms back. -/
def Held (r : RtcpChannel) (call : RtcpCall) : Prop := BeginsWithPli call.packets ∧ call.now - r.lastPli < 500

instance (r : RtcpChannel) (call : RtcpCall) : Decidable (r.Held call) := inferInstanceAs (Decidable (_ ∧ _))

/-- A vector that is held back has indications only; one with an indication that goes out is
500 ms behind any other with one, unless both begin with theirs. -/
def Even (r : RtcpChannel) (call : RtcpCall) : Prop :=
  if r.Held call then others call.packets = []
  else
    call.packets.any RtcpPacket.isPli = true →
      ∀ v ∈ r.pliVectors, BeginsWithPli v.2 ∧ BeginsWithPli call.packets ∨ Apart v (call.now, call.packets)

instance (r : RtcpChannel) (call : RtcpCall) : Decidable (r.Even call) :=
  inferInstanceAs (Decidable (if r.Held call then _ else _))

theorem sendRtcp_held {r : RtcpChannel} {call : RtcpCall} (held : r.Held call) :
    (r.sendRtcp call.now call.packets).1 = r := by
  obtain ⟨now, packets⟩ := call
  obtain ⟨begins, recent⟩ := held
  cases packets with
  | nil => cases begins
  | cons packet rest =>
      change packet.isPli = true at begins
      unfold sendRtcp
      rw [List.head?_cons]
      dsimp only
      rw [if_pos begins, if_pos recent]

theorem put_open {r : RtcpChannel} (opened : r.channelOpen = true) (now : UInt64) (p : List RtcpPacket) :
    (r.put now p).1 = { r with sent := r.sent ++ [(now, p)] } := by
  unfold put
  rw [if_pos opened]

theorem sendRtcp_goes {r : RtcpChannel} {call : RtcpCall} (opened : r.channelOpen = true) (goes : ¬ r.Held call) :
    (r.sendRtcp call.now call.packets).1 =
      { r with
        lastPli := if BeginsWithPli call.packets then call.now else r.lastPli
        sent := r.sent ++ [(call.now, call.packets)] } := by
  obtain ⟨now, packets⟩ := call
  dsimp only
  unfold sendRtcp
  cases packets with
  | nil => exact put_open opened now []
  | cons packet rest =>
      rw [List.head?_cons]
      dsimp only
      by_cases pli : packet.isPli = true
      · have begins : BeginsWithPli (packet :: rest) := pli
        have still : ({ r with lastPli := now } : RtcpChannel).channelOpen = true := opened
        rw [if_pos pli, if_neg fun recent => goes ⟨pli, recent⟩, put_open still, if_pos begins]
      · have begins : ¬ BeginsWithPli (packet :: rest) := pli
        rw [if_neg pli, put_open opened, if_neg begins]

/-- What is on the channel stays there, and no call delivers more than it was given. -/
theorem sendAll_appends {r : RtcpChannel} (opened : r.channelOpen = true) (calls : List RtcpCall) :
    ∃ more, (r.sendAll calls).sent = r.sent ++ more ∧
      (others (more.flatMap Prod.snd)).length ≤ (others (calls.flatMap RtcpCall.packets)).length := by
  induction calls generalizing r with
  | nil => exact ⟨[], (List.append_nil _).symm, Nat.le_refl _⟩
  | cons call rest ih =>
      have given : others ((call :: rest).flatMap RtcpCall.packets) =
          others call.packets ++ others (rest.flatMap RtcpCall.packets) := List.filter_append ..
      rw [given, List.length_append]
      by_cases held : r.Held call
      · obtain ⟨more, appended, fewer⟩ := ih opened
        refine ⟨more, ?_, fewer.trans (Nat.le_add_left _ _)⟩
        change (sendAll (r.sendRtcp call.now call.packets).1 rest).sent = _
        rw [sendRtcp_held held, appended]
      · obtain ⟨more, appended, fewer⟩ := ih (r := (r.sendRtcp call.now call.packets).1) (by
          rw [sendRtcp_goes opened held]
          exact opened)
        refine ⟨(call.now, call.packets) :: more, ?_, ?_⟩
        · change (sendAll (r.sendRtcp call.now call.packets).1 rest).sent = _
          rw [appended, sendRtcp_goes opened held, List.append_assoc]
          rfl
        · rw [List.flatMap_cons, others, List.filter_append, List.length_append]
          exact Nat.add_le_add_left fewer _

/-- The vectors on the channel are of times gone by, those that begin with an indication
of times up to the last one noted. -/
structure Timely (r : RtcpChannel) (now : UInt64) : Prop where
  opened : r.channelOpen = true
  noted : r.lastPli ≤ now
  begun : ∀ v ∈ r.sent, BeginsWithPli v.2 → v.1 ≤ r.lastPli

theorem Timely.later {r : RtcpChannel} {now later : UInt64} (timely : r.Timely now) (le : now ≤ later) :
    r.Timely later := ⟨timely.opened, UInt64.le_trans timely.noted le, timely.begun⟩

theorem Timely.send {r : RtcpChannel} {call : RtcpCall} (timely : r.Timely call.now) :
    (r.sendRtcp call.now call.packets).1.Timely call.now := by
  by_cases held : r.Held call
  · rw [sendRtcp_held held]
    exact timely
  · rw [sendRtcp_goes timely.opened held]
    refine ⟨timely.opened, ?_, ?_⟩
    · dsimp only
      split
      · exact UInt64.le_refl _
      · exact timely.noted
    · intro v among begins
      dsimp only
      rcases List.mem_append.mp among with old | new
      · have before := timely.begun v old begins
        split
        · exact UInt64.le_trans before timely.noted
        · exact before
      · obtain rfl := List.mem_singleton.mp new
        rw [if_pos begins]
        exact UInt64.le_refl _

/-- Two vectors that begin with an indication are kept apart by the channel itself. -/
theorem Timely.apart {r : RtcpChannel} {call : RtcpCall} (timely : r.Timely call.now) (goes : ¬ r.Held call)
    (begins : BeginsWithPli call.packets) {v : UInt64 × List RtcpPacket} (among : v ∈ r.sent)
    (before : BeginsWithPli v.2) : Apart v (call.now, call.packets) := by
  have noted := UInt64.le_iff_toNat_le.mp timely.noted
  have begun := UInt64.le_iff_toNat_le.mp (timely.begun v among before)
  have gap : ¬ call.now - r.lastPli < 500 := fun recent => goes ⟨begins, recent⟩
  rw [UInt64.lt_iff_toNat_lt, UInt64.toNat_sub_of_le _ _ timely.noted] at gap
  change ¬ call.now.toNat - r.lastPli.toNat < 500 at gap
  change v.1.toNat + 500 ≤ call.now.toNat
  omega

theorem pliVectors_goes {r : RtcpChannel} {call : RtcpCall} (opened : r.channelOpen = true) (goes : ¬ r.Held call) :
    (r.sendRtcp call.now call.packets).1.pliVectors =
      r.pliVectors ++ if call.packets.any RtcpPacket.isPli then [(call.now, call.packets)] else [] := by
  rw [sendRtcp_goes opened goes, pliVectors, List.filter_append, List.filter_cons, List.filter_nil]
  rfl

theorem delivered_goes {r : RtcpChannel} {call : RtcpCall} (opened : r.channelOpen = true) (goes : ¬ r.Held call) :
    (r.sendRtcp call.now call.packets).1.delivered = r.delivered ++ others call.packets := by
  rw [sendRtcp_goes opened goes, delivered, List.flatMap_append, others, List.filter_append, List.flatMap_singleton]
  rfl

/-- An even call leaves the vectors apart and delivers all it should; another one does neither later. -/
theorem even_iff {r : RtcpChannel} {call : RtcpCall} (timely : r.Timely call.now)
    (paired : r.pliVectors.Pairwise Apart) :
    r.Even call ↔ (r.sendRtcp call.now call.packets).1.pliVectors.Pairwise Apart ∧
      (r.sendRtcp call.now call.packets).1.delivered = r.delivered ++ others call.packets := by
  unfold Even
  by_cases held : r.Held call
  · rw [if_pos held, sendRtcp_held held, and_iff_right paired, List.self_eq_append_right]
  · rw [if_neg held, and_iff_left (delivered_goes timely.opened held), pliVectors_goes timely.opened held]
    by_cases pli : call.packets.any RtcpPacket.isPli = true
    · rw [if_pos pli, List.pairwise_append, and_iff_right paired, and_iff_right (List.pairwise_singleton _ _)]
      constructor
      · intro even v among other last
        obtain rfl := List.mem_singleton.mp last
        rcases even pli v among with ⟨before, begins⟩ | apart
        · exact timely.apart held begins (List.mem_of_mem_filter among) before
        · exact apart
      · intro apart _ v among
        exact Or.inr (apart v among _ (List.mem_singleton_self _))
    · rw [if_neg pli, List.append_nil]
      exact iff_of_true (fun met => absurd met pli) paired

theorem sendAll_iff {r : RtcpChannel} {now : UInt64} {calls : List RtcpCall} (timely : r.Timely now)
    (ordered : (now :: calls.map RtcpCall.now).Pairwise (· ≤ ·)) (paired : r.pliVectors.Pairwise Apart) :
    (r.sendAll calls).pliVectors.Pairwise Apart ∧
        (r.sendAll calls).delivered = r.delivered ++ others (calls.flatMap RtcpCall.packets) ↔
      Guarded step Even r calls := by
  induction calls generalizing r now with
  | nil => exact iff_of_true ⟨paired, (List.append_nil _).symm⟩ trivial
  | cons call rest ih =>
      obtain ⟨first, later⟩ := List.pairwise_cons.mp ordered
      have moved := timely.later (first call.now List.mem_cons_self)
      have next := moved.send
      change (sendAll (r.sendRtcp call.now call.packets).1 rest).pliVectors.Pairwise Apart ∧
        (sendAll (r.sendRtcp call.now call.packets).1 rest).delivered = _ ↔ _
      have given : others ((call :: rest).flatMap RtcpCall.packets) =
          others call.packets ++ others (rest.flatMap RtcpCall.packets) := List.filter_append ..
      have guarded : Guarded step Even r (call :: rest) ↔
          r.Even call ∧ Guarded step Even (r.sendRtcp call.now call.packets).1 rest := by
        refine and_congr_right fun _ => ⟨fun all => all _ rfl, fun met s' reached => ?_⟩
        cases reached
        exact met
      rw [guarded, given]
      by_cases even : r.Even call
      · obtain ⟨apart, all⟩ := (even_iff moved paired).mp even
        have tail := ih next later apart
        rw [all, List.append_assoc] at tail
        rw [and_iff_right even]
        exact tail
      · refine iff_of_false (fun both => even ?_) fun met => even met.1
        obtain ⟨more, appended, fewer⟩ := sendAll_appends next.opened rest
        obtain ⟨apart, all⟩ := both
        rw [pliVectors, appended, List.filter_append] at apart
        rw [delivered, appended, List.flatMap_append, others, List.filter_append] at all
        refine (even_iff moved paired).mpr ⟨(List.pairwise_append.mp apart).1, ?_⟩
        by_cases held : r.Held call
        · rw [sendRtcp_held held] at all ⊢
          have rest := congrArg List.length (List.append_cancel_left all)
          rw [List.length_append] at rest
          have nothing : (others call.packets).length = 0 := by
            unfold others at *
            omega
          rw [List.length_eq_zero_iff.mp nothing, List.append_nil]
        · exact delivered_goes moved.opened held

/-- Indications are throttled and nothing else is lost exactly in the runs of even calls. -/
theorem throttles_iff {calls : List RtcpCall} (ordered : (calls.map RtcpCall.now).Pairwise (· ≤ ·)) :
    Throttles calls ↔ Guarded step Even {} calls := by
  have start : Timely {} 0 := ⟨rfl, UInt64.le_refl _, fun v among => absurd among List.not_mem_nil⟩
  have times : (0 :: calls.map RtcpCall.now).Pairwise (· ≤ ·) :=
    List.pairwise_cons.mpr ⟨fun now _ => UInt64.le_iff_toNat_le.mpr (Nat.zero_le _), ordered⟩
  exact sendAll_iff start times List.Pairwise.nil

def pli : RtcpPacket := .pictureLossIndication 1 7

def fir : RtcpPacket := .fullIntraRequest 1 7 [⟨7, 0⟩]

theorem throttles_iff_spaced :
    Throttles [⟨1000, [pli]⟩, ⟨1200, [pli]⟩, ⟨1300, [fir]⟩, ⟨1600, [pli, fir]⟩] :=
  (throttles_iff (by decide)).mpr (by decide +kernel)

/-- Behind a full intra request an indication goes out at once; in front of it, it takes the request along. -/
theorem first_packet_decides :
    ¬ Throttles [⟨1000, [fir, pli]⟩, ⟨1010, [fir, pli]⟩] ∧
      ¬ Throttles [⟨1000, [pli]⟩, ⟨1010, [pli, fir]⟩] := by
  decide +kernel

end RtcpChannel

end Rsfu
