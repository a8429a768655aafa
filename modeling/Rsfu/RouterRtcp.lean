import Rsfu.Bucket
import Mathlib.Data.List.Basic

/-! Futures as suspended effects. Calling an async function only builds one; its
effect happens when it is polled to the end, and never when it is dropped. -/
namespace LazyFuture

structure Future (σ α : Type*) where
  poll : σ → σ × α

variable {σ α β : Type*}

/-- The effect of a future that is awaited or spawned. -/
def Future.await (f : Future σ α) (s : σ) : σ := (f.poll s).1

/-- The effect of a future that is dropped. -/
def Future.discard (_ : Future σ α) (s : σ) : σ := s

/-- A future whose effect is to record one value. -/
def recording (answer : α) (value : β) : Future (List β) α := ⟨fun log => (log ++ [value], answer)⟩

/-- One future for each value, awaited in order. -/
def awaitAll (f : β → Future σ α) (values : List β) (s : σ) : σ := values.foldl (fun s value => (f value).await s) s

@[simp] theorem discard_eq (f : Future σ α) (s : σ) : f.discard s = s := rfl

@[simp] theorem await_recording (answer : α) (value : β) (log : List β) :
    (recording answer value).await log = log ++ [value] := rfl

theorem awaitAll_recording (answer : α) (values log : List β) :
    awaitAll (recording answer) values log = log ++ values := by
  induction values generalizing log with
  | nil => exact (List.append_nil log).symm
  | cons value rest ih =>
      refine (ih (log ++ [value])).trans ?_
      rw [List.append_assoc]
      rfl

end LazyFuture

/-! The two places where RTCP is handed to a handler: the loop of `send_rtcp`
that feeds the publisher's writer, and `write` of the RTCP reader. A handler is
a function to a future, and each future is run or dropped as in the source. -/
namespace Rsfu
open LazyFuture

inductive RtcpIoError where
  | errIoEof
  deriving DecidableEq, Repr

/-- The effects of the handler futures of a reader are the packets they were run on. -/
abbrev OnPacketFn := Bytes → Future (List Bytes) (Except RtcpIoError Unit)

structure RtcpReader where
  closed : Bool := false
  onPacketHandler : Option OnPacketFn := none

def RtcpReader.onPacket (r : RtcpReader) (f : OnPacketFn) : RtcpReader := { r with onPacketHandler := some f }

/-- The future returned by the handler is a statement of its own: it is dropped. -/
def RtcpReader.write (r : RtcpReader) (p : Bytes) (handled : List Bytes) :
    List Bytes × Except RtcpIoError UInt32 :=
  if r.closed then (handled, .error .errIoEof)
  else
    match r.onPacketHandler with
    | some f => ((f p).discard handled, .ok 9)
    | none => (handled, .ok 9)

variable {V : Type}

/-- The writer's futures act on the peer connection: the vectors written to it. -/
abbrev RtcpWriterFn (V : Type) := V → Future (List V) (Except Unit Unit)

/-- The writer installed by `on_track`: the async block calls `pc.write_rtcp`. -/
def pcWriter (answer : Except Unit Unit) : RtcpWriterFn V := recording answer

/-- The channels of a router, its writer, and what was written to the peer connection. -/
structure RouterRtcp (V : Type) where
  rtcpChannel : List V := []
  stopChannel : Nat := 0
  rtcpWriterHandler : Option (RtcpWriterFn V) := none
  stopped : Bool := false
  written : List V := []

namespace RouterRtcp

def setRtcpWriter (g : RouterRtcp V) (writer : RtcpWriterFn V) : RouterRtcp V :=
  { g with rtcpWriterHandler := some writer }

/-- The branch of the loop that takes a vector: the future of the writer is dropped. -/
def handleData (g : RouterRtcp V) (val : V) : RouterRtcp V :=
  match g.rtcpWriterHandler with
  | some f => { g with written := (f val).discard g.written }
  | none => g

/-- The branch of the loop that is ready and picked; `none` when it is not ready. -/
def recvData (g : RouterRtcp V) : Option (RouterRtcp V × V) :=
  match g.stopped, g.rtcpChannel with
  | false, val :: rest => some ({ g with rtcpChannel := rest }.handleData val, val)
  | _, _ => none

def recvStop (g : RouterRtcp V) : Option (RouterRtcp V) :=
  match g.stopped, g.stopChannel with
  | false, n + 1 => some { g with stopChannel := n, stopped := true }
  | _, _ => none

end RouterRtcp

end Rsfu
