import UniformIter.Failure

/-!
# Sinks

A sink is where output goes. It answers each offer of bytes on its own: it takes some of them,
or it fails. The writer offers what is left until nothing is, tries again after an
interruption, and gives up at any other failure and when nothing was taken. Only then does it
ask the sink to flush.
-/

namespace UniformIter

/-- The answer of a sink to an offer of bytes. -/
inductive Reply where
  /-- It takes as many bytes as this, or all of them if there are fewer. -/
  | takes (count : Nat)
  | fails (fault : IoFault)
  deriving Repr, DecidableEq

/-- What a sink is asked to do. -/
inductive SinkCall where
  | write (offered : List UInt8)
  | flush
  deriving Repr, DecidableEq

/-- How a series of offers ends. -/
inductive Ending where
  | complete
  | failed (fault : IoFault)
  /-- There were no more answers. -/
  | unfinished
  deriving Repr, DecidableEq

/-- A series of offers: the calls, the bytes that were taken, and its ending. -/
structure Transfer where
  calls : List SinkCall
  accepted : List UInt8
  ending : Ending
  deriving Repr, DecidableEq

/-- A transfer behind a call that took some bytes. -/
def Transfer.behind (call : SinkCall) (taken : List UInt8) (t : Transfer) : Transfer :=
  ⟨call :: t.calls, taken ++ t.accepted, t.ending⟩

/-- Offers bytes to a sink that gives these answers. -/
def transfer : List Reply → List UInt8 → Transfer
  | _, [] => ⟨[], [], .complete⟩
  | [], _ :: _ => ⟨[], [], .unfinished⟩
  | reply :: more, b :: bs =>
    let bytes := b :: bs
    match reply with
    | .takes 0 => ⟨[.write bytes], [], .failed .nothingTaken⟩
    | .takes n => (transfer more (bytes.drop n)).behind (.write bytes) (bytes.take n)
    | .fails .interrupted => (transfer more bytes).behind (.write bytes) []
    | .fails f => ⟨[.write bytes], [], .failed f⟩

/-- Where output goes: the answers to the first offers, the answer to every later one, and the
failure of a flush. -/
structure Sink where
  replies : List Reply
  after : Reply
  flushFault : Option IoFault
  deriving Repr, DecidableEq

/-- The answers of a sink to whatever offers it takes to write this many bytes. -/
def Sink.answers (s : Sink) (count : Nat) : List Reply := s.replies ++ List.replicate count s.after

/-- What became of output: the calls, the bytes that were taken, and the failure, if any. -/
structure Delivery where
  calls : List SinkCall
  accepted : List UInt8
  fault : Option IoFault
  deriving Repr, DecidableEq

/-- The delivery of nothing. -/
def Delivery.none : Delivery := ⟨[], [], .none⟩

/-- How often the sink was asked to flush. -/
def Delivery.flushes (d : Delivery) : Nat := d.calls.count .flush

/-- Writes bytes to a sink and has it flush once it has taken all of them. -/
def Sink.deliver (s : Sink) (bytes : List UInt8) : Delivery :=
  let t := transfer (s.answers bytes.length) bytes
  match t.ending with
  | .complete => ⟨t.calls ++ [.flush], t.accepted, s.flushFault⟩
  | .failed f => ⟨t.calls, t.accepted, some f⟩
  -- Every answer takes a byte or ends the transfer, unless it is an interruption.
  | .unfinished => ⟨t.calls, t.accepted, some .interrupted⟩

/-- A sink that takes so many bytes at a time and so many in all, after some interruptions.
Once it is full it fails, or takes nothing. One with a limit that takes nothing at a time is
full from the start. -/
def Sink.bounded (chunk limit : Option Nat) (interruptions : Nat)
    (fault flushFault : Option IoFault) : Sink :=
  let interrupted := List.replicate interruptions (.fails .interrupted)
  let full : Reply :=
    match fault with
    | some f => .fails f
    | none => .takes 0
  let portion := chunk.getD (Nat.pow 2 64)
  match limit with
  | none => ⟨interrupted, .takes portion, flushFault⟩
  | some room =>
    let portions : List Reply :=
      if portion = 0 then []
      else
        List.replicate (room / portion) (.takes portion) ++
          if room % portion = 0 then [] else [.takes (room % portion)]
    ⟨interrupted ++ portions, full, flushFault⟩

end UniformIter
