import HttpExchange.Body
import HttpExchange.Outcome.Basic

/-!
# Exchanges

An exchange is one request in progress, with a scripted transport.  Its moments are what happens to
it, whether or not it shows.
-/

namespace HttpExchange

/-- What a scripted transport does. -/
inductive Step where
  | tick (progress : Progress)
  /-- Have progress reported after a delay, whatever the transport does meanwhile. -/
  | lateTick (delay : Nat) (progress : Progress)
  | dropSink
  | sleep (duration : Nat)
  /-- Let everything else that can run go first. -/
  | yield
  | hang
  | abort (request : Nat)
  | respond (response : RawResponse)
  | fail (message : String)

/-- The callback of a send. -/
inductive Listener where
  | absent
  /-- It takes note of the outcomes, and aborts its own request `aborts count outcome` times at
  the `count`-th one. -/
  | attentive (aborts : Nat → Outcome → Nat)

/-- The callback that aborts its own request once, at the `abortOn`-th outcome. -/
def Listener.present (abortOn : Option Nat) : Listener :=
  .attentive fun count _ => if abortOn = some count then 1 else 0

inductive Mode where
  | send (listener : Listener)
  | fetch

/-- What an exchange was started with. -/
structure Plan where
  mode : Mode
  destination : String
  body : Body
  /-- Milliseconds until the deadline; zero sets none. -/
  timeout : Nat
  options : RequestOptions
  script : List Step

namespace Plan

/-- The request that the transport gets.  Every request is labelled as JSON. -/
def request (plan : Plan) : Request :=
  { method := plan.options.method
    url := plan.destination
    headers := [("Content-type", "application/json")]
    body := plan.body.bytes }

/-- Whether the transport gets a sink for progress. -/
def wantsProgress (plan : Plan) : Bool :=
  match plan.mode with
  | .send _ => plan.options.progress
  | .fetch => false

/-- Whether the exchange has a handle that can abort it. -/
def hasHandle (plan : Plan) : Bool :=
  match plan.mode with
  | .send _ => true
  | .fetch => false

end Plan

/-- What a transport waits for. -/
inductive Wait where
  | clock (instant : Nat)
  | turn
  | forever
  deriving DecidableEq

/-- A transport that has not returned. -/
structure Transport where
  script : List Step
  wait : Wait
  since : Nat
  sink : Bool

inductive TransportStatus where
  | idle
  | running
  | responded
  | failed
  | dropped
  deriving DecidableEq

/-- The instant at which an exchange gives its transport up. -/
structure Deadline where
  instant : Nat
  /-- Whether a timer was set for it. -/
  isSet : Bool

/-- The deadline of a plan that is carried out from `now` on. -/
def Plan.deadline? (plan : Plan) (now : Nat) : Option Deadline :=
  if plan.timeout = 0 then none else some ⟨now + plan.timeout, false⟩

/-- Where an exchange stands. -/
inductive Phase where
  | fresh
  | waiting (transport : Transport) (deadline : Option Deadline)
  | ended

/-- How an exchange looks out for progress. -/
inductive Attention where
  | away
  /-- It found the queue empty and wants to be woken for more. -/
  | listening
  /-- There is no more to come, and it does not look any longer. -/
  | gone
  deriving DecidableEq

/-- One request in progress. -/
structure Exchange where
  plan : Plan
  /-- Whether it can be interrupted: it was not, and its result is not known. -/
  pending : Bool
  interrupted : Bool
  phase : Phase
  status : TransportStatus
  /-- Progress that was reported and not delivered, the oldest first. -/
  ticks : List Progress
  sinks : Nat
  attention : Attention
  /-- Whether it was woken since its last run began. -/
  woken : Bool
  received : Nat

/-- Something that happened to an exchange. -/
inductive Event where
  | called (request : Request) (progress : Bool)
  | reported (progress : Progress)
  /-- The callback received an outcome; whether the exchange was pending when it did, and what the
  first abort from within the callback returned. -/
  | delivered (pending : Bool) (outcome : Outcome) (abort : Option Bool)
  /-- The transport aborted a request; what the abort returned, if there was such a request. -/
  | aborting (answer : Option Bool)
  | finished (result : RequestResult)

/-- Something in the history of an exchange. -/
inductive Moment where
  | began
  | event (event : Event)
  /-- The exchange was to be interrupted, with success or too late. -/
  | interrupted (success : Bool)
  /-- Its result became known while it could still be interrupted. -/
  | resolved (result : RequestResult)
  | ended

/-- What an exchange does to its surroundings when it runs. -/
inductive Effect where
  | moment (moment : Moment)
  | timer (instant : Nat)
  /-- It must run again once everything else that can run has. -/
  | giveWay
  /-- Progress is to be reported after a delay. -/
  | lateTick (delay : Nat) (progress : Progress)
  | abort (request : Nat)

namespace Exchange

/-- An exchange that was just started.  It has a sink if it wants progress. -/
def start (plan : Plan) : Exchange :=
  { plan := plan
    pending := true
    interrupted := false
    phase := .fresh
    status := .idle
    ticks := []
    sinks := if plan.wantsProgress then 1 else 0
    attention := if plan.wantsProgress then .away else .gone
    woken := true
    received := 0 }

def isOver (exchange : Exchange) : Bool :=
  match exchange.phase with
  | .ended => true
  | .fresh | .waiting .. => false

def wake (exchange : Exchange) : Exchange :=
  if exchange.isOver then exchange else { exchange with woken := true }

/-- Interrupt an exchange, which wakes it.  It succeeds once, while the exchange is pending. -/
def interrupt (exchange : Exchange) : Exchange × Bool :=
  if exchange.pending then ({ exchange with pending := false, interrupted := true }.wake, true)
  else (exchange, false)

/-- Wake an exchange that listens for progress. -/
def alert (exchange : Exchange) : Exchange :=
  match exchange.attention with
  | .listening => { exchange with attention := .away }.wake
  | .away | .gone => exchange

/-- Queue progress.  Once the exchange is over it is discarded. -/
def report (exchange : Exchange) (progress : Progress) : Exchange :=
  if exchange.isOver then exchange
  else { exchange with ticks := exchange.ticks ++ [progress] }.alert

/-- Give out another sink for progress. -/
def share (exchange : Exchange) : Exchange :=
  { exchange with sinks := exchange.sinks + 1 }

/-- Take a sink for progress back. -/
def release (exchange : Exchange) : Exchange :=
  let fewer := { exchange with sinks := exchange.sinks - 1 }
  if fewer.sinks = 0 then fewer.alert else fewer

/-- What a run of an exchange leads to. -/
structure Turn where
  exchange : Exchange
  effects : List Effect

def Turn.after (earlier : List Effect) (turn : Turn) : Turn :=
  { turn with effects := earlier ++ turn.effects }

/-- Interrupt an exchange a number of times. -/
def insist (exchange : Exchange) : (times : Nat) → Turn
  | 0 => ⟨exchange, []⟩
  | times + 1 =>
    (exchange.interrupt.1.insist times).after [.moment (.interrupted exchange.interrupt.2)]

/-- Hand an outcome to the callback, if there is one. -/
def deliver (exchange : Exchange) (outcome : Outcome) : Turn :=
  match exchange.plan.mode with
  | .fetch | .send .absent => ⟨exchange, []⟩
  | .send (.attentive aborts) =>
    let counted := { exchange with received := exchange.received + 1 }
    let times := aborts counted.received outcome
    let answer := if times = 0 then none else some counted.interrupt.2
    (counted.insist times).after
      [.moment (.event (.delivered exchange.pending outcome answer))]

/-- What a part of a run leads to. -/
structure Stretch extends Turn where
  /-- What is left of the allowance of the run. -/
  allowance : Nat

def Stretch.after (earlier : List Effect) (stretch : Stretch) : Stretch :=
  { stretch with effects := earlier ++ stretch.effects }

/-- Deliver progress in order, one tick for each unit of the allowance, until the exchange is
interrupted. -/
def deliverTicks : (allowance : Nat) → List Progress → Exchange → Stretch
  | allowance, [], exchange => ⟨⟨{ exchange with ticks := [] }, []⟩, allowance⟩
  | 0, tick :: ticks, exchange => ⟨⟨{ exchange with ticks := tick :: ticks }, []⟩, 0⟩
  | allowance + 1, tick :: ticks, exchange =>
    if exchange.interrupted then
      ⟨⟨{ exchange with ticks := tick :: ticks }, []⟩, allowance + 1⟩
    else
      let first := exchange.deliver (.progress tick)
      (deliverTicks allowance ticks first.exchange).after first.effects

/-- Hand the result of an exchange over. -/
def conclude (exchange : Exchange) (result : RequestResult) : Turn :=
  match exchange.plan.mode, Outcome.ofResult? result with
  | .fetch, _ => ⟨exchange, [.moment (.event (.finished result))]⟩
  | .send _, some outcome => exchange.deliver outcome
  | .send _, none => ⟨exchange, []⟩

def finish (exchange : Exchange) : Turn :=
  ⟨{ exchange with phase := .ended, woken := false }, [.moment .ended]⟩

/-- End an exchange with a result, which is delivered after all the progress still queued.  The
result counts only if the exchange was not interrupted before. -/
def complete (exchange : Exchange) (result : RequestResult) : Turn :=
  if exchange.interrupted then exchange.finish
  else
    let progress :=
      deliverTicks exchange.ticks.length exchange.ticks { exchange with pending := false }
    let final := progress.exchange.conclude result
    final.exchange.finish.after
      (.moment (.resolved result) :: (progress.effects ++ final.effects))

end Exchange
end HttpExchange
