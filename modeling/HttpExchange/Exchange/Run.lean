import HttpExchange.Exchange.Basic

/-!
# Running an exchange

A run delivers progress, and then polls its transport once and its deadline.  What it does uses up
an allowance; where that is used up, it gives way and runs again.
-/

namespace HttpExchange

/-- How far a transport got when it was polled. -/
inductive Stop where
  | waits (script : List Step) (wait : Wait) (sink : Bool)
  | returns (result : Except String RawResponse)

namespace Exchange

/-- What a run may use up before it gives way. -/
def fullAllowance : Nat := 128

/-- What polling a transport leads to. -/
structure Played extends Stretch where
  stop : Stop

def Played.after (earlier : Effect) (played : Played) : Played :=
  { played with effects := earlier :: played.effects }

/-- Play a script as far as it goes at `now`.  `self` is the number of the exchange, which its own
script may abort. -/
def play (self now : Nat) :
    (allowance : Nat) → (script : List Step) → (sink : Bool) → Exchange → Played
  | allowance, [], _, exchange =>
    ⟨⟨⟨exchange, []⟩, allowance⟩, .returns (.error "script ended")⟩
  | allowance, .tick progress :: script, sink, exchange =>
    if sink then
      (play self now allowance script sink (exchange.report progress)).after
        (.moment (.event (.reported progress)))
    else play self now allowance script sink exchange
  | allowance, .lateTick delay progress :: script, sink, exchange =>
    if sink then
      (play self now allowance script sink exchange.share).after (.lateTick delay progress)
    else play self now allowance script sink exchange
  | allowance, .dropSink :: script, sink, exchange =>
    play self now allowance script false (if sink then exchange.release else exchange)
  | allowance, .sleep duration :: script, sink, exchange =>
    if allowance = 0 then
      ⟨⟨⟨exchange, [.giveWay]⟩, allowance⟩, .waits (.sleep duration :: script) .turn sink⟩
    else if duration = 0 then play self now (allowance - 1) script sink exchange
    else
      ⟨⟨⟨exchange, [.timer (now + duration)]⟩, allowance⟩,
        .waits script (.clock (now + duration)) sink⟩
  | allowance, .yield :: script, sink, exchange =>
    ⟨⟨⟨exchange, [.giveWay]⟩, allowance⟩, .waits script .turn sink⟩
  | allowance, .hang :: script, sink, exchange =>
    ⟨⟨⟨exchange, []⟩, allowance⟩, .waits script .forever sink⟩
  | allowance, .abort request :: script, sink, exchange =>
    if request = self ∧ exchange.plan.hasHandle then
      ((play self now allowance script sink exchange.interrupt.1).after
        (.moment (.event (.aborting (some exchange.interrupt.2))))).after
          (.moment (.interrupted exchange.interrupt.2))
    else (play self now allowance script sink exchange).after (.abort request)
  | allowance, .respond response :: _, _, exchange =>
    ⟨⟨⟨exchange, []⟩, allowance⟩, .returns (.ok response)⟩
  | allowance, .fail message :: _, _, exchange =>
    ⟨⟨⟨exchange, []⟩, allowance⟩, .returns (.error message)⟩

/-- Poll a transport: play on if its wait is over. -/
def poll (exchange : Exchange) (self now allowance : Nat) (transport : Transport) : Played :=
  let waits := Stop.waits transport.script transport.wait transport.sink
  match transport.wait with
  | .turn => play self now allowance transport.script transport.sink exchange
  | .forever => ⟨⟨⟨exchange, []⟩, allowance⟩, waits⟩
  | .clock instant =>
    if allowance = 0 then ⟨⟨⟨exchange, [.giveWay]⟩, allowance⟩, waits⟩
    else if instant ≤ now then
      play self now (allowance - 1) transport.script transport.sink exchange
    else ⟨⟨⟨exchange, []⟩, allowance⟩, waits⟩

/-- Wait on for a transport, unless the deadline is reached: then the transport is dropped.  The
deadline of a send is looked at only if there is an allowance left. -/
def await (exchange : Exchange) (now allowance : Nat) (transport : Transport) :
    Option Deadline → Turn
  | none => ⟨{ exchange with phase := .waiting transport none }, []⟩
  | some deadline =>
    if allowance = 0 ∧ exchange.plan.hasHandle then
      ⟨{ exchange with phase := .waiting transport (some deadline) }, [.giveWay]⟩
    else if deadline.instant ≤ now then
      { exchange with status := .dropped }.complete (.error .timeout)
    else
      ⟨{ exchange with phase := .waiting transport (some { deadline with isSet := true }) },
        if deadline.isSet then [] else [.timer deadline.instant]⟩

def statusOf : Except String RawResponse → TransportStatus
  | .ok _ => .responded
  | .error _ => .failed

/-- Go on with a transport that got as far as `stop`, and heed the deadline. -/
def proceed (exchange : Exchange) (now allowance since : Nat) (deadline : Option Deadline) :
    Stop → Turn
  | .returns result =>
    { exchange with status := statusOf result }.complete
      (Response.classify exchange.plan.options.kind (now - since) result)
  | .waits script wait sink => exchange.await now allowance ⟨script, wait, since, sink⟩ deadline

/-- Look out for progress when the queue is empty: listen for it, unless no sink is left. -/
def lookOut (exchange : Exchange) (allowance : Nat) : Exchange × Nat :=
  if exchange.attention = .gone then (exchange, allowance)
  else if exchange.sinks = 0 then ({ exchange with attention := .gone }, allowance - 1)
  else ({ exchange with attention := .listening }, allowance)

/-- Poll a transport, and then the deadline, when all progress is delivered. -/
def goOn (exchange : Exchange) (self now allowance : Nat) (transport : Transport)
    (deadline : Option Deadline) : Turn :=
  let (exchange, allowance) := exchange.lookOut allowance
  let played := exchange.poll self now allowance transport
  (played.exchange.proceed now played.allowance transport.since deadline played.stop).after
    played.effects

def called (exchange : Exchange) (now : Nat) : Transport :=
  ⟨exchange.plan.script, .turn, now, exchange.plan.wantsProgress⟩

/-- The first run of an exchange: call the transport, unless there is no destination. -/
def firstRun (exchange : Exchange) (self now : Nat) : Turn :=
  if exchange.interrupted then exchange.finish
  else if exchange.plan.destination.isEmpty then
    exchange.complete (.error (.transport "destination is empty"))
  else
    ({ exchange with status := .running }.goOn self now fullAllowance (exchange.called now)
      (exchange.plan.deadline? now)).after
        [.moment (.event (.called exchange.plan.request exchange.plan.wantsProgress))]

def laterRun (exchange : Exchange) (self now : Nat) (transport : Transport)
    (deadline : Option Deadline) : Turn :=
  let delivery := deliverTicks fullAllowance exchange.ticks exchange
  if delivery.allowance = 0 then ⟨delivery.exchange, delivery.effects ++ [.giveWay]⟩
  else if delivery.exchange.interrupted then
    { delivery.exchange with status := .dropped }.finish.after delivery.effects
  else
    (delivery.exchange.goOn self now delivery.allowance transport deadline).after delivery.effects

def run (exchange : Exchange) (self now : Nat) : Turn :=
  let exchange := { exchange with woken := false }
  match exchange.phase with
  | .ended => ⟨exchange, []⟩
  | .fresh => (exchange.firstRun self now).after [.moment .began]
  | .waiting transport deadline =>
    (exchange.laterRun self now transport deadline).after [.moment .began]

/-- What a round of the loop leads to. -/
inductive Round where
  | delivers (stretch : Stretch)
  /-- The loop is left or waits; whether the transport was polled. -/
  | pauses (polled : Bool) (turn : Turn)

/-- Leave the loop after an interruption.  A transport that was called is dropped. -/
def leave (exchange : Exchange) : Turn :=
  match exchange.phase with
  | .waiting .. => { exchange with status := .dropped }.finish
  | .fresh | .ended => exchange.finish

/-- The rest of a round without an interruption and without progress: poll the transport, and then
the deadline.  The first round calls the transport, unless there is no destination. -/
def attend (exchange : Exchange) (self now allowance : Nat) : Round :=
  match exchange.phase with
  | .fresh =>
    if exchange.plan.destination.isEmpty then
      .pauses false (exchange.complete (.error (.transport "destination is empty")))
    else
      .pauses true (({ exchange with status := .running }.goOn self now allowance
        (exchange.called now) (exchange.plan.deadline? now)).after
          [.moment (.event (.called exchange.plan.request exchange.plan.wantsProgress))])
  | .waiting transport deadline =>
    .pauses true (exchange.goOn self now allowance transport deadline)
  | .ended => .pauses false ⟨exchange, []⟩

def round (exchange : Exchange) (self now allowance : Nat) : Round :=
  if allowance = 0 then .pauses false ⟨exchange, [.giveWay]⟩
  else if exchange.interrupted then .pauses false exchange.leave
  else
    match exchange.ticks with
    | tick :: ticks =>
      .delivers ⟨{ exchange with ticks := ticks }.deliver (.progress tick), allowance - 1⟩
    | [] => exchange.attend self now allowance

/-- The loop at `now`, from an exchange and what is left of the allowance of its run: it makes some
rounds, polls the transport in some of them, and leads to a turn. -/
inductive Loops (self now : Nat) :
    (allowance : Nat) → Exchange → (rounds polls : Nat) → Turn → Prop where
  /-- A round is the last. -/
  | pauses {allowance : Nat} {exchange : Exchange} {polled : Bool} {turn : Turn}
      (last : exchange.round self now allowance = .pauses polled turn) :
      Loops self now allowance exchange 1 polled.toNat turn
  | delivers {allowance rounds polls : Nat} {exchange : Exchange} {stretch : Stretch} {turn : Turn}
      (first : exchange.round self now allowance = .delivers stretch)
      (further : Loops self now stretch.allowance stretch.exchange rounds polls turn) :
      Loops self now allowance exchange (rounds + 1) polls (turn.after stretch.effects)

end Exchange

end HttpExchange
