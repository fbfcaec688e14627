import HttpExchange.Exchange.Run

/-!
# Many exchanges on one clock

Exchanges run one at a time, and the clock moves only when none can run.
-/

namespace HttpExchange

inductive Job where
  | exchange (number : Nat)
  /-- The report of late progress, which starts its delay when it first runs. -/
  | lateTick (number : Nat) (progress : Progress) (delay : Option Nat)
  deriving DecidableEq

structure Timer where
  instant : Nat
  job : Job

/-- An exchange and what happened to it. -/
structure Record where
  exchange : Exchange
  /-- Its moments and their instants, the oldest first. -/
  history : List (Nat × Moment)

/-- The events in a history, and their instants. -/
def Record.log (record : Record) : List (Nat × Event) :=
  record.history.filterMap fun entry =>
    match entry.2 with
    | .event event => some (entry.1, event)
    | .began | .interrupted _ | .resolved _ | .ended => none

/-- Exchanges by number, and what is to run when. -/
structure Schedule where
  now : Nat
  records : List Record
  queue : List Job
  /-- The exchanges that gave way, the last first. -/
  aside : List Nat
  timers : List Timer
  /-- The number of runs in the present stretch. -/
  runs : Nat

namespace Schedule

def initial : Schedule :=
  ⟨0, [], [], [], [], 0⟩

def update (schedule : Schedule) (number : Nat) (change : Exchange → Exchange) : Schedule :=
  { schedule with
    records := schedule.records.modify number fun record =>
      { record with exchange := change record.exchange } }

def note (schedule : Schedule) (number : Nat) (moment : Moment) : Schedule :=
  { schedule with
    records := schedule.records.modify number fun record =>
      { record with history := record.history ++ [(schedule.now, moment)] } }

def enqueue (schedule : Schedule) (job : Job) : Schedule :=
  { schedule with queue := schedule.queue ++ [job] }

/-- Change an exchange, and queue it if that woke it. -/
def stir (schedule : Schedule) (number : Nat) (change : Exchange → Exchange) : Schedule :=
  match schedule.records[number]? with
  | none => schedule
  | some record =>
    let changed := schedule.update number change
    if (change record.exchange).woken && !record.exchange.woken then
      changed.enqueue (.exchange number)
    else changed

def wake (schedule : Schedule) (number : Nat) : Schedule :=
  schedule.stir number Exchange.wake

/-- Put an exchange aside that gave way, unless it was the last that did. -/
def putAside (schedule : Schedule) (number : Nat) : Schedule :=
  if schedule.aside.head? = some number then schedule
  else { schedule with aside := number :: schedule.aside }

/-- Wake the exchanges that gave way. -/
def callBack (schedule : Schedule) : Schedule :=
  schedule.aside.foldl wake { schedule with aside := [] }

def setTimer (schedule : Schedule) (instant : Nat) (job : Job) : Schedule :=
  { schedule with timers := schedule.timers ++ [⟨instant, job⟩] }

def interrupt (schedule : Schedule) (number : Nat) (success : Bool) : Schedule :=
  (schedule.stir number (·.interrupt.1)).note number (.interrupted success)

/-- Abort a request through its handle; a request without a handle gives no answer. -/
def abort (schedule : Schedule) (number : Nat) : Schedule × Option Bool :=
  match schedule.records[number]? with
  | none => (schedule, none)
  | some record =>
    if record.exchange.plan.hasHandle then
      let answer := record.exchange.interrupt.2
      (schedule.interrupt number answer, some answer)
    else (schedule, none)

/-- Cancel a fetch; nothing happens to any other request. -/
def cancel (schedule : Schedule) (number : Nat) : Schedule :=
  match schedule.records[number]? with
  | none => schedule
  | some record =>
    if record.exchange.plan.hasHandle then schedule
    else schedule.interrupt number record.exchange.interrupt.2

/-- Start an exchange; it runs for the first time when its turn in the queue comes. -/
def start (schedule : Schedule) (plan : Plan) : Schedule :=
  { schedule with
    records := schedule.records ++ [⟨Exchange.start plan, []⟩]
    queue := schedule.queue ++ [.exchange schedule.records.length] }

/-- Do what an exchange asked for while it ran. -/
def carryOut (number : Nat) (schedule : Schedule) : Effect → Schedule
  | .moment moment => schedule.note number moment
  | .timer instant => schedule.setTimer instant (.exchange number)
  | .giveWay => schedule.putAside number
  | .lateTick delay progress => schedule.enqueue (.lateTick number progress (some delay))
  | .abort request =>
    let (schedule, answer) := schedule.abort request
    schedule.note number (.event (.aborting answer))

/-- Run an exchange.  If it was woken while it ran, it is queued again after all it asked for is
done. -/
def runExchange (schedule : Schedule) (number : Nat) : Schedule :=
  match schedule.records[number]? with
  | none => schedule
  | some record =>
    let turn := record.exchange.run number schedule.now
    let schedule :=
      turn.effects.foldl (carryOut number) (schedule.update number fun _ => turn.exchange)
    if turn.exchange.woken then schedule.enqueue (.exchange number) else schedule

/-- Report late progress to an exchange, and take the sink back that it was reported through. -/
def reportLate (schedule : Schedule) (number : Nat) (progress : Progress) : Schedule :=
  (schedule.note number (.event (.reported progress))).stir number fun exchange =>
    (exchange.report progress).release

def runJob (schedule : Schedule) : Job → Schedule
  | .exchange number => schedule.runExchange number
  | .lateTick number progress none => schedule.reportLate number progress
  | .lateTick number progress (some delay) =>
    if delay = 0 then schedule.reportLate number progress
    else schedule.setTimer (schedule.now + delay) (.lateTick number progress none)

/-- Wake the job of a timer. -/
def goOff (schedule : Schedule) (timer : Timer) : Schedule :=
  match timer.job with
  | .exchange number => schedule.wake number
  | .lateTick .. => schedule.enqueue timer.job

def nextInstant? (schedule : Schedule) : Option Nat :=
  (schedule.timers.map Timer.instant).min?

/-- Move the clock, and let the timers of that instant go off. -/
def advance (schedule : Schedule) (instant : Nat) : Schedule :=
  let due := schedule.timers.filter fun timer => timer.instant == instant
  let later := schedule.timers.filter fun timer => timer.instant != instant
  due.foldl goOff { schedule with now := instant, timers := later, runs := 0 }

end Schedule
end HttpExchange
