import HttpExchange.Exchange.Schedule
import HttpExchange.Exchange.Work

/-!
# Scenarios

A scenario is what is done to a schedule from outside.
-/

namespace HttpExchange

def Job.work : Job → Nat
  | exchange _ => 1
  | lateTick _ _ none => 7
  | lateTick _ _ (some _) => 9

def Timer.work (timer : Timer) : Nat :=
  timer.job.work + 1

namespace Schedule

/-- The number of runs after which the exchanges that gave way are woken though the queue is not
empty. -/
def stretch : Nat := 61

/-- Begin a new stretch of runs, once the present one is used up. -/
def rest (schedule : Schedule) : Schedule :=
  if schedule.runs < stretch then schedule else { schedule.callBack with runs := 0 }

/-- The next thing to happen before `limit`: a job runs, the exchanges that gave way are woken, or
the clock moves. -/
def step? (limit : Nat) (schedule : Schedule) : Option Schedule :=
  match schedule.queue with
  | job :: jobs =>
    let rested := { schedule with queue := jobs }.rest
    some ({ rested with runs := rested.runs + 1 }.runJob job)
  | [] =>
    if schedule.aside.isEmpty then
      match schedule.nextInstant? with
      | some instant => if instant < limit then some (schedule.advance instant) else none
      | none => none
    else some { schedule.callBack with runs := 0 }

/-- A bound on the steps that are left, whatever the clock does. -/
def work (schedule : Schedule) : Nat :=
  total (fun record => record.exchange.work) schedule.records +
    total Job.work schedule.queue + 2 * schedule.aside.length + total Timer.work schedule.timers

/-- Let everything happen that happens before `limit`, in at most `fuel` steps. -/
def steps (limit : Nat) : (fuel : Nat) → Schedule → Schedule
  | 0, schedule => schedule
  | fuel + 1, schedule =>
    match schedule.step? limit with
    | some schedule => steps limit fuel schedule
    | none => schedule

/-- Let everything happen that happens before `limit`.  Every step uses work up, so the work that
is left bounds their number. -/
def settle (schedule : Schedule) (limit : Nat) : Schedule :=
  steps limit schedule.work schedule

/-- Let time pass.  What is started runs only while time passes. -/
def sleep (schedule : Schedule) (duration : Nat) : Schedule :=
  if duration = 0 then schedule
  else
    let limit := schedule.now + duration
    { { schedule with runs := 0 }.settle limit with now := limit }

end Schedule

inductive Command where
  | start (plan : Plan)
  | sleep (duration : Nat)
  | abort (request : Nat)
  | cancel (request : Nat)

namespace Schedule

/-- Obey a command.  Only an abort through a handle gets an answer. -/
def obey (schedule : Schedule) : Command → Schedule × Option Bool
  | .start plan => (schedule.start plan, none)
  | .sleep duration => (schedule.sleep duration, none)
  | .abort request => schedule.abort request
  | .cancel request => (schedule.cancel request, none)

def after (schedule : Schedule) (commands : List Command) : Schedule :=
  commands.foldl (fun schedule command => (schedule.obey command).1) schedule

@[simp]
theorem after_nil (schedule : Schedule) : schedule.after [] = schedule := rfl

@[simp]
theorem after_cons (schedule : Schedule) (command : Command) (commands : List Command) :
    schedule.after (command :: commands) = (schedule.obey command).1.after commands := rfl

@[simp]
theorem after_append (schedule : Schedule) (front back : List Command) :
    schedule.after (front ++ back) = (schedule.after front).after back := by
  simp only [after, List.foldl_append]

end Schedule

end HttpExchange
