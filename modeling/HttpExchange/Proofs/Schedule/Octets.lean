import HttpExchange.Proofs.Exchange.Rest
import HttpExchange.Proofs.Schedule.Plans

/-!
# Bodies are known by their octets

Whatever is done to schedules commutes with writing every body as its octets (`flat_after`).
-/

namespace HttpExchange

/-- The plan with the octets of its body as its body. -/
def Plan.flat (plan : Plan) : Plan :=
  { plan with body := .octets plan.body.bytes }

namespace Exchange

/-- The exchange that was started with the octets of its body. -/
def flat (exchange : Exchange) : Exchange :=
  { exchange with plan := exchange.plan.flat }

/-- The turn of an exchange that was started with the octets of its body. -/
def Turn.flat (turn : Turn) : Turn :=
  { turn with exchange := turn.exchange.flat }

/-- The same of a part of a run. -/
def Stretch.flat (stretch : Stretch) : Stretch :=
  { stretch with exchange := stretch.exchange.flat }

/-- The same of a poll. -/
def Played.flat (played : Played) : Played :=
  { played with exchange := played.exchange.flat }

variable (exchange : Exchange)

theorem flat_attention : exchange.flat.attention = exchange.attention := rfl

theorem flat_interrupted : exchange.flat.interrupted = exchange.interrupted := rfl

theorem flat_mode : exchange.flat.plan.mode = exchange.plan.mode := rfl

theorem flat_hasHandle : exchange.flat.plan.hasHandle = exchange.plan.hasHandle := rfl

theorem flat_wake : exchange.flat.wake = exchange.wake.flat := by
  change (if exchange.isOver then _ else _) = _
  rw [wake]
  split <;> rfl

theorem flat_interrupt :
    exchange.flat.interrupt = (exchange.interrupt.1.flat, exchange.interrupt.2) := by
  change (if exchange.pending then _ else _) = _
  rw [interrupt]
  split
  · exact congrArg (·, true) (flat_wake { exchange with pending := false, interrupted := true })
  · rfl

theorem flat_alert : exchange.flat.alert = exchange.alert.flat := by
  cases attention : exchange.attention with
  | listening =>
    simp only [alert, flat_attention, attention]
    exact flat_wake { exchange with attention := .away }
  | away | gone => simp only [alert, flat_attention, attention]

theorem flat_report (progress : Progress) :
    exchange.flat.report progress = (exchange.report progress).flat := by
  change (if exchange.isOver then _ else _) = _
  rw [report]
  split
  · rfl
  · exact flat_alert { exchange with ticks := exchange.ticks ++ [progress] }

theorem flat_release : exchange.flat.release = exchange.release.flat := by
  change (if exchange.sinks - 1 = 0 then _ else _) = _
  simp only [release]
  split
  · exact flat_alert { exchange with sinks := exchange.sinks - 1 }
  · rfl

theorem flat_insist (times : Nat) : exchange.flat.insist times = (exchange.insist times).flat := by
  induction times generalizing exchange with
  | zero => rfl
  | succ times ih =>
    rw [insist, insist, flat_interrupt, ih]
    rfl

theorem flat_deliver (outcome : Outcome) :
    exchange.flat.deliver outcome = (exchange.deliver outcome).flat := by
  match mode : exchange.plan.mode with
  | .fetch | .send .absent => simp only [deliver, flat_mode, mode]; rfl
  | .send (.attentive aborts) =>
    simp only [deliver, flat_mode, mode]
    let counted := { exchange with received := exchange.received + 1 }
    change (counted.flat.insist _).after [.moment (.event (.delivered _ _
      (if _ then none else some counted.flat.interrupt.2)))] = _
    rw [flat_insist, flat_interrupt]
    rfl

theorem flat_deliverTicks (allowance : Nat) (ticks : List Progress) :
    deliverTicks allowance ticks exchange.flat = (deliverTicks allowance ticks exchange).flat := by
  induction ticks generalizing allowance exchange with
  | nil => cases allowance <;> rfl
  | cons tick ticks ih =>
    cases allowance with
    | zero => rfl
    | succ allowance =>
      rw [deliverTicks, deliverTicks, flat_interrupted]
      split
      · rfl
      · simp only [flat_deliver]
        change (deliverTicks _ _ (exchange.deliver _).exchange.flat).after _ = _
        rw [ih]
        rfl

theorem flat_conclude (result : RequestResult) :
    exchange.flat.conclude result = (exchange.conclude result).flat := by
  match mode : exchange.plan.mode, folded : Outcome.ofResult? result with
  | .fetch, _ => simp only [conclude, flat_mode, mode]; rfl
  | .send _, some outcome =>
    simp only [conclude, flat_mode, mode, folded]
    exact flat_deliver exchange outcome
  | .send _, none => simp only [conclude, flat_mode, mode, folded]; rfl

theorem flat_complete (result : RequestResult) :
    exchange.flat.complete result = (exchange.complete result).flat := by
  have same := exchange.flat_interrupted
  by_cases interrupted : exchange.interrupted = true
  · rw [complete, complete, if_pos interrupted, if_pos (same.trans interrupted)]
    rfl
  · rw [complete, complete, if_neg interrupted, if_neg (same ▸ interrupted)]
    have progress := flat_deliverTicks { exchange with pending := false } exchange.ticks.length
      exchange.ticks
    change deliverTicks exchange.flat.ticks.length exchange.flat.ticks
      { exchange.flat with pending := false } = _ at progress
    simp only [progress]
    change (Exchange.conclude (Exchange.flat _) result).exchange.finish.after
      (_ :: (_ ++ (Exchange.conclude (Exchange.flat _) result).effects)) = _
    rw [flat_conclude]
    rfl

/-! ### Running -/

theorem flat_play (self now allowance : Nat) (script : List Step) (sink : Bool) :
    play self now allowance script sink exchange.flat =
      (play self now allowance script sink exchange).flat := by
  induction script generalizing allowance sink exchange with
  | nil => rfl
  | cons step script ih =>
    cases step with
    | tick progress =>
      rw [play, play]
      split
      · rw [flat_report, ih]
        rfl
      · exact ih _ _ _
    | lateTick delay progress =>
      rw [play, play]
      split
      · exact congrArg (Played.after _) (ih exchange.share _ _)
      · exact ih _ _ _
    | dropSink =>
      rw [play, play]
      split
      · rw [flat_release, ih]
      · exact ih _ _ _
    | sleep duration =>
      rw [play, play]
      split
      · rfl
      · split
        · exact ih _ _ _
        · rfl
    | abort request =>
      rw [play, play, flat_hasHandle]
      split
      · rw [flat_interrupt, ih]
        rfl
      · rw [ih]
        rfl
    | yield | hang | respond response | fail message => rfl

theorem flat_poll (self now allowance : Nat) (transport : Transport) :
    exchange.flat.poll self now allowance transport =
      (exchange.poll self now allowance transport).flat := by
  unfold poll
  dsimp only
  split
  · exact flat_play _ _ _ _ _ _
  · rfl
  · split
    · rfl
    · split
      · exact flat_play _ _ _ _ _ _
      · rfl

theorem flat_await (now allowance : Nat) (transport : Transport) (deadline : Option Deadline) :
    exchange.flat.await now allowance transport deadline =
      (exchange.await now allowance transport deadline).flat := by
  cases deadline with
  | none => rfl
  | some deadline =>
    rw [await, await, flat_hasHandle]
    split
    · rfl
    · split
      · exact flat_complete { exchange with status := .dropped } _
      · rfl

theorem flat_proceed (now allowance since : Nat) (deadline : Option Deadline) (stop : Stop) :
    exchange.flat.proceed now allowance since deadline stop =
      (exchange.proceed now allowance since deadline stop).flat := by
  cases stop with
  | returns result => exact flat_complete { exchange with status := statusOf result } _
  | waits script wait sink => exact flat_await exchange _ _ _ _

theorem flat_lookOut (allowance : Nat) :
    exchange.flat.lookOut allowance =
      ((exchange.lookOut allowance).1.flat, (exchange.lookOut allowance).2) := by
  have sinks : exchange.flat.sinks = exchange.sinks := rfl
  rw [lookOut, lookOut, flat_attention, sinks]
  split
  · rfl
  · split <;> rfl

theorem flat_goOn (self now allowance : Nat) (transport : Transport) (deadline : Option Deadline) :
    exchange.flat.goOn self now allowance transport deadline =
      (exchange.goOn self now allowance transport deadline).flat := by
  simp only [goOn, flat_lookOut, flat_poll]
  change (Exchange.proceed (Exchange.flat _) _ _ _ _ _).after _ = _
  rw [flat_proceed]
  rfl

theorem flat_firstRun (self now : Nat) :
    exchange.flat.firstRun self now = (exchange.firstRun self now).flat := by
  have destination : exchange.flat.plan.destination = exchange.plan.destination := rfl
  rw [firstRun, firstRun, flat_interrupted, destination]
  split
  · rfl
  · split
    · exact flat_complete _ _
    · have goes := flat_goOn { exchange with status := .running } self now fullAllowance
        (exchange.called now) (exchange.plan.deadline? now)
      exact congrArg (Turn.after _) goes

theorem flat_laterRun (self now : Nat) (transport : Transport) (deadline : Option Deadline) :
    exchange.flat.laterRun self now transport deadline =
      (exchange.laterRun self now transport deadline).flat := by
  have ticks : exchange.flat.ticks = exchange.ticks := rfl
  simp only [laterRun, ticks, flat_deliverTicks]
  generalize deliverTicks fullAllowance exchange.ticks exchange = delivery
  change (if delivery.allowance = 0 then _ else if delivery.exchange.interrupted then _ else _) = _
  split
  · rfl
  · split
    · rfl
    · exact congrArg (Turn.after _) (flat_goOn delivery.exchange _ _ _ _ _)

theorem flat_run (self now : Nat) :
    exchange.flat.run self now = (exchange.run self now).flat := by
  have same : exchange.flat.phase = exchange.phase := rfl
  cases phase : exchange.phase with
  | fresh =>
    rw [run_of_fresh phase, run_of_fresh (same.trans phase)]
    exact congrArg (Turn.after _) (flat_firstRun { exchange with woken := false } _ _)
  | waiting transport deadline =>
    rw [run_of_waiting phase, run_of_waiting (same.trans phase)]
    exact congrArg (Turn.after _) (flat_laterRun { exchange with woken := false } _ _ _ _)
  | ended =>
    rw [run_of_ended phase, run_of_ended (same.trans phase)]
    rfl

end Exchange

/-! ### Schedules -/

/-- The record of an exchange that was started with the octets of its body. -/
def Record.flat (record : Record) : Record :=
  { record with exchange := record.exchange.flat }

/-- The command that starts its exchange with the octets of its body. -/
def Command.flat : Command → Command
  | .start plan => .start plan.flat
  | .sleep duration => .sleep duration
  | .abort request => .abort request
  | .cancel request => .cancel request

namespace Schedule

/-- The schedule in which every exchange was started with the octets of its body. -/
def flat (schedule : Schedule) : Schedule :=
  { schedule with records := schedule.records.map Record.flat }

variable (schedule : Schedule) (number : Nat)

theorem getElem?_flat :
    schedule.flat.records[number]? = schedule.records[number]?.map Record.flat :=
  List.getElem?_map ..

theorem modify_map_flat (change other : Record → Record)
    (commutes : ∀ record, other record.flat = (change record).flat) (records : List Record) :
    (records.map Record.flat).modify number other =
      (records.modify number change).map Record.flat := by
  refine List.ext_getElem? fun index => ?_
  simp only [List.getElem?_map, List.getElem?_modify]
  cases records[index]? with
  | none => rfl
  | some record =>
    simp only [Option.map_some, Option.map_eq_map]
    split <;> simp [commutes]

theorem flat_update (change other : Exchange → Exchange)
    (commutes : ∀ exchange : Exchange, other exchange.flat = (change exchange).flat) :
    schedule.flat.update number other = (schedule.update number change).flat := by
  refine congrArg (Schedule.mk _ · _ _ _ _) (modify_map_flat number _ _ (fun record => ?_) _)
  simp only [Record.flat, commutes]

theorem flat_note (moment : Moment) :
    schedule.flat.note number moment = (schedule.note number moment).flat :=
  congrArg (Schedule.mk _ · _ _ _ _)
    (modify_map_flat number (fun record => { record with history := _ }) _ (fun _ => rfl) _)

theorem flat_stir (change : Exchange → Exchange)
    (commutes : ∀ exchange : Exchange, change exchange.flat = (change exchange).flat) :
    schedule.flat.stir number change = (schedule.stir number change).flat := by
  rw [stir, stir, getElem?_flat]
  cases schedule.records[number]? with
  | none => rfl
  | some record =>
    have updated := schedule.flat_update number change change commutes
    have changed : change record.flat.exchange = (change record.exchange).flat :=
      commutes record.exchange
    simp only [Option.map_some, updated, changed]
    change (if (change record.exchange).woken && !record.exchange.woken then _ else _) = _
    split <;> rfl

theorem flat_wake : schedule.flat.wake number = (schedule.wake number).flat :=
  schedule.flat_stir number _ Exchange.flat_wake

theorem flat_callBack : schedule.flat.callBack = schedule.callBack.flat := by
  change schedule.aside.foldl wake { schedule with aside := [] }.flat = _
  exact List.foldl_hom flat flat_wake

theorem flat_interrupt (success : Bool) :
    schedule.flat.interrupt number success = (schedule.interrupt number success).flat := by
  have stirred := schedule.flat_stir number (·.interrupt.1) fun exchange =>
    congrArg Prod.fst exchange.flat_interrupt
  rw [interrupt, interrupt, stirred, flat_note]

theorem flat_abort :
    schedule.flat.abort number = ((schedule.abort number).1.flat, (schedule.abort number).2) := by
  rw [abort, abort, getElem?_flat]
  cases schedule.records[number]? with
  | none => rfl
  | some record =>
    simp only [Option.map_some, Record.flat, Exchange.flat_interrupt, flat_interrupt]
    change (if record.exchange.plan.hasHandle then _ else _) = _
    split <;> rfl

theorem flat_cancel : schedule.flat.cancel number = (schedule.cancel number).flat := by
  rw [cancel, cancel, getElem?_flat]
  cases schedule.records[number]? with
  | none => rfl
  | some record =>
    simp only [Option.map_some, Record.flat, Exchange.flat_interrupt, flat_interrupt]
    change (if record.exchange.plan.hasHandle then _ else _) = _
    split <;> rfl

theorem flat_start (plan : Plan) : schedule.flat.start plan.flat = (schedule.start plan).flat := by
  simp only [start, flat, List.map_append, List.length_map]
  rfl

theorem flat_carryOut (effect : Effect) :
    carryOut number schedule.flat effect = (carryOut number schedule effect).flat := by
  cases effect with
  | moment moment => exact flat_note _ _ _
  | timer instant => rfl
  | giveWay =>
    change (if schedule.aside.head? = some number then _ else _) = _
    rw [carryOut, putAside]
    split <;> rfl
  | lateTick delay progress => rfl
  | abort request =>
    simp only [carryOut, flat_abort]
    exact flat_note _ _ _

theorem flat_runExchange :
    schedule.flat.runExchange number = (schedule.runExchange number).flat := by
  rw [runExchange, runExchange, getElem?_flat]
  cases schedule.records[number]? with
  | none => rfl
  | some record =>
    have ran : record.flat.exchange.run number schedule.flat.now =
        (record.exchange.run number schedule.now).flat := record.exchange.flat_run number _
    simp only [Option.map_some, ran]
    generalize record.exchange.run number schedule.now = turn
    have updated := schedule.flat_update number (fun _ => turn.exchange)
      (fun _ => turn.flat.exchange) fun _ => rfl
    simp only [updated]
    change (if turn.exchange.woken then
      (turn.effects.foldl (carryOut number) (flat _)).enqueue (.exchange number) else
      turn.effects.foldl (carryOut number) (flat _)) = _
    rw [List.foldl_hom flat (flat_carryOut · number)]
    split <;> rfl

theorem flat_reportLate (progress : Progress) :
    schedule.flat.reportLate number progress = (schedule.reportLate number progress).flat := by
  rw [reportLate, reportLate, flat_note]
  refine flat_stir _ _ _ fun exchange => ?_
  rw [Exchange.flat_report, Exchange.flat_release]

theorem flat_runJob (job : Job) : schedule.flat.runJob job = (schedule.runJob job).flat := by
  simp only [runJob]
  split
  · exact flat_runExchange _ _
  · exact flat_reportLate _ _ _
  · split
    · exact flat_reportLate _ _ _
    · rfl

theorem flat_goOff (timer : Timer) :
    schedule.flat.goOff timer = (schedule.goOff timer).flat := by
  rw [goOff, goOff]
  split
  · exact flat_wake _ _
  · rfl

theorem flat_rest : schedule.flat.rest = schedule.rest.flat := by
  rw [rest, rest, flat_callBack]
  change (if schedule.runs < stretch then _ else _) = _
  split <;> rfl

theorem flat_advance (instant : Nat) :
    schedule.flat.advance instant = (schedule.advance instant).flat := by
  change (schedule.timers.filter (·.instant == instant)).foldl goOff (flat { schedule with
    now := instant, timers := schedule.timers.filter (·.instant != instant), runs := 0 }) = _
  exact List.foldl_hom flat flat_goOff

theorem flat_step? (limit : Nat) : schedule.flat.step? limit = (schedule.step? limit).map flat := by
  have same : schedule.flat.queue = schedule.queue := rfl
  cases queue : schedule.queue with
  | cons job jobs =>
    have rested : { schedule.flat with queue := jobs }.rest =
        { schedule with queue := jobs }.rest.flat := flat_rest { schedule with queue := jobs }
    simp only [step?, same, queue, rested, Option.map_some]
    generalize { schedule with queue := jobs }.rest = rested
    exact congrArg some (flat_runJob { rested with runs := rested.runs + 1 } job)
  | nil =>
    have aside : schedule.flat.aside = schedule.aside := rfl
    have next : schedule.flat.nextInstant? = schedule.nextInstant? := rfl
    simp only [step?, same, queue, aside, next, flat_callBack, flat_advance]
    split
    · split
      · split <;> rfl
      · rfl
    · rfl

theorem flat_steps (limit fuel : Nat) :
    steps limit fuel schedule.flat = (steps limit fuel schedule).flat := by
  induction fuel generalizing schedule with
  | zero => rfl
  | succ fuel ih =>
    rw [steps, steps, flat_step?]
    cases schedule.step? limit with
    | none => rfl
    | some next => exact ih next

theorem work_flat : schedule.flat.work = schedule.work := by
  have records : total (fun record => record.exchange.work) (schedule.records.map Record.flat) =
      total (fun record => record.exchange.work) schedule.records := by
    induction schedule.records with
    | nil => rfl
    | cons record records ih => exact congrArg (record.exchange.work + ·) ih
  rw [work, work, ← records]
  rfl

theorem flat_settle (limit : Nat) : schedule.flat.settle limit = (schedule.settle limit).flat := by
  rw [settle, settle, work_flat, flat_steps]

theorem flat_sleep (duration : Nat) :
    schedule.flat.sleep duration = (schedule.sleep duration).flat := by
  rw [sleep, sleep]
  split
  · rfl
  · have settled := flat_settle { schedule with runs := 0 } (schedule.now + duration)
    let awake (settled : Schedule) := { settled with now := schedule.now + duration }
    exact congrArg awake settled

theorem flat_obey (command : Command) :
    (schedule.flat.obey command.flat).1 = (schedule.obey command).1.flat := by
  cases command with
  | start plan => exact flat_start _ _
  | sleep duration => exact flat_sleep _ _
  | abort request => exact congrArg Prod.fst (flat_abort _ _)
  | cancel request => exact flat_cancel _ _

theorem flat_after (commands : List Command) :
    schedule.flat.after (commands.map Command.flat) = (schedule.after commands).flat := by
  induction commands generalizing schedule with
  | nil => rfl
  | cons command commands ih =>
    rw [List.map_cons, after_cons, after_cons, flat_obey, ih]

end Schedule
end HttpExchange
