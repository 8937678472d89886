import DataGateway.Proofs.Relational.Trace
import DataGateway.Proofs.Sql.Numerals

/-!
# Discipline of connections

No connection is lost: a connection that was taken goes back to the pool last and once, whatever failed
in between, and the steps of a transaction follow one another only after a success.

* `Call.Succeeds`, `Call.Fails` — what became of a step in a trace;
* `Call.Orderly` — what a trace with a connection keeps to, and `Call.Disciplined` every trace;
* `Pool.serveAll_disciplined` — every call of a sequence is disciplined;
* `longNumeral_not_orderly` — a placeholder with too many digits takes no connection, although it
  names an argument.
-/

namespace DataGateway.Relational

open Sql

/-! ## Steps in a trace -/

/-- The steps that were taken, whether or not they failed. -/
def stepsIn (trace : List Event) : List Step := trace.filterMap Event.step?

@[simp]
theorem stepsIn_append (before after : List Event) :
    stepsIn (before ++ after) = stepsIn before ++ stepsIn after :=
  List.filterMap_append

namespace Call

variable (call : Call)

/-- The step was taken, and it did not fail. -/
def Succeeds (step : Step) (trace : List Event) : Prop :=
  step ∈ stepsIn trace ∧ call.failure step = none

/-- The step was taken, and it failed. -/
def Fails (step : Step) (trace : List Event) : Prop :=
  step ∈ stepsIn trace ∧ call.failure step ≠ none

/-- The rows of the answer cannot all be read as records. -/
def Unreadable : Prop := ∃ rows fault, call.rows = some rows ∧ Pool.records rows = .error fault

/-- The rows of the answer were not fetched, or not all of them are records. -/
def Misreads (trace : List Event) : Prop :=
  call.Fails .fetch trace ∨ (call.Succeeds .fetch trace ∧ call.Unreadable)

/-- Something failed between the opening of the cursor and the reading of the rows. -/
def Breaks (trace : List Event) : Prop :=
  call.Fails .cursor trace ∨ call.Fails .execute trace ∨ call.Fails .commit trace ∨
    call.Misreads trace

/-- A placeholder of the command has no argument, or too many digits to be read. -/
def IsRefused : Prop :=
  Strays call.command.text call.command.arguments.length ∨ IsOverlong call.command.text

end Call

/-- The event stands in the trace once, and what comes before it is as asked for. -/
def Once (event : Event) (P : List Event → Prop) (trace : List Event) : Prop :=
  ∃ before after, trace = before ++ event :: after ∧ event ∉ before ∧ event ∉ after ∧ P before

namespace Call

variable (call : Call)

/-- What a trace keeps to when the connection was taken. -/
structure Orderly (trace : List Event) : Prop where
  givenBack : ∃ before, trace = before ++ [.givenBack] ∧ .givenBack ∉ before
  closed : call.Succeeds .cursor trace → Once .cursorClosed (.rolledBack ∉ ·) trace
  unopened : ¬call.Succeeds .cursor trace → .cursorClosed ∉ trace
  committed : .committed ∈ trace → Once .committed (call.Succeeds .execute) trace
  fetched : .fetched ∈ trace → Once .fetched (call.Succeeds .commit) trace
  rolledBack : call.Breaks trace → Once .rolledBack (fun _ => True) trace
  kept : ¬call.Breaks trace → .rolledBack ∉ trace

/-- What every trace keeps to. -/
structure Disciplined (trace : List Event) : Prop where
  refused : call.IsRefused → trace = []
  unconnected : ¬call.IsRefused → call.failure .connect ≠ none → trace = [.connected]
  connected : ¬call.IsRefused → call.failure .connect = none → call.Orderly trace

end Call

/-! ## Parts of traces -/

section Parts

variable {call : Call} {step : Step} {trace : List Event}

theorem Call.Succeeds.append (h : call.Succeeds step trace) (before : List Event) :
    call.Succeeds step (before ++ trace) := by
  have taken : step ∈ stepsIn (before ++ trace) := by
    rw [stepsIn_append]
    exact List.mem_append_right _ h.1
  exact ⟨taken, h.2⟩

/-- What stands in a part once stands in the whole once, if it is not around the part. -/
theorem Once.within {event : Event} {P : List Event → Prop} (h : Once event P trace)
    {before after : List Event} (kept : ∀ s, P s → P (before ++ s)) (ahead : event ∉ before)
    (behind : event ∉ after) : Once event P (before ++ trace ++ after) := by
  rcases h with ⟨first, last, whole, fresh, final, holds⟩
  refine ⟨before ++ first, last ++ after, by simp [whole], ?_, ?_, kept first holds⟩
  · intro there
    exact (List.mem_append.1 there).elim ahead fresh
  · intro there
    exact (List.mem_append.1 there).elim final behind

end Parts

/-! ## Statements -/

section Works

variable {call : Call} {text : String} {arguments : List Argument} {events : List Event}
  {result : Except Fault Value}

theorem Works.committed (h : Works call text arguments events result)
    (there : .committed ∈ events) : Once .committed (call.Succeeds .execute) events := by
  cases h with
  | unexecuted failed => simp at there
  | uncommitted executes _ | silent executes _ _ | unfetched executes _ _ _ | unread executes _ _ _ _
  | read executes _ _ _ _ =>
      exact ⟨[.executed text arguments], _, rfl, by simp, by simp, List.mem_singleton.2 rfl, executes⟩

theorem Works.fetched (h : Works call text arguments events result)
    (there : .fetched ∈ events) : Once .fetched (call.Succeeds .commit) events := by
  cases h with
  | unexecuted _ | uncommitted _ _ | silent _ _ _ => simp at there
  | unfetched _ commits _ _ | unread _ commits _ _ _ | read _ commits _ _ _ =>
      exact ⟨[.executed text arguments, .committed], [], rfl, by simp, by simp,
        List.mem_cons_of_mem _ (List.mem_singleton.2 rfl), commits⟩

/-- A statement fails when one of its steps does, or when its rows cannot be read. -/
theorem Works.error_iff (h : Works call text arguments events result) :
    (∃ fault, result = .error fault) ↔ call.Fails .execute events ∨ call.Fails .commit events ∨
      call.Misreads events := by
  -- how a statement ended says which of its steps were taken and which of them failed
  cases h with
  | unexecuted executes => simp [Call.Fails, stepsIn, Event.step?, executes]
  | uncommitted _ commits => simp [Call.Fails, stepsIn, Event.step?, commits]
  | silent executes commits _ =>
      simp [Call.Misreads, Call.Fails, Call.Succeeds, stepsIn, Event.step?, executes, commits]
  | unfetched _ _ _ fetches => simp [Call.Misreads, Call.Fails, stepsIn, Event.step?, fetches]
  | unread _ _ answers fetches reads =>
      simp [Call.Misreads, Call.Succeeds, Call.Unreadable, stepsIn, Event.step?, answers, fetches,
        reads]
  | read executes commits answers fetches reads =>
      simp [Call.Misreads, Call.Fails, Call.Unreadable, stepsIn, Event.step?, answers, executes,
        commits, fetches, reads]

/-- A statement does nothing to the cursor or the connection. -/
theorem Works.apart (h : Works call text arguments events result) :
    .cursorClosed ∉ events ∧ .rolledBack ∉ events ∧ .givenBack ∉ events := by
  cases h <;> simp

/-- What happens after a statement: only a failure is undone. -/
def ending : Except Fault Value → List Event
  | .error _ => [.cursorClosed, .rolledBack, .givenBack]
  | .ok _ => [.cursorClosed, .givenBack]

/-- What happens around a statement that has a cursor. -/
def around (result : Except Fault Value) (events : List Event) : List Event :=
  [.connected, .cursorOpened] ++ events ++ ending result

/-- Around a statement only the cursor and the connection are at work. -/
theorem mem_stepsIn_around {step : Step} (own : step = .execute ∨ step = .commit ∨ step = .fetch) :
    step ∈ stepsIn (around result events) ↔ step ∈ stepsIn events := by
  have front : step ∉ stepsIn [.connected, .cursorOpened] := by
    rcases own with rfl | rfl | rfl <;> decide
  have back : step ∉ stepsIn (ending result) := by
    cases result <;> rcases own with rfl | rfl | rfl <;> simp [ending, stepsIn, Event.step?]
  rw [around, stepsIn_append, stepsIn_append, List.mem_append, List.mem_append]
  simp [front, back]

/-- What a statement does once happens once with what is around it. -/
theorem once_around {event : Event} {step : Step} (own : event = .committed ∨ event = .fetched)
    (there : event ∈ around result events)
    (once : event ∈ events → Once event (call.Succeeds step) events) :
    Once event (call.Succeeds step) (around result events) := by
  have front : event ∉ [Event.connected, .cursorOpened] := by
    rcases own with rfl | rfl <;> simp
  have back : event ∉ ending result := by
    cases result <;> rcases own with rfl | rfl <;> simp [ending]
  have within : event ∈ events := by
    rcases List.mem_append.1 there with before | after
    · exact (List.mem_append.1 before).resolve_left front
    · exact absurd after back
  exact (once within).within (fun s ran => ran.append _) front back

theorem succeeds_around_iff {step : Step} (own : step = .execute ∨ step = .commit ∨ step = .fetch) :
    call.Succeeds step (around result events) ↔ call.Succeeds step events :=
  and_congr_left' (mem_stepsIn_around own)

theorem fails_around_iff {step : Step} (own : step = .execute ∨ step = .commit ∨ step = .fetch) :
    call.Fails step (around result events) ↔ call.Fails step events :=
  and_congr_left' (mem_stepsIn_around own)

theorem misreads_around_iff : call.Misreads (around result events) ↔ call.Misreads events :=
  or_congr (fails_around_iff (.inr (.inr rfl)))
    (and_congr_left' (succeeds_around_iff (.inr (.inr rfl))))

/-- With an open cursor it is the statement that breaks. -/
theorem breaks_around_iff (opens : call.failure .cursor = none)
    (h : Works call text arguments events result) :
    call.Breaks (around result events) ↔ ∃ fault, result = .error fault := by
  have cursor : ¬call.Fails .cursor (around result events) := fun failed => failed.2 opens
  rw [h.error_iff, Call.Breaks, fails_around_iff (.inl rfl), fails_around_iff (.inr (.inl rfl)),
    misreads_around_iff]
  exact or_iff_right cursor

end Works

/-! ## Connections -/

section Connections

variable {call : Call} {text : String} {arguments : List Argument} {events : List Event}
  {result : Except Fault Value}

/-- A cursor that does not open is rolled back and has nothing to close. -/
theorem orderly_unopened {fault : Fault} (opens : call.failure .cursor = some fault) :
    call.Orderly [.connected, .cursorOpened, .rolledBack, .givenBack] where
  givenBack := ⟨[.connected, .cursorOpened, .rolledBack], rfl, by simp⟩
  closed succeeds := by simp [Call.Succeeds, opens] at succeeds
  unopened _ := by simp
  committed there := by simp at there
  fetched there := by simp at there
  rolledBack _ := ⟨[.connected, .cursorOpened], [.givenBack], rfl, by simp, by simp, trivial⟩
  kept whole := by simp [Call.Breaks, Call.Fails, stepsIn, Event.step?, opens] at whole

/-- The cursor is closed before the rollback, and the connection given back after it. -/
theorem orderly_around (opens : call.failure .cursor = none)
    (h : Works call text arguments events result) : call.Orderly (around result events) := by
  rcases h.apart with ⟨closing, rolling, giving⟩
  have breaks := breaks_around_iff opens h
  -- the statement says what was committed and fetched, the ending says all the rest
  constructor
  case givenBack =>
    cases result with
    | error fault =>
        exact ⟨[.connected, .cursorOpened] ++ events ++ [.cursorClosed, .rolledBack],
          by simp [around, ending], by simp [giving]⟩
    | ok rows =>
        exact ⟨[.connected, .cursorOpened] ++ events ++ [.cursorClosed], by simp [around, ending],
          by simp [giving]⟩
  case closed =>
    intro _
    have last : ∃ after, ending result = .cursorClosed :: after ∧ .cursorClosed ∉ after := by
      cases result <;> exact ⟨_, rfl, by simp⟩
    rcases last with ⟨after, ends, once⟩
    exact ⟨[.connected, .cursorOpened] ++ events, after, by simp [around, ends], by simp [closing],
      once, by simp [rolling]⟩
  case unopened =>
    intro failed
    have opened : .cursor ∈ stepsIn (around result events) :=
      List.mem_cons_of_mem _ (List.mem_cons_self ..)
    exact absurd ⟨opened, opens⟩ failed
  case committed =>
    intro there
    exact once_around (.inl rfl) there h.committed
  case fetched =>
    intro there
    exact once_around (.inr rfl) there h.fetched
  case rolledBack =>
    intro broken
    rcases breaks.1 broken with ⟨fault, rfl⟩
    exact ⟨[.connected, .cursorOpened] ++ events ++ [.cursorClosed], [.givenBack],
      by simp [around, ending], by simp [rolling], by simp, trivial⟩
  case kept =>
    intro whole
    cases result with
    | error fault => exact absurd (breaks.2 ⟨fault, rfl⟩) whole
    | ok rows => simp [around, ending, rolling]

theorem isRefused_iff : call.IsRefused ↔
    ∃ fault, driverForm call.command.text call.command.arguments = .error fault :=
  exists_driverForm_error_iff.symm

theorem not_isRefused {form : String × List Argument}
    (formed : driverForm call.command.text call.command.arguments = .ok form) : ¬call.IsRefused := by
  intro refused
  rcases isRefused_iff.1 refused with ⟨fault, stops⟩
  rw [formed] at stops
  cases stops

/-- A call with a connection is disciplined if its trace is orderly. -/
theorem Call.Orderly.disciplined {trace : List Event} {form : String × List Argument}
    (orderly : call.Orderly trace)
    (formed : driverForm call.command.text call.command.arguments = .ok form)
    (connects : call.failure .connect = none) : call.Disciplined trace where
  refused refused := absurd refused (not_isRefused formed)
  unconnected _ failed := absurd connects failed
  connected _ _ := orderly

theorem Serves.disciplined {trace : List Event} (h : Serves call trace result) :
    call.Disciplined trace := by
  -- a command is refused exactly if it has no form for the driver
  cases h with
  | refused stops =>
      have refused := isRefused_iff.2 ⟨_, stops⟩
      exact ⟨fun _ => rfl, absurd refused, absurd refused⟩
  | unconnected formed failed =>
      constructor
      · intro refused
        exact absurd refused (not_isRefused formed)
      · intro _ _
        rfl
      · intro _ connects
        rw [failed] at connects
        cases connects
  | unopened formed connects opens => exact (orderly_unopened opens).disciplined formed connects
  | undone formed connects opens works | finished formed connects opens works =>
      exact (orderly_around opens works).disciplined formed connects

end Connections

/-! ## Sequences of calls -/

namespace Pool

/-- Calls leave their traces in the history one after the other, and each of them is disciplined: a
call that is refused touches nothing, a call without a connection asks for one and no more, and every
other call gives its connection back. -/
theorem serveAll_disciplined (pool : Pool) (calls : List Call) :
    (pool.serveAll calls).history = pool.history ++ (pool.traces calls).flatten ∧
      List.Forall₂ Call.Disciplined calls (pool.traces calls) := by
  have each : ∀ (pool : Pool) (call : Call), call.Disciplined (pool.traceOf call) := by
    intro pool call
    exact (pool.serves_serve call).1.disciplined
  exact ⟨pool.history_serveAll calls, forall₂_traces each pool calls⟩

end Pool

/-! ## Numerals that are too long -/

/-- A placeholder for the first argument with zeros before its number. -/
def paddedOne (zeros : Nat) : List Char := List.replicate zeros '0' ++ ['1']

/-- A statement with one argument, whose placeholder has one digit too many. -/
def longNumeral : Call where
  command := ⟨"SELECT $" ++ String.ofList (paddedOne Numeral.digitLimit), [.plain (.int 1)]⟩

theorem isDigit_paddedOne {zeros : Nat} : ∀ c ∈ paddedOne zeros, Numeral.isDigit c = true := by
  intro c hc
  rcases List.mem_append.1 hc with zero | one
  · rw [List.eq_of_mem_replicate zero]
    decide
  · rw [List.mem_singleton.1 one]
    decide

/-- Zeros before a number add nothing to it. -/
theorem digitsValue_paddedOne (zeros : Nat) : Numeral.digitsValue (paddedOne zeros) = 1 := by
  induction zeros with
  | zero => rfl
  | succ zeros ih => exact ih

theorem numeralsIn_select {digits : List Char} (some : digits ≠ [])
    (plain : ∀ c ∈ digits, Numeral.isDigit c = true) :
    numeralsIn ("SELECT $" ++ String.ofList digits).toList = [digits] := by
  have own : piecesOf ('$' :: (digits ++ [])) = .placeholder digits :: piecesOf [] :=
    piecesOf_placeholder (fun c member => isDecimalDigit_of_isDigit (plain c member)) some (by decide)
  have ahead : '$' ∉ "SELECT ".toList := by decide
  calc
    numeralsIn ("SELECT $" ++ String.ofList digits).toList
        = numeralsIn ("SELECT ".toList ++ '$' :: (digits ++ [])) := by simp
    _ = numeralsIn ('$' :: (digits ++ [])) := numeralsIn_plain_append ahead _
    _ = [digits] := by rw [numeralsIn, own]; rfl

/-- The placeholder names the argument and the pool would connect, and still nothing happens. -/
theorem longNumeral_not_orderly :
    ¬Strays longNumeral.command.text longNumeral.command.arguments.length ∧
      longNumeral.failure .connect = none ∧
        ¬longNumeral.Orderly (Pool.traceOf {} longNumeral) := by
  have shown : numeralsIn longNumeral.command.text.toList = [paddedOne Numeral.digitLimit] :=
    numeralsIn_select (by simp [paddedOne]) isDigit_paddedOne
  have long : IsOverlong longNumeral.command.text :=
    ⟨paddedOne Numeral.digitLimit, by simp [shown], by simp [paddedOne]⟩
  refine ⟨?_, rfl, ?_⟩
  · rintro ⟨digits, placed, outside⟩
    rw [shown, List.mem_singleton] at placed
    rw [placed, numeralValue, Numeral.map_simplify_of_digits isDigit_paddedOne,
      digitsValue_paddedOne] at outside
    exact outside.elim (by decide) (by decide)
  · -- an orderly trace ends with the return of the connection, and here there is no event at all
    intro orderly
    have nothing : Pool.traceOf {} longNumeral = [] :=
      (Pool.serves_serve {} longNumeral).1.disciplined.refused (.inr long)
    rcases orderly.givenBack with ⟨before, whole, _⟩
    rw [nothing] at whole
    exact absurd whole.symm (by simp)

end DataGateway.Relational
