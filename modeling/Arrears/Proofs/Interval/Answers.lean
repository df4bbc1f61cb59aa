import Arrears.Interval.Session
import Arrears.Proofs.Outcome

/-! What an interval under work answers to each request, and what the request leaves behind. A fault
inside of a request ends it where it stands, so each answer is found by running the request's steps
and seen to be that of the interval as it was in front of the request. -/

set_option autoImplicit false

namespace Arrears

namespace Session

/-! ## Steps -/

section

variable {α β : Type}

theorem run_bind (action : Work α) (next : α → Work β) (session : Session) :
    ExceptT.run (action >>= next) session = match ExceptT.run action session with
      | (.ok a, after) => ExceptT.run (next a) after
      | (.error error, after) => (.error error, after) := by
  change (match ExceptT.run action session with
    | (outcome, after) => ExceptT.bindCont next outcome after) = _
  rcases ExceptT.run action session with ⟨_ | _, _⟩ <;> rfl

theorem run_pure (a : α) (session : Session) :
    ExceptT.run (pure a : Work α) session = (.ok a, session) := rfl

theorem run_get (session : Session) :
    ExceptT.run (get : Work Session) session = (.ok session, session) := rfl

theorem run_modify (change : Session → Session) (session : Session) :
    ExceptT.run (modify change : Work PUnit) session = (.ok .unit, change session) := rfl

theorem run_lift (outcome : Except Error α) (session : Session) :
    ExceptT.run (liftM outcome : Work α) session = (outcome, session) := rfl

theorem run_lift_lifecycle (outcome : Except LifecycleFault α) (session : Session) :
    ExceptT.run (liftM outcome : Work α) session = (outcome.mapError .lifecycle, session) := rfl

theorem run_lift_date (outcome : Except Date.Fault α) (session : Session) :
    ExceptT.run (liftM outcome : Work α) session = (outcome.mapError .date, session) := rfl

end

/-! ## Answers -/

theorem answer_add (session : Session) (event : BillingEvent) :
    session.answer (.add event) = match session.interval.add event with
      | .ok interval => (.ok .done, { session with events := interval.events })
      | .error fault => (.error (.lifecycle fault), session) := by
  rcases session with ⟨given, events, transitions, _ | _, issued⟩ <;> rfl

theorem answer_rollUp (session : Session) :
    session.answer .rollUp =
      ((session.interval.rolledUp.mapError Error.lifecycle).map .usage, session) := by
  simp only [answer, perform, run_bind, run_get, run_lift_lifecycle]
  cases session.interval.rolledUp <;> rfl

theorem answer_price (session : Session) (rolled : RolledUsage) :
    session.answer (.price rolled) =
      ((session.interval.priceUsed rolled.units).map .lines, session) := by
  simp only [answer, perform, run_bind, run_get, run_lift]
  cases session.interval.priceUsed rolled.units <;> rfl

theorem answer_next (session : Session) :
    session.answer .next = (session.interval.nextNotification.map .date, session) := by
  simp only [answer, perform, run_bind, run_get, run_lift]
  cases session.interval.nextNotification <;> rfl

theorem answer_bill (session : Session) (existing : List Item) :
    session.answer (.bill existing) =
      ((session.interval.bill existing).next.map fun next =>
          .bill (Item.number session.issued (session.interval.bill existing).drafts) next,
        { session with
          issued := session.issued + (session.interval.bill existing).drafts.length }) := by
  simp only [answer, perform, bill, run_bind, run_get, run_modify, run_lift]
  cases (session.interval.bill existing).next <;> rfl

theorem requireCollecting_eq_ok {interval : UsageInterval} {u : Unit} :
    interval.requireCollecting = .ok u ↔ interval.isBuilt = false := by
  unfold UsageInterval.requireCollecting
  cases interval.isBuilt <;> simp

theorem interval_isBuilt (session : Session) : session.interval.isBuilt = session.isBuilt := by
  rcases session with ⟨given, events, transitions, _ | _, issued⟩ <;> rfl

theorem ok_bind {ε α β : Type} (a : α) (next : α → Except ε β) : Except.ok a >>= next = next a := rfl

theorem lift_lifecycle {α : Type} (outcome : Except LifecycleFault α) :
    (liftM outcome : Except Error α) = outcome.mapError .lifecycle := rfl

theorem lift_date {α : Type} (outcome : Except Date.Fault α) :
    (liftM outcome : Except Error α) = outcome.mapError .date := rfl

/-- Building a session is building its interval; where that fails the session is as before. -/
theorem answer_build {session : Session} (tidy : session.isBuilt = false → session.transitions = [])
    (closed : Bool) :
    session.answer (.build closed) = match session.interval.build closed with
      | .ok interval =>
        (.ok .done, { session with transitions := interval.transitions, isBuilt := true })
      | .error error => (.error error, session) := by
  simp only [answer, perform, build, UsageInterval.build, run_bind, run_get, run_lift_lifecycle,
    lift_lifecycle, lift_date]
  cases phase : session.interval.requireCollecting with
  | error fault => rfl
  | ok =>
    have none_yet : session.transitions = [] :=
      tidy (by rw [← interval_isBuilt, requireCollecting_eq_ok.1 phase])
    by_cases few : session.interval.events.length < requiredEvents closed
    · simp only [if_pos few]
      rfl
    cases session.interval.firstEvent with
    | error fault => simp only [if_neg few]; rfl
    | ok event =>
      simp only [if_neg few, mapError_ok, run_pure, run_bind, run_lift_lifecycle, run_lift_date, ok_bind]
      cases session.interval.localDate event with
      | error fault => rfl
      | ok start =>
        simp only [mapError_ok, ok_bind]
        by_cases early : session.interval.target < start
        · simp only [if_pos early, run_modify, none_yet]
          rfl
        simp only [if_neg early, run_bind, run_lift]
        cases session.interval.transitionsFrom start event.cycleDay closed <;> rfl

end Session

end Arrears
