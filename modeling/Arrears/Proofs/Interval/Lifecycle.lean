import Arrears.Proofs.Interval.Answers
import Arrears.Proofs.Interval.Run
import Mathlib.Data.List.TakeWhile

/-! The two phases of an interval. Events are collected up to the one build that succeeds; from then
on events and transitions stay as they are and the interval only computes. This is one invariant of
the sessions along a trace, kept by each exchange whatever is requested and however it ends. -/

set_option autoImplicit false

namespace Arrears

namespace Request

def event? : Request → Option BillingEvent
  | .add event => some event
  | _ => none

def collects : Request → Bool
  | .add _ | .build _ => true
  | _ => false

def needsBuild : Request → Bool
  | .rollUp | .price _ | .bill _ => true
  | _ => false

end Request

def Reply.withoutIds : Reply → Reply
  | .bill items next => .bill (items.map fun item => { item with id := .null }) next
  | reply => reply

def Exchange.builds (exchange : Exchange) : Bool :=
  match exchange.request, exchange.outcome with
  | .build _, .ok _ => true
  | _, _ => false

namespace Session

/-- What a session holds beside what it is given: events, transitions and the phase. -/
def held (session : Session) : List BillingEvent × List Date × Bool :=
  (session.events, session.transitions, session.isBuilt)

/-! ## One request -/

/-- The ways in which a session answers a request. -/
inductive Step (session : Session) : Request → Except Error Reply → Session → Prop where
  | adds (event : BillingEvent) (collecting : session.isBuilt = false) :
    Step session (.add event) (.ok .done) { session with events := session.events ++ [event] }
  | tooLate (event : BillingEvent) (built : session.isBuilt) :
    Step session (.add event) (.error (.lifecycle (.alreadyBuilt session.given.usage.name))) session
  | builds (closed : Bool) (interval : UsageInterval) (collecting : session.isBuilt = false)
      (built : session.interval.build closed = .ok interval) :
    Step session (.build closed) (.ok .done)
      { session with transitions := interval.transitions, isBuilt := true }
  | fails (closed : Bool) (error : Error) (failed : session.interval.build closed = .error error) :
    Step session (.build closed) (.error error) session
  | computes (request : Request) (outcome : Except Error Reply) (issued : Nat)
      (computing : request.collects = false) :
    Step session request outcome { session with issued }

theorem build_requires {interval built : UsageInterval} {closed : Bool}
    (success : interval.build closed = .ok built) : interval.isBuilt = false := by
  obtain ⟨_, collecting, _⟩ := bind_eq_ok.1 success
  exact requireCollecting_eq_ok.1 (mapError_eq_ok.1 collecting)

theorem step_answer {session : Session} (tidy : session.isBuilt = false → session.transitions = [])
    (request : Request) :
    Step session request (session.answer request).1 (session.answer request).2 := by
  cases request with
  | add event =>
    rw [answer_add]
    rcases session with ⟨given, events, transitions, _ | _, issued⟩
    · exact .adds event rfl
    · exact .tooLate event rfl
  | build closed =>
    rw [answer_build tidy]
    cases built : session.interval.build closed with
    | ok interval =>
      exact .builds closed interval (session.interval_isBuilt ▸ build_requires built) built
    | error error => exact .fails closed error built
  | rollUp => rw [answer_rollUp]; exact .computes _ _ session.issued rfl
  | price rolled => rw [answer_price]; exact .computes _ _ session.issued rfl
  | bill existing => rw [answer_bill]; exact .computes _ _ _ rfl
  | next => rw [answer_next]; exact .computes _ _ session.issued rfl

section

variable {session : Session}

theorem answer_early (collecting : session.isBuilt = false) {request : Request}
    (needs : request.needsBuild) :
    (session.answer request).1 = .error (.lifecycle (.notBuilt session.given.usage.name)) := by
  have refused : session.interval.requireBuilt = .error (.notBuilt session.given.usage.name) := by
    rw [UsageInterval.requireBuilt, interval_isBuilt, collecting]
    rfl
  cases request with
  | rollUp =>
    rw [answer_rollUp, UsageInterval.rolledUp, refused]
    rfl
  | price rolled =>
    rw [answer_price, UsageInterval.priceUsed, refused]
    rfl
  | bill existing =>
    rw [answer_bill, UsageInterval.bill, refused]
    rfl
  | add | build | next => exact absurd needs Bool.false_ne_true

theorem answer_late (built : session.isBuilt) {request : Request} (collects : request.collects) :
    session.answer request =
      (.error (.lifecycle (.alreadyBuilt session.given.usage.name)), session) := by
  have refused : session.interval.requireCollecting =
      .error (.alreadyBuilt session.given.usage.name) := by
    rw [UsageInterval.requireCollecting, interval_isBuilt, built]
    rfl
  cases request with
  | add event =>
    rw [answer_add, UsageInterval.add, refused]
    rfl
  | build closed =>
    rw [answer_build (by simp [built]), UsageInterval.build, refused]
    rfl
  | rollUp | price | bill | next => exact absurd collects Bool.false_ne_true

/-- Where a request fails, and where it follows a build, the session holds what it held. -/
theorem held_answer (tidy : session.isBuilt = false → session.transitions = []) (request : Request)
    (still : session.isBuilt ∨ ∃ error, (session.answer request).1 = .error error) :
    (session.answer request).2.held = session.held := by
  have step := step_answer tidy request
  generalize (session.answer request).1 = outcome at step still
  generalize (session.answer request).2 = after at step
  cases step with
  | adds event collecting => simp [collecting] at still
  | builds closed interval collecting built => simp [collecting] at still
  | tooLate | fails | computes => rfl

theorem withoutIds_number (issued other : Nat) (drafts : List Draft) :
    (Item.number issued drafts).map (fun item => { item with id := .null }) =
      (Item.number other drafts).map fun item => { item with id := .null } := by
  induction drafts generalizing issued other with
  | nil => rfl
  | cons draft drafts ih => exact congrArg (_ :: ·) (ih (issued + 1) (other + 1))

/-- How many identifiers were issued shows in identifiers only. -/
theorem outcome_congr {one other : Session} (same_given : one.given = other.given)
    (same_held : one.held = other.held) (tidy : one.isBuilt = false → one.transitions = [])
    (request : Request) :
    (one.answer request).1.map Reply.withoutIds = (other.answer request).1.map Reply.withoutIds := by
  obtain ⟨given, events, transitions, isBuilt, issued⟩ := one
  obtain ⟨_, _, _, _, alsoIssued⟩ := other
  cases same_given
  cases same_held
  -- Apart from what was issued the sessions are one, and so are their intervals.
  have same_interval : interval ⟨given, events, transitions, isBuilt, issued⟩ =
    interval ⟨given, events, transitions, isBuilt, alsoIssued⟩ := rfl
  cases request with
  | add event => cases isBuilt <;> rfl
  | build closed =>
    have also_tidy : (Session.mk given events transitions isBuilt alsoIssued).isBuilt = false →
      (Session.mk given events transitions isBuilt alsoIssued).transitions = [] := tidy
    rw [answer_build tidy, answer_build also_tidy, same_interval]
    cases (interval ⟨given, events, transitions, isBuilt, alsoIssued⟩).build closed <;> rfl
  | rollUp => rw [answer_rollUp, answer_rollUp, same_interval]
  | price rolled => rw [answer_price, answer_price, same_interval]
  | bill existing =>
    rw [answer_bill, answer_bill, same_interval]
    cases (interval ⟨given, events, transitions, isBuilt, alsoIssued⟩).bill existing |>.next with
    | error error => rfl
    | ok next =>
      exact congrArg (fun items => Except.ok (Reply.bill items next))
        (withoutIds_number issued alsoIssued _)
  | next => rw [answer_next, answer_next, same_interval]

end

/-! ## A trace -/

/-- A session stands in its phase as the past exchanges say: it is built if one of them is a build
that succeeded, holds what that build left, and has the events that were added in front of it. -/
structure Behind (given : UsageInterval) (past : List Exchange) (session : Session) : Prop where
  given_eq : session.given = given
  tidy : session.isBuilt = false → session.transitions = []
  phase : session.isBuilt = past.any Exchange.builds
  once : past.countP Exchange.builds ≤ 1
  events : session.events =
    (past.takeWhile fun exchange => !exchange.builds).filterMap fun exchange => exchange.request.event?
  kept : ∀ built ∈ past, built.builds → session.held = built.after.held

theorem behind_start (given : UsageInterval) (issued : Nat) : Behind given [] (start given issued) where
  given_eq := rfl
  tidy _ := rfl
  phase := rfl
  once := Nat.zero_le 1
  events := rfl
  kept _ member := nomatch member

variable {given : UsageInterval} {past : List Exchange} {session : Session}

theorem Behind.none_builds (behind : Behind given past session) (collecting : session.isBuilt = false) :
    ∀ exchange ∈ past, exchange.builds = false := by
  have none_builds : past.any Exchange.builds = false := behind.phase ▸ collecting
  exact fun exchange member => Bool.eq_false_iff.2 (List.any_eq_false.1 none_builds exchange member)

theorem takeWhile_append_of_any {α : Type} {p : α → Bool} {front : List α} (stops : front.any p)
    (back : List α) :
    ((front ++ back).takeWhile fun a => !p a) = front.takeWhile fun a => !p a := by
  induction front with
  | nil => nomatch stops
  | cons a front ih =>
    cases here : p a with
    | true => simp [here]
    | false => simpa [here] using ih (by simpa [here] using stops)

theorem Behind.events_append (behind : Behind given past session) (next : Exchange) :
    ((past ++ [next]).takeWhile fun exchange => !exchange.builds).filterMap
        (fun exchange => exchange.request.event?) =
      session.events ++
        if session.isBuilt || next.builds then [] else next.request.event?.toList := by
  rw [behind.events]
  cases phase : session.isBuilt with
  | true =>
    rw [takeWhile_append_of_any (behind.phase ▸ phase)]
    simp
  | false =>
    have collecting : ∀ exchange ∈ past, (!exchange.builds) = true := fun exchange member => by
      rw [behind.none_builds phase exchange member]
      rfl
    rw [List.takeWhile_append_of_pos collecting, List.takeWhile_eq_self_iff.2 collecting,
      List.filterMap_append]
    cases stops : next.builds with
    | true => simp [stops]
    | false =>
      cases added : next.request.event? <;> simp [stops, added]

theorem Behind.kept_of_collecting (behind : Behind given past session)
    (collecting : session.isBuilt = false) (next : Exchange) :
    ∀ built ∈ past ++ [next], built.builds → next.after.held = built.after.held := by
  intro built member success
  rcases List.mem_append.1 member with member | member
  · rw [behind.none_builds collecting built member] at success
    nomatch success
  · rw [List.mem_singleton.1 member]

theorem Behind.quiet (behind : Behind given past session) {next : Exchange}
    (builds : next.builds = false) (event : next.request.event? = none ∨ session.isBuilt)
    {issued : Nat} : Behind given (past ++ [next]) { session with issued } where
  given_eq := behind.given_eq
  tidy := behind.tidy
  phase := by simp [behind.phase, builds]
  once := by simpa [builds] using behind.once
  events := by
    rw [behind.events_append]
    rcases event with none_added | built
    · simp [none_added]
    · simp [built]
  kept built member success := by
    rcases List.mem_append.1 member with member | member
    · exact behind.kept built member success
    · cases List.mem_singleton.1 member
      exact absurd success (by simp [builds])

theorem Behind.exchange (behind : Behind given past session) (request : Request) :
    Behind given (past ++ [session.exchange request]) (session.answer request).2 := by
  have step := step_answer behind.tidy request
  have same : session.exchange request =
    ⟨request, session, (session.answer request).1, (session.answer request).2⟩ := rfl
  rw [same]
  generalize (session.answer request).1 = outcome at step ⊢
  generalize (session.answer request).2 = after at step ⊢
  cases step with
  | adds event collecting =>
    refine ⟨behind.given_eq, behind.tidy, ?_, ?_, ?_, behind.kept_of_collecting collecting _⟩
    · simp [behind.phase, Exchange.builds]
    · simpa [Exchange.builds] using behind.once
    · rw [behind.events_append]
      simp [collecting, Exchange.builds, Request.event?]
  | tooLate event built => exact behind.quiet rfl (.inr built)
  | builds closed interval collecting built =>
    refine ⟨behind.given_eq, nofun, ?_, ?_, ?_, behind.kept_of_collecting collecting _⟩
    · simp [Exchange.builds]
    · have none_builds : past.countP Exchange.builds = 0 :=
        List.countP_eq_zero.2 fun exchange member => by simp [behind.none_builds collecting exchange member]
      simp [none_builds, Exchange.builds]
    · rw [behind.events_append]
      simp [collecting, Exchange.builds]
  | fails closed error failed => exact behind.quiet rfl (.inl rfl)
  | computes request outcome issued computing =>
    refine behind.quiet ?_ (.inl ?_)
    · cases request <;> first | rfl | nomatch computing
    · cases request <;> first | rfl | nomatch computing

theorem Behind.before_of_trace (behind : Behind given past session) {requests : List Request}
    {front back : List Exchange} {entry : Exchange}
    (split : session.trace requests = front ++ entry :: back) :
    Behind given (past ++ front) entry.before ∧ entry = entry.before.exchange entry.request := by
  induction front generalizing past session requests with
  | nil =>
    cases requests with
    | nil => nomatch split
    | cons request requests =>
      obtain ⟨rfl, -⟩ := List.cons.inj split
      rw [List.append_nil]
      exact ⟨behind, rfl⟩
  | cons first front ih =>
    cases requests with
    | nil => nomatch split
    | cons request requests =>
      obtain ⟨rfl, rest⟩ := List.cons.inj split
      simpa using ih (behind.exchange request) rest

/-- Whatever follows a build that succeeded begins with what the build left. -/
theorem Behind.of_build (behind : Behind given past session) {requests : List Request}
    {front back : List Exchange} {built entry : Exchange} (success : built.builds)
    (split : session.trace requests = front ++ built :: back) (member : entry ∈ back) :
    entry = entry.before.exchange entry.request ∧ entry.before.given = given ∧
      entry.before.isBuilt ∧ entry.before.held = built.after.held := by
  obtain ⟨between, rest, rfl⟩ := List.append_of_mem member
  have regrouped : session.trace requests = (front ++ built :: between) ++ entry :: rest := by
    rw [split, List.append_assoc, List.cons_append]
  obtain ⟨here, same⟩ := behind.before_of_trace regrouped
  have built_before : built ∈ past ++ (front ++ built :: between) := by simp
  refine ⟨same, here.given_eq, ?_, here.kept built built_before success⟩
  rw [here.phase]
  exact List.any_eq_true.2 ⟨built, built_before, success⟩

end Session

/-- What the two phases of an interval promise for the exchanges of a session: at most one build
succeeds; the events are those that were added in front of it, in order; behind it nothing changes
any more, and each request gets the same answer again; what fails changes nothing. -/
structure TwoPhased (given : UsageInterval) (trace : List Exchange) : Prop where
  once : trace.countP Exchange.builds ≤ 1
  phase : ∀ front entry back, trace = front ++ entry :: back →
    entry.after.isBuilt = (front ++ [entry]).any Exchange.builds
  events : ∀ front entry back, trace = front ++ entry :: back →
    entry.after.events = ((front ++ [entry]).takeWhile fun earlier => !earlier.builds).filterMap
      fun earlier => earlier.request.event?
  early : ∀ front entry back, trace = front ++ entry :: back →
    (∀ earlier ∈ front, ¬ earlier.builds) → entry.request.needsBuild →
      entry.outcome = .error (.lifecycle (.notBuilt given.usage.name))
  late : ∀ front built back, trace = front ++ built :: back → built.builds →
    ∀ entry ∈ back, entry.request.collects →
      entry.outcome = .error (.lifecycle (.alreadyBuilt given.usage.name))
  kept : ∀ front built back, trace = front ++ built :: back → built.builds →
    ∀ entry ∈ back, entry.before.held = built.after.held ∧ entry.after.held = built.after.held
  repeated : ∀ front built back, trace = front ++ built :: back → built.builds →
    ∀ one ∈ back, ∀ other ∈ back, one.request = other.request →
      one.outcome.map Reply.withoutIds = other.outcome.map Reply.withoutIds
  unharmed : ∀ entry ∈ trace, ∀ error, entry.outcome = .error error →
    entry.after.held = entry.before.held

namespace Session

/-- Whatever is requested of a new interval, in whatever order, keeps to the two phases. -/
theorem two_phased (given : UsageInterval) (issued : Nat) (requests : List Request) :
    TwoPhased given ((start given issued).trace requests) := by
  have begins := behind_start given issued
  have behind_after {front back : List Exchange} {entry : Exchange}
      (split : (start given issued).trace requests = front ++ entry :: back) :
      Behind given (front ++ [entry]) entry.after := by
    obtain ⟨behind, same⟩ := begins.before_of_trace split
    rw [same]
    exact behind.exchange entry.request
  refine ⟨?once, ?phase, ?events, ?early, ?late, ?kept, ?repeated, ?unharmed⟩
  case once =>
    rcases List.eq_nil_or_concat ((start given issued).trace requests) with empty | ⟨front, entry, split⟩
    · rw [empty]
      exact Nat.zero_le 1
    · rw [List.concat_eq_append] at split
      rw [split]
      exact (behind_after split).once
  case phase => exact fun front entry back split => (behind_after split).phase
  case events => exact fun front entry back split => (behind_after split).events
  case early =>
    intro front entry back split none_builds needs
    obtain ⟨behind, same⟩ := begins.before_of_trace split
    have collecting : entry.before.isBuilt = false := by
      rw [behind.phase]
      exact List.any_eq_false.2 none_builds
    rw [same, ← behind.given_eq]
    exact answer_early collecting needs
  case late =>
    intro front built back split success entry member collects
    obtain ⟨same, same_given, phase, -⟩ := begins.of_build success split member
    rw [same, ← same_given]
    exact congrArg Prod.fst (answer_late phase collects)
  case kept =>
    intro front built back split success entry member
    obtain ⟨same, -, phase, same_held⟩ := begins.of_build success split member
    refine ⟨same_held, ?_⟩
    rw [← same_held, same]
    exact held_answer (by simp [phase]) entry.request (.inl phase)
  case repeated =>
    intro front built back split success one one_member other other_member same_request
    obtain ⟨one_same, one_given, one_phase, one_held⟩ := begins.of_build success split one_member
    obtain ⟨other_same, other_given, -, other_held⟩ := begins.of_build success split other_member
    rw [one_same, other_same, same_request]
    exact outcome_congr (one_given.trans other_given.symm) (one_held.trans other_held.symm)
      (by simp [one_phase]) other.request
  case unharmed =>
    intro entry member error failed
    obtain ⟨front, back, split⟩ := List.append_of_mem member
    obtain ⟨behind, same⟩ := begins.before_of_trace split
    rw [same] at failed ⊢
    exact held_answer behind.tidy entry.request (.inr ⟨error, failed⟩)

-- A build without events fails and another one succeeds later; after that no event joins.
open Calls (collecting event) in
example : ((start collecting 0).trace
    [.build false, .add event, .rollUp, .build false, .add event, .build true, .bill []]).map
      (fun exchange => (exchange.builds, exchange.outcome.isOk, exchange.after.events.length)) =
    [(false, false, 0), (false, true, 1), (false, false, 1), (true, true, 1), (false, false, 1),
      (false, false, 1), (false, true, 1)] := by rfl

end Session

end Arrears
