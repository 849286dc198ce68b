import Criteria.Proofs.Repository.History

/-!
# What an executor is asked

Properties of whole histories, for any executor: which calls are made for
a selection, how many of them, and what becomes of their answers. They are
all read off the rule that each request follows (`Event.Proper`); only
that failures come first and at most one success after them (`settled`)
is an induction on the history, from its end.
-/

namespace Criteria

variable {σ ρ : Type}

namespace Event

variable {repo : Repository} {l : Selection ρ} {earlier : List (Event ρ)} {e : Event ρ}

/-- The calls of a kind that were made for events. -/
def callsOf (kind : CallKind) (es : List (Event ρ)) : List (Exchange ρ) :=
  (es.flatMap Event.calls).filter (·.call.kind = kind)

theorem callsOf_append (kind : CallKind) (xs ys : List (Event ρ)) :
    callsOf kind (xs ++ ys) = callsOf kind xs ++ callsOf kind ys := by
  simp [callsOf]

/-- A proper request that makes a call makes this one call, before any
success of its kind, and passes its answer on. -/
theorem Proper.of_call {x : Exchange ρ} (h : Proper repo l earlier e) (hx : x ∈ e.calls) :
    e.calls = [x] ∧ e.request.kind? = some x.call.kind
      ∧ success? x.call.kind earlier = none
      ∧ repo.schema.table l.subject.model = .ok x.call.table
      ∧ repo.compile l.subject l.scope = .ok x.call.query
      ∧ e.answer = (x.answer.mapError .refused).mapError .failed := by
  cases h with
  | gone _ _ hcalls => simp [hcalls] at hx
  | query _ _ _ hcalls => simp [hcalls] at hx
  | kept _ _ _ _ hcalls => simp [hcalls] at hx
  | refused _ _ _ _ _ hcalls => simp [hcalls] at hx
  | asked _ hkind hkept htable hquery hanswer hcalls =>
      rw [hcalls, List.mem_singleton] at hx
      subst hx
      exact ⟨hcalls, hkind, hkept, htable, hquery, hanswer⟩

/-- Failures, and at most one success after them. -/
def Settled (xs : List (Exchange ρ)) : Prop :=
  ∃ failures successes, xs = failures ++ successes
    ∧ (∀ x ∈ failures, ∃ err, x.answer = .error err)
    ∧ (successes = [] ∨ ∃ x a, successes = [x] ∧ x.answer = .ok a)

theorem Settled.of_failures {xs : List (Exchange ρ)} (h : ∀ x ∈ xs, ∃ err, x.answer = .error err) :
    Settled xs :=
  ⟨xs, [], (List.append_nil xs).symm, h, .inl rfl⟩

theorem Follow.settled_aux {es : List (Event ρ)} (h : Follow repo l [] es) (kind : CallKind) :
    Settled (callsOf kind es)
      ∧ (success? kind es = none → ∀ x ∈ callsOf kind es, ∃ err, x.answer = .error err) := by
  induction es using List.reverseRecOn with
  | nil => exact ⟨.of_failures (by simp [callsOf]), by simp [callsOf]⟩
  | append_singleton es e ih =>
      obtain ⟨hes, he⟩ := follow_append.mp h
      have hproper : Proper repo l es e := he.1
      obtain ⟨hsettled, hfailed⟩ := ih hes
      rw [callsOf_append, success?_append, Option.or_eq_none_iff]
      by_cases hcall : ∃ x ∈ e.calls, x.call.kind = kind
      · obtain ⟨x, hx, rfl⟩ := hcall
        obtain ⟨hcalls, hkind, hnone, -, -, hanswer⟩ := hproper.of_call hx
        have hown : callsOf x.call.kind [e] = [x] := by simp [callsOf, hcalls]
        rw [hown, success?_single_self hkind]
        have hbefore := hfailed hnone
        cases hresult : x.answer with
        | error err =>
            have hall : ∀ y ∈ callsOf x.call.kind es ++ [x], ∃ err, y.answer = .error err := by
              intro y hy
              rcases List.mem_append.mp hy with hy | hy
              · exact hbefore y hy
              · rw [List.mem_singleton.mp hy]
                exact ⟨err, hresult⟩
            exact ⟨.of_failures hall, fun _ => hall⟩
        | ok a =>
            refine ⟨⟨_, [x], rfl, hbefore, .inr ⟨x, a, rfl, hresult⟩⟩, fun hnone' => ?_⟩
            rw [hanswer, hresult] at hnone'
            cases hnone'.2
      · have hown : callsOf kind [e] = [] := by
          simpa [callsOf] using hcall
        rw [hown, List.append_nil]
        exact ⟨hsettled, fun hnone => hfailed hnone.1⟩

/-- A success is found again after any later events. -/
theorem Follow.success {earlier mid : List (Event ρ)} {kind : CallKind} {a : Shown ρ}
    (h : Follow repo l [] (earlier ++ e :: mid)) (hheld : ¬ GivenUp earlier)
    (hkind : e.request.kind? = some kind) (hanswer : e.answer = .ok a) :
    success? kind (earlier ++ e :: mid) = some a := by
  have hsuccess := h.proper.success hheld hkind
  rw [hanswer] at hsuccess
  rw [List.append_cons, success?_append, hsuccess]
  rfl

theorem success?_eq_none {es : List (Event ρ)} {kind : CallKind}
    (h : ∀ e ∈ es, e.request.kind? = some kind → ∀ a, e.answer ≠ .ok a) :
    success? kind es = none := by
  rw [success?, List.findSome?_eq_none_iff]
  intro e he
  split
  case isTrue hkind =>
      cases hanswer : e.answer with
      | error f => rfl
      | ok a => exact absurd hanswer (h e he hkind a)
  case isFalse => rfl

end Event

open Event (Follow GivenUp Leaves Settled callsOf)

/-- What holds of the events of a selection, from its first one on. -/
structure Discipline (repo : Repository) (l : Selection ρ) (es : List (Event ρ)) : Prop where
  /-- A call is about the table of the subject and the query of the
  scope. -/
  addressed : ∀ e ∈ es, ∀ x ∈ e.calls, repo.schema.table l.subject.model = .ok x.call.table
    ∧ repo.compile l.subject l.scope = .ok x.call.query
  /-- Nothing is asked with a scope that does not compile. -/
  gated : ∀ f, repo.compile l.subject l.scope = .error f → ∀ e ∈ es, e.calls = []
  /-- A request makes one call or none, and what was answered to the call,
  a failure as well, is the answer to the request. -/
  passedOn : ∀ e ∈ es, ∀ x ∈ e.calls, e.calls = [x] ∧ e.request.kind? = some x.call.kind
    ∧ e.answer = (x.answer.mapError .refused).mapError .failed
  settled : ∀ kind, Settled (callsOf kind es)
  /-- After a success, all requests of its kind are answered with it, and
  make no call; giving up the selection is a request for its rows. -/
  kept : ∀ {earlier e mid e' later kind a}, es = earlier ++ e :: mid ++ e' :: later →
    ¬ GivenUp (earlier ++ e :: mid) → e.request.kind? = some kind → e.answer = .ok a →
      e'.request.kind? = some kind → e'.answer = .ok a ∧ e'.calls = []
  /-- Until there is a success, each request makes its call. -/
  asked : ∀ {earlier e later kind q}, es = earlier ++ e :: later → ¬ GivenUp earlier →
    (∀ e' ∈ earlier, e'.request.kind? = some kind → ∀ a, e'.answer ≠ .ok a) →
      e.request.kind? = some kind → repo.compile l.subject l.scope = .ok q → ∃ x, e.calls = [x]
  /-- The query is shown without a call. -/
  shown : ∀ e ∈ es, e.request = .look .query → e.calls = []
  /-- What is given up is not held any longer. -/
  gone : ∀ {earlier e later}, es = earlier ++ e :: later → GivenUp earlier →
    e.answer = .error .notHeld ∧ e.calls = []

variable {repo : Repository} {l : Selection ρ}

theorem Event.Follow.discipline {es : List (Event ρ)} (h : Follow repo l [] es) :
    Discipline repo l es := by
  have hproper {e : Event ρ} (he : e ∈ es) : ∃ earlier, Event.Proper repo l earlier e := by
    obtain ⟨earlier, later, rfl⟩ := List.append_of_mem he
    exact ⟨earlier, h.proper⟩
  constructor
  case addressed =>
    intro e he x hx
    obtain ⟨earlier, hp⟩ := hproper he
    obtain ⟨-, -, -, htable, hquery, -⟩ := hp.of_call hx
    exact ⟨htable, hquery⟩
  case gated =>
    intro f hf e he
    obtain ⟨earlier, hp⟩ := hproper he
    refine List.eq_nil_iff_forall_not_mem.mpr fun x hx => ?_
    obtain ⟨-, -, -, -, hquery, -⟩ := hp.of_call hx
    rw [hf] at hquery
    cases hquery
  case passedOn =>
    intro e he x hx
    obtain ⟨earlier, hp⟩ := hproper he
    obtain ⟨hcalls, hkind, -, -, -, hanswer⟩ := hp.of_call hx
    exact ⟨hcalls, hkind, hanswer⟩
  case settled => exact fun kind => (h.settled_aux kind).1
  case kept =>
    rintro earlier e mid e' later kind a rfl hheld hkind hanswer hkind'
    have hheld' : ¬ GivenUp earlier := fun hgone => hheld (Event.givenUp_append.mpr (.inl hgone))
    have hsuccess := (Event.follow_append.mp h).1.success hheld' hkind hanswer
    rcases h.proper.of_kind hheld hkind' with ⟨b, hb, hanswer', hcalls⟩ | ⟨hnone, -⟩
    · rw [hsuccess, Option.some_inj] at hb
      exact ⟨hb ▸ hanswer', hcalls⟩
    · rw [hsuccess] at hnone
      cases hnone
  case asked =>
    rintro earlier e later kind q rfl hheld hfailed hkind hq
    have hnone := Event.success?_eq_none hfailed
    rcases h.proper.of_kind hheld hkind with ⟨b, hb, -⟩ | ⟨-, ⟨f, hf, -⟩ | ⟨-, x, -, hx⟩⟩
    · rw [hnone] at hb
      cases hb
    · rw [hq] at hf
      cases hf
    · exact ⟨x, hx⟩
  case shown =>
    intro e he hrequest
    obtain ⟨earlier, hp⟩ := hproper he
    refine List.eq_nil_iff_forall_not_mem.mpr fun x hx => ?_
    obtain ⟨-, hkind, -⟩ := hp.of_call hx
    rw [hrequest] at hkind
    cases hkind
  case gone =>
    rintro earlier e later rfl hgone
    cases h.proper with
    | gone _ hanswer hcalls => exact ⟨hanswer, hcalls⟩
    | query hheld => exact absurd hgone hheld
    | kept hheld => exact absurd hgone hheld
    | refused hheld => exact absurd hgone hheld
    | asked hheld => exact absurd hgone hheld

namespace Session

/-- Whatever is requested from a session, of this selection and of others,
and whatever the executor answers: a selection that starts with nothing
kept has a disciplined history. -/
theorem history_discipline (repo : Repository) (executor : Executor σ ρ)
    (steps : List (String × Request)) {s : Session σ ρ} {name : String} {l : Selection ρ}
    (hheld : s.get? name = some l) (huntouched : l.Untouched) :
    Discipline repo l ((s.history repo executor steps).filter (·.name = name)) := by
  refine Follow.discipline (history_follow executor steps s ?_)
  rw [hheld]
  exact .start huntouched

/-- Posts, and users of their own, in front of an executor that fails
once. -/
def newsroom : Session (Fused (Recorder String)) String where
  selections := [("posts", .all { model := ⟨0⟩ }), ("users", .all { model := ⟨1⟩ })]
  state := ⟨1, { rows := ["first"] }⟩

/-- The failed find is made again, the loaded rows are given without
one, and what was asked about users is no part of it. -/
theorem history_discipline_newsroom :
    let steps : List (String × Request) :=
      [("posts", .look (.ask .find)), ("users", .look (.ask .count)),
        ("posts", .look (.ask .find)), ("posts", .intoRecords), ("users", .intoRecords)]
    let events := (newsroom.history .forum .fusedRecorder steps).filter (·.name = "posts")
    Discipline .forum (.all { model := ⟨0⟩ } : Selection String) events
      ∧ events.map (·.calls.length) = [1, 1, 0] :=
  ⟨history_discipline .forum .fusedRecorder _ rfl (Selection.untouched_all _), rfl⟩

end Session

end Criteria
