import Criteria.Proofs.Repository.Looks
import Criteria.Repository.Session

/-!
# The history of a session

Which calls a session makes to its executor, request by request. The
history of a selection in it follows a rule that looks at nothing but the
requests on the same selection before (`Proper`): a request is answered
by the first success of its kind, if there was one, and else makes one
call, if there is a query to call with. What is held under other names
has no part in it.
-/

namespace Criteria

variable {σ ρ : Type}

/-! ## Recording -/

/-- A call, and the executor's answer as a look shows it. -/
structure Exchange (ρ : Type) where
  call : ExecutorCall
  answer : Except Error (Shown ρ)

/-- The same executor, which keeps what passed through it, the oldest
first. -/
def Executor.recorded (e : Executor σ ρ) : Executor (σ × List (Exchange ρ)) ρ where
  find table query s :=
    let (result, after) := e.find table query s.1
    (result, after, s.2 ++ [⟨⟨.find, table, query⟩, result.map .records⟩])
  count table query s :=
    let (result, after) := e.count table query s.1
    (result, after, s.2 ++ [⟨⟨.count, table, query⟩, result.map .count⟩])

theorem Executor.recorded_run (e : Executor σ ρ) (kind : CallKind) (table : String)
    (query : Query) (s : σ × List (Exchange ρ)) :
    e.recorded.run kind table query s
      = ((e.run kind table query s.1).1, (e.run kind table query s.1).2,
          s.2 ++ [⟨⟨kind, table, query⟩, (e.run kind table query s.1).1⟩]) := by
  cases kind <;> rfl

/-! ## Requests -/

/-- What a session is asked about a selection. -/
inductive Request where
  | look (k : Look)
  | intoRecords

/-- The kind of call that a request may come to. -/
def Request.kind? : Request → Option CallKind
  | .look .query => none
  | .look (.ask kind) => some kind
  | .intoRecords => some .find

def Request.run (repo : Repository) (executor : Executor σ ρ) (s : Session σ ρ)
    (name : String) : Request → Session.Answer σ ρ (Shown ρ)
  | .look .query =>
    let (answer, s) := s.query repo name
    (answer.map .query, s)
  | .look (.ask .find) =>
    let (answer, s) := s.records repo executor name
    (answer.map .records, s)
  | .look (.ask .count) =>
    let (answer, s) := s.count repo executor name
    (answer.map .count, s)
  | .intoRecords =>
    let (answer, s) := s.intoRecords repo executor name
    (answer.map .records, s)

/-- A request with its answer and the calls that were made for it. -/
structure Event (ρ : Type) where
  name : String
  request : Request
  answer : Except SessionFailure (Shown ρ)
  calls : List (Exchange ρ)

namespace Session

/-- Nothing is recorded yet. -/
def recording (s : Session σ ρ) : Session (σ × List (Exchange ρ)) ρ :=
  { selections := s.selections, state := (s.state, []) }

def withoutRecord (s : Session (σ × List (Exchange ρ)) ρ) : Session σ ρ :=
  { selections := s.selections, state := s.state.1 }

/-- Requests one after another, each on a selection that it names. -/
def history (repo : Repository) (executor : Executor σ ρ) :
    List (String × Request) → Session σ ρ → List (Event ρ)
  | [], _ => []
  | (name, request) :: rest, s =>
    let (answer, after) := request.run repo executor.recorded s.recording name
    { name, request, answer, calls := after.state.2 }
      :: history repo executor rest after.withoutRecord

/-! ## Names -/

@[simp] theorem get?_recording (s : Session σ ρ) (name : String) :
    s.recording.get? name = s.get? name := rfl

@[simp] theorem get?_withoutRecord (s : Session (σ × List (Exchange ρ)) ρ) (name : String) :
    s.withoutRecord.get? name = s.get? name := rfl

@[simp] theorem get?_erase_self (s : Session σ ρ) (name : String) :
    (s.erase name).get? name = none := by
  unfold get? erase
  rw [List.lookup_eq_none_iff]
  intro held hheld
  have hne : held.1 ≠ name := by simpa using (List.mem_filter.mp hheld).2
  simpa using hne.symm

theorem get?_erase_ne (s : Session σ ρ) {name other : String} (h : other ≠ name) :
    (s.erase name).get? other = s.get? other := by
  unfold get? erase
  induction s.selections with
  | nil => rfl
  | cons held rest ih =>
      rcases held with ⟨key, l⟩
      by_cases hkey : key = name
      · have hother : (other == key) = false := by simpa [hkey] using h
        have hdrop : (key != name) = false := by simpa using hkey
        rw [List.filter_cons_of_neg (by simp [hdrop]), List.lookup_cons, hother]
        exact ih
      · rw [List.filter_cons_of_pos (by simpa using hkey), List.lookup_cons, List.lookup_cons, ih]

@[simp] theorem get?_insert_self (s : Session σ ρ) (name : String) (l : Selection ρ) :
    (s.insert name l).get? name = some l := by
  simp [get?, insert]

theorem get?_insert_ne (s : Session σ ρ) (l : Selection ρ) {name other : String}
    (h : other ≠ name) : (s.insert name l).get? other = s.get? other := by
  have hother : (other == name) = false := by simpa using h
  rw [← get?_erase_ne s h]
  simp only [get?, insert, List.lookup_cons, hother]

end Session

/-! ## One request -/

/-- A request on what is held under a name, with no session around it. -/
def Request.serve (repo : Repository) (executor : Executor σ ρ) (state : σ) :
    Option (Selection ρ) → Request →
      Except SessionFailure (Shown ρ) × Option (Selection ρ) × σ
  | none, _ => (.error .notHeld, none, state)
  | some l, .look k =>
    let (answer, l, state) := k.observe repo executor l state
    (answer.mapError .failed, some l, state)
  | some l, .intoRecords =>
    let (answer, state) := l.intoRecords repo executor state
    ((answer.map .records).mapError .failed, none, state)

/-- A look through a session is a look at what it holds. -/
theorem Request.run_look (repo : Repository) (executor : Executor σ ρ) (s : Session σ ρ)
    (name : String) (k : Look) :
    (Request.look k).run repo executor s name = s.look name (k.observe repo executor) := by
  have hmap {α β : Type} (f : α → β) (answer : Except Failure α) :
      (answer.mapError SessionFailure.failed).map f
        = (answer.map f).mapError SessionFailure.failed := by
    cases answer <;> rfl
  cases k with
  | query =>
      simp only [Request.run, Session.query, Session.look]
      cases s.get? name with
      | none => rfl
      | some l => simp only [Look.observe, hmap]
  | ask kind =>
      cases kind <;> simp only [Request.run, Session.records, Session.count, Session.look]
      all_goals
        cases s.get? name with
        | none => rfl
        | some l => simp only [Look.observe, hmap]

/-- A request is served from what is held under its name, and other names
keep what they hold. -/
theorem Request.run_serve (repo : Repository) (executor : Executor σ ρ) (s : Session σ ρ)
    (name : String) (r : Request) :
    let served := r.serve repo executor s.state (s.get? name)
    let ran := r.run repo executor s name
    ran.1 = served.1 ∧ ran.2.get? name = served.2.1 ∧ ran.2.state = served.2.2
      ∧ ∀ other, other ≠ name → ran.2.get? other = s.get? other := by
  intro served ran
  cases r with
  | look k =>
      simp only [served, ran, Request.run_look, Session.look]
      cases hheld : s.get? name with
      | none => exact ⟨rfl, hheld, rfl, fun _ _ => rfl⟩
      | some l =>
          exact ⟨rfl, s.get?_insert_self name _, rfl, fun other hother => s.get?_insert_ne _ hother⟩
  | intoRecords =>
      simp only [served, ran, Request.run, Session.intoRecords]
      cases hheld : s.get? name with
      | none => exact ⟨rfl, hheld, rfl, fun _ _ => rfl⟩
      | some l =>
          refine ⟨?_, s.get?_erase_self name, rfl, fun other hother => s.get?_erase_ne hother⟩
          simp only [Request.serve]
          cases (l.intoRecords repo executor s.state).1 <;> rfl

/-! ## What is right after earlier requests -/

namespace Event

/-- The answer with which requests of a kind first succeeded. -/
def success? (kind : CallKind) (events : List (Event ρ)) : Option (Shown ρ) :=
  events.findSome? fun e => if e.request.kind? = some kind then e.answer.toOption else none

def GivenUp (events : List (Event ρ)) : Prop :=
  ∃ e ∈ events, e.request = .intoRecords

/-- How a request has to be answered, and with which calls, after earlier
requests on the same selection. -/
inductive Proper (repo : Repository) (l : Selection ρ) (earlier : List (Event ρ)) (e : Event ρ) :
    Prop
  | gone (hgone : GivenUp earlier) (hanswer : e.answer = .error .notHeld) (hcalls : e.calls = [])
  | query (hheld : ¬ GivenUp earlier) (hrequest : e.request = .look .query)
      (hanswer : e.answer
        = ((repo.compile l.subject l.scope).map .query).mapError .failed)
      (hcalls : e.calls = [])
  | kept {kind : CallKind} {a : Shown ρ} (hheld : ¬ GivenUp earlier)
      (hkind : e.request.kind? = some kind) (hkept : success? kind earlier = some a)
      (hanswer : e.answer = .ok a) (hcalls : e.calls = [])
  | refused {kind : CallKind} {f : Failure} (hheld : ¬ GivenUp earlier)
      (hkind : e.request.kind? = some kind) (hkept : success? kind earlier = none)
      (hquery : repo.compile l.subject l.scope = .error f)
      (hanswer : e.answer = .error (.failed f)) (hcalls : e.calls = [])
  | asked {kind : CallKind} {table : String} {query : Query} {result : Except Error (Shown ρ)}
      (hheld : ¬ GivenUp earlier) (hkind : e.request.kind? = some kind)
      (hkept : success? kind earlier = none)
      (htable : repo.schema.table l.subject.model = .ok table)
      (hquery : repo.compile l.subject l.scope = .ok query)
      (hanswer : e.answer = (result.mapError .refused).mapError .failed)
      (hcalls : e.calls = [⟨⟨kind, table, query⟩, result⟩])

/-- Events that are proper one after another. -/
def Follow (repo : Repository) (l : Selection ρ) : List (Event ρ) → List (Event ρ) → Prop
  | _, [] => True
  | earlier, e :: later => Proper repo l earlier e ∧ Follow repo l (earlier ++ [e]) later

variable {repo : Repository} {l : Selection ρ} {kind : CallKind} {es : List (Event ρ)}
  {e : Event ρ}

theorem follow_append {earlier xs ys : List (Event ρ)} :
    Follow repo l earlier (xs ++ ys)
      ↔ Follow repo l earlier xs ∧ Follow repo l (earlier ++ xs) ys := by
  induction xs generalizing earlier with
  | nil => simp [Follow]
  | cons e xs ih => simp [Follow, ih, and_assoc]

theorem Follow.proper {earlier later : List (Event ρ)}
    (h : Follow repo l [] (earlier ++ e :: later)) : Proper repo l earlier e :=
  (follow_append.mp h).2.1

@[simp] theorem givenUp_append {xs ys : List (Event ρ)} :
    GivenUp (xs ++ ys) ↔ GivenUp xs ∨ GivenUp ys := by
  simp [GivenUp, or_and_right, exists_or]

@[simp] theorem givenUp_single : GivenUp [e] ↔ e.request = .intoRecords := by
  simp [GivenUp]

theorem success?_append (kind : CallKind) (xs ys : List (Event ρ)) :
    success? kind (xs ++ ys) = (success? kind xs).or (success? kind ys) := by
  rw [success?, List.findSome?_append]
  rfl

theorem success?_single_self (h : e.request.kind? = some kind) :
    success? kind [e] = e.answer.toOption := by
  simp only [success?, List.findSome?_cons, h, if_true, List.findSome?_nil]
  cases e.answer.toOption <;> rfl

theorem success?_single_ne (h : e.request.kind? ≠ some kind) : success? kind [e] = none := by
  simp [success?, h]

end Event

/-! ## A selection and its history -/

namespace Event

open Selection (Obtained Seen)

variable {repo : Repository} {l l' : Selection ρ} {earlier : List (Event ρ)}

/-- A selection as earlier requests have left it: it keeps the first
success of each kind. -/
structure Keeps (repo : Repository) (l : Selection ρ) (earlier : List (Event ρ))
    (l' : Selection ρ) : Prop where
  still : ¬ GivenUp earlier
  subject : l'.subject = l.subject
  scope : l'.scope = l.scope
  coherent : l'.Coherent repo
  kept : ∀ kind, l'.kept kind = success? kind earlier

/-- What is held of a selection after earlier requests on it. -/
inductive Leaves (repo : Repository) (l : Selection ρ) (earlier : List (Event ρ)) :
    Option (Selection ρ) → Prop
  | gone (h : GivenUp earlier) : Leaves repo l earlier none
  | held {l' : Selection ρ} (h : Keeps repo l earlier l') : Leaves repo l earlier (some l')

theorem Leaves.start (h : l.Untouched) : Leaves repo l [] (some l) :=
  .held ⟨by simp [GivenUp], rfl, rfl, h.coherent repo, h.kept⟩

/-- What was come by through a recorded executor is a proper answer, with
the calls in the record. -/
theorem Keeps.proper (h : Keeps repo l earlier l') {executor : Executor σ ρ} {kind : CallKind}
    {state : σ} {after : σ × List (Exchange ρ)} {answer : Except Failure (Shown ρ)}
    {name : String} {request : Request} (hkind : request.kind? = some kind)
    (hobtained : Obtained repo l' (executor.recorded.run kind) (l'.kept kind) (state, [])
      answer after) :
    Proper repo l earlier ⟨name, request, answer.mapError .failed, after.2⟩ := by
  rw [h.kept] at hobtained
  cases hobtained with
  | kept hkept => exact .kept h.still hkind hkept rfl rfl
  | refused hkept hquery =>
      rw [h.subject, h.scope] at hquery
      exact .refused h.still hkind hkept hquery rfl rfl
  | asked hkept htable hquery hrun =>
      rw [h.subject] at htable
      rw [h.subject, h.scope] at hquery
      rw [Executor.recorded_run] at hrun
      cases hrun
      exact .asked h.still hkind hkept htable hquery rfl rfl

/-- A request for a kind of call is answered by the first success of that
kind, or there is no query to call with, or it makes its call. -/
theorem Proper.of_kind {e : Event ρ} {kind : CallKind} (h : Proper repo l earlier e)
    (hstill : ¬ GivenUp earlier) (hkind : e.request.kind? = some kind) :
    (∃ a, success? kind earlier = some a ∧ e.answer = .ok a ∧ e.calls = [])
      ∨ success? kind earlier = none
        ∧ ((∃ f, repo.compile l.subject l.scope = .error f ∧ e.answer = .error (.failed f)
            ∧ e.calls = [])
          ∨ ∃ q x, repo.compile l.subject l.scope = .ok q ∧ e.calls = [x]) := by
  cases h with
  | gone hgone => exact absurd hgone hstill
  | query _ hrequest =>
      rw [hrequest] at hkind
      cases hkind
  | kept _ hkind' hkept hanswer hcalls =>
      rw [hkind, Option.some_inj] at hkind'
      exact .inl ⟨_, hkind' ▸ hkept, hanswer, hcalls⟩
  | refused _ hkind' hkept hquery hanswer hcalls =>
      rw [hkind, Option.some_inj] at hkind'
      exact .inr ⟨hkind' ▸ hkept, .inl ⟨_, hquery, hanswer, hcalls⟩⟩
  | asked _ hkind' hkept _ hquery _ hcalls =>
      rw [hkind, Option.some_inj] at hkind'
      exact .inr ⟨hkind' ▸ hkept, .inr ⟨_, _, hquery, hcalls⟩⟩

/-- After a request for a kind of call, the first success of that kind is
its own answer, if that is a success. -/
theorem Proper.success {e : Event ρ} {kind : CallKind} (h : Proper repo l earlier e)
    (hstill : ¬ GivenUp earlier) (hkind : e.request.kind? = some kind) :
    success? kind (earlier ++ [e]) = e.answer.toOption := by
  rw [success?_append, success?_single_self hkind]
  rcases h.of_kind hstill hkind with ⟨a, hkept, hanswer, -⟩ | ⟨hnone, -⟩
  · rw [hkept, hanswer]
    rfl
  · rw [hnone, Option.none_or]

variable (executor : Executor σ ρ) (state : σ) (name : String)

/-- A look at a selection is answered properly, and leaves it with what it
should keep. -/
theorem Keeps.look (h : Keeps repo l earlier l') (k : Look) :
    ∃ answer l'' after, k.observe repo executor.recorded l' (state, []) = (answer, l'', after)
      ∧ let e : Event ρ := ⟨name, .look k, answer.mapError .failed, after.2⟩
        Proper repo l earlier e ∧ Keeps repo l (earlier ++ [e]) l'' := by
  obtain ⟨hseen, hcoherent, -⟩ := k.observe_keeps h.coherent executor.recorded (state, [])
  rcases hlook : k.observe repo executor.recorded l' (state, []) with ⟨answer, l'', after⟩
  rw [hlook] at hseen hcoherent
  refine ⟨answer, l'', after, rfl, ?_⟩
  intro e
  have hstill : ¬ GivenUp (earlier ++ [e]) := by simpa [e] using h.still
  have hkeeps := Keeps.mk hstill (hseen.subject.trans h.subject) (hseen.scope.trans h.scope)
    hcoherent
  cases k with
  | query =>
      obtain ⟨_, hquery, -, hsame⟩ :=
        Look.observe_query h.coherent executor.recorded (state, [])
      rw [hlook, h.subject, h.scope] at hquery
      cases hquery
      have hnone (kind : CallKind) : success? kind [e] = none :=
        success?_single_ne (by simp [e, Request.kind?])
      refine ⟨.query h.still rfl rfl rfl, hkeeps fun kind => ?_⟩
      rw [hsame, h.kept, success?_append, hnone, Option.or_none]
  | ask kind =>
      obtain ⟨_, _, _, hask, hobtained, -, hown, hsame⟩ :=
        Look.observe_ask h.coherent kind executor.recorded (state, [])
      rw [hlook] at hask
      cases hask
      have hproper : Proper repo l earlier e := h.proper rfl hobtained
      refine ⟨hproper, hkeeps fun kind' => ?_⟩
      by_cases hkind : kind' = kind
      · rw [hkind, hown, hproper.success h.still rfl]
        cases answer <;> rfl
      · have hnone : success? kind' [e] = none :=
          success?_single_ne (by simpa [e, Request.kind?] using Ne.symm hkind)
        rw [hsame kind' hkind, h.kept, success?_append, hnone, Option.or_none]

/-- A request on what earlier ones left is answered properly, and leaves
what it should. -/
theorem Leaves.serve {held : Option (Selection ρ)} (h : Leaves repo l earlier held)
    (request : Request) :
    let served := request.serve repo executor.recorded (state, []) held
    let e : Event ρ := ⟨name, request, served.1, served.2.2.2⟩
    Proper repo l earlier e ∧ Leaves repo l (earlier ++ [e]) served.2.1 := by
  intro served e
  cases h with
  | gone hgone => exact ⟨.gone hgone rfl rfl, .gone (givenUp_append.mpr (.inl hgone))⟩
  | @held l' h =>
      cases request with
      | look k =>
          obtain ⟨answer, l'', after, hlook, hproper, hkeeps⟩ := h.look executor state name k
          simp only [served, e, Request.serve, hlook]
          exact ⟨hproper, .held hkeeps⟩
      | intoRecords =>
          obtain ⟨answer, after, hinto, hobtained⟩ :=
            Selection.intoRecords_obtained h.coherent executor.recorded (state, [])
          simp only [served, e, Request.serve, hinto]
          exact ⟨h.proper rfl (hobtained.map Shown.records),
            .gone (givenUp_append.mpr (.inr (givenUp_single.mpr rfl)))⟩

end Event

/-! ## Whole sessions -/

open Event (Follow Leaves)

variable {repo : Repository} {l : Selection ρ}

/-- The events of a selection follow one another properly, whatever else
goes on in the session. -/
theorem Session.history_follow (executor : Executor σ ρ) {name : String}
    {earlier : List (Event ρ)} (steps : List (String × Request)) (s : Session σ ρ)
    (h : Leaves repo l earlier (s.get? name)) :
    Follow repo l earlier ((s.history repo executor steps).filter (·.name = name)) := by
  induction steps generalizing earlier s with
  | nil => trivial
  | cons step rest ih =>
      rcases step with ⟨name', request⟩
      obtain ⟨hanswer, hheld, hstate, hother⟩ :=
        request.run_serve repo executor.recorded s.recording name'
      rw [Session.history]
      by_cases hname : name' = name
      · subst hname
        obtain ⟨hproper, hleaves⟩ := h.serve executor s.state name' request
        rw [List.filter_cons_of_pos (by simp)]
        simp only [hanswer, hstate]
        refine ⟨hproper, ih _ ?_⟩
        rw [get?_withoutRecord, hheld]
        exact hleaves
      · rw [List.filter_cons_of_neg (by simpa using hname)]
        refine ih _ ?_
        rw [get?_withoutRecord, hother name (Ne.symm hname)]
        exact h

end Criteria
