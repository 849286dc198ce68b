import Criteria.Proofs.Plan.Joins
import Criteria.Repository.Selection

/-!
# Looks at a selection

What a look at a selection shows, and what it leaves behind. A selection
is coherent if what it keeps was made for the scope that it has now; then
a look shows what a selection that keeps nothing would show, or what an
executor answered once to its query. Rows and counts are come by in the
same way (`Obtained`), so there is one statement about both
(`Look.observe_ask`), and one about queries (`Selection.compiled_eq`).
-/

namespace Criteria

variable {σ ρ α β : Type}

/-- The query of a scope on a subject, made from scratch. -/
def Repository.compile (repo : Repository) (subject : Subject) (scope : Scope) :
    Except Failure Query :=
  repo.schema.compile repo.config subject.model scope subject.base

/-- What is compiled has a table to be asked of. -/
theorem Repository.compile_table {repo : Repository} {subject : Subject} {scope : Scope}
    {q : Query} (h : repo.compile subject scope = .ok q) :
    ∃ table, repo.schema.table subject.model = .ok table := by
  obtain ⟨plan, hplan, -⟩ := Schema.compile_ok h
  obtain ⟨table, _, _, _, htable, -⟩ := Schema.plan_ok hplan
  exact ⟨table, htable⟩

/-! ## What looks show -/

inductive Shown (ρ : Type) where
  | query (q : Query)
  | records (rows : List ρ)
  | count (n : UInt64)

/-- A look at the query, or at what the executor answers to it. -/
inductive Look where
  | query
  | ask (kind : CallKind)

/-- A call of either kind, its answer as a look shows it. -/
def Executor.run (e : Executor σ ρ) : CallKind → String → Query → σ → Except Error (Shown ρ) × σ
  | .find, table, query, s =>
    let (result, s) := e.find table query s
    (result.map .records, s)
  | .count, table, query, s =>
    let (result, s) := e.count table query s
    (result.map .count, s)

namespace Selection

/-- What is kept of the answers to calls of a kind. -/
def kept (l : Selection ρ) : CallKind → Option (Shown ρ)
  | .find => l.records.map .records
  | .count => l.count.map .count

/-- What is kept was made for this scope. -/
structure Coherent (repo : Repository) (l : Selection ρ) : Prop where
  query : ∀ q, l.query = some q → repo.compile l.subject l.scope = .ok q
  kept : ∀ kind, (l.kept kind).isSome → l.query.isSome

/-- Nothing is kept, as when a selection was just extended. -/
structure Untouched (l : Selection ρ) : Prop where
  query : l.query = none
  kept : ∀ kind, l.kept kind = none

theorem untouched_all (subject : Subject) : (all subject : Selection ρ).Untouched :=
  ⟨rfl, fun kind => by cases kind <;> rfl⟩

theorem untouched_extended (l : Selection ρ) (scope : Scope) (chain : List FragmentCall) :
    ({ l.extended scope with chain } : Selection ρ).Untouched :=
  ⟨rfl, fun kind => by cases kind <;> rfl⟩

theorem Untouched.coherent {l : Selection ρ} (h : l.Untouched) (repo : Repository) :
    l.Coherent repo where
  query := fun q hq => by
    rw [h.query] at hq
    cases hq
  kept := fun kind hkept => by
    rw [h.kept] at hkept
    cases hkept

end Selection

/-- A look at a selection in front of an executor. -/
def Look.observe (repo : Repository) (executor : Executor σ ρ) (l : Selection ρ) (s : σ) :
    Look → Except Failure (Shown ρ) × Selection ρ × σ
  | .query =>
    let (result, l) := l.compiled repo
    (result.map .query, l, s)
  | .ask .find =>
    let (result, l, s) := l.load repo executor s
    (result.map .records, l, s)
  | .ask .count =>
    let (result, l, s) := l.countRows repo executor s
    (result.map .count, l, s)

/-! ## How answers are come by -/

namespace Selection

variable {repo : Repository} {l : Selection ρ} {s s' : σ}

/-- An answer is one that was kept, or there is no query to ask with, or
the executor is asked, once. -/
inductive Obtained (repo : Repository) (l : Selection ρ)
    (run : String → Query → σ → Except Error α × σ) (kept : Option α) (s : σ) :
    Except Failure α → σ → Prop
  | kept {a : α} (hkept : kept = some a) : Obtained repo l run kept s (.ok a) s
  | refused {f : Failure} (hkept : kept = none)
      (hquery : repo.compile l.subject l.scope = .error f) :
      Obtained repo l run kept s (.error f) s
  | asked {table : String} {query : Query} {result : Except Error α} {s' : σ}
      (hkept : kept = none) (htable : repo.schema.table l.subject.model = .ok table)
      (hquery : repo.compile l.subject l.scope = .ok query)
      (hrun : run table query s = (result, s')) :
      Obtained repo l run kept s (result.mapError .refused) s'

/-- The same answer under another form. -/
theorem Obtained.map {run : String → Query → σ → Except Error α × σ} {kept : Option α}
    {answer : Except Failure α} (h : Obtained repo l run kept s answer s') (f : α → β) :
    Obtained repo l (fun table query s => ((run table query s).1.map f, (run table query s).2))
      (kept.map f) s (answer.map f) s' := by
  cases h with
  | kept hkept => exact .kept (by rw [hkept]; rfl)
  | refused hkept hquery => exact .refused (by rw [hkept]; rfl) hquery
  | @asked table query result s' hkept htable hquery hrun =>
      have hmap : (result.mapError Failure.refused).map f
          = (result.map f).mapError Failure.refused := by
        cases result <;> rfl
      rw [hmap]
      exact .asked (by rw [hkept]; rfl) htable hquery (by rw [hrun])

/-- The executor answered so to the query of the selection, in some state. -/
def Answered (repo : Repository) (l : Selection ρ)
    (run : String → Query → σ → Except Error α × σ) (a : α) : Prop :=
  ∃ table query s s', repo.schema.table l.subject.model = .ok table
    ∧ repo.compile l.subject l.scope = .ok query ∧ run table query s = (.ok a, s')

/-- What is shown was kept, or is an answer of the executor. -/
theorem Obtained.answered {run : String → Query → σ → Except Error α × σ} {kept : Option α}
    {a : α} {answer : Except Failure α} (h : Obtained repo l run kept s answer s')
    (ha : answer = .ok a) : kept = some a ∨ Answered repo l run a := by
  cases h with
  | kept hkept =>
      cases ha
      exact .inl hkept
  | refused => cases ha
  | @asked table query result s' _ htable hquery hrun =>
      cases result with
      | error e => cases ha
      | ok b =>
          cases ha
          exact .inr ⟨table, query, s, s', htable, hquery, hrun⟩

/-- A kept query is the one that would be compiled. -/
theorem compiled_eq (h : l.Coherent repo) :
    l.compiled repo = (repo.compile l.subject l.scope,
      { l with query := (repo.compile l.subject l.scope).toOption }) := by
  unfold compiled
  cases hkept : l.query with
  | some q =>
      rw [h.query q hkept]
      simp only [Except.toOption, ← hkept]
  | none =>
      unfold Repository.compile
      cases hcompile : repo.schema.compile repo.config l.subject.model l.scope l.subject.base with
      | ok q => rfl
      | error f => simp only [Except.toOption, ← hkept]

theorem ask_obtained (h : l.Coherent repo) (run : String → Query → σ → Except Error α × σ)
    (s : σ) : ∃ answer s', l.ask repo run s
        = (answer, { l with query := (repo.compile l.subject l.scope).toOption }, s')
      ∧ Obtained repo l run none s answer s' := by
  unfold ask
  rw [compiled_eq h]
  cases hquery : repo.compile l.subject l.scope with
  | error f => exact ⟨.error f, s, rfl, .refused rfl hquery⟩
  | ok q =>
      obtain ⟨table, htable⟩ := Repository.compile_table hquery
      simp only [Selection.table, htable]
      exact ⟨_, _, rfl, .asked rfl htable hquery rfl⟩

/-- What is kept of rows or of a count goes with the query. -/
theorem Coherent.query_eq (h : l.Coherent repo) {kind : CallKind}
    (hkept : (l.kept kind).isSome) :
    l.query = (repo.compile l.subject l.scope).toOption := by
  obtain ⟨q, hq⟩ := Option.isSome_iff_exists.mp (h.kept kind hkept)
  rw [h.query q hq, hq]
  rfl

/-- What is kept, or else asked for and then kept. -/
def keptOr (repo : Repository) (run : String → Query → σ → Except Error α × σ)
    (kept : Option α) (keep : Selection ρ → Option α → Selection ρ) (l : Selection ρ) (s : σ) :
    Except Failure α × Selection ρ × σ :=
  match kept with
  | some a => (.ok a, l, s)
  | none =>
    match l.ask repo run s with
    | (.ok a, l, s) => (.ok a, keep l (some a), s)
    | failed => failed

theorem keptOr_obtained (h : l.Coherent repo) (run : String → Query → σ → Except Error α × σ)
    {kept : Option α} {keep : Selection ρ → Option α → Selection ρ} (s : σ)
    (hquery : kept.isSome → l.query = (repo.compile l.subject l.scope).toOption)
    (hkeep : keep { l with query := (repo.compile l.subject l.scope).toOption } kept
      = { l with query := (repo.compile l.subject l.scope).toOption }) :
    ∃ answer s', keptOr repo run kept keep l s
        = (answer, keep { l with query := (repo.compile l.subject l.scope).toOption }
            answer.toOption, s')
      ∧ Obtained repo l run kept s answer s' := by
  unfold keptOr
  cases kept with
  | some a =>
      have hsame : { l with query := (repo.compile l.subject l.scope).toOption } = l := by
        rw [← hquery rfl]
      exact ⟨.ok a, s, congrArg (fun l => (Except.ok a, l, s)) (hkeep.trans hsame).symm, .kept rfl⟩
  | none =>
      obtain ⟨answer, s', hask, hobtained⟩ := ask_obtained h run s
      refine ⟨answer, s', ?_, hobtained⟩
      rw [hask]
      cases answer with
      | ok a => rfl
      | error f => exact congrArg (fun l => (Except.error f, l, s')) hkeep.symm

theorem load_obtained (h : l.Coherent repo) (executor : Executor σ ρ) (s : σ) :
    ∃ answer s', l.load repo executor s
        = (answer, { l with query := (repo.compile l.subject l.scope).toOption
                            records := answer.toOption }, s')
      ∧ Obtained repo l executor.find l.records s answer s' := by
  have hload : l.load repo executor s = keptOr repo executor.find l.records
      (fun l rows => { l with records := rows }) l s := by
    unfold load keptOr
    cases l.records with
    | some rows => rfl
    | none => rcases l.ask repo executor.find s with ⟨f | rows, l', s'⟩ <;> rfl
  have hkept (hrecords : l.records.isSome) : (l.kept .find).isSome := by
    simpa [Selection.kept] using hrecords
  rw [hload]
  exact keptOr_obtained h executor.find s (fun hrecords => h.query_eq (hkept hrecords)) rfl

theorem countRows_obtained (h : l.Coherent repo) (executor : Executor σ ρ) (s : σ) :
    ∃ answer s', l.countRows repo executor s
        = (answer, { l with query := (repo.compile l.subject l.scope).toOption
                            count := answer.toOption }, s')
      ∧ Obtained repo l executor.count l.count s answer s' := by
  have hcountRows : l.countRows repo executor s = keptOr repo executor.count l.count
      (fun l n => { l with count := n }) l s := by
    unfold countRows keptOr
    cases l.count with
    | some n => rfl
    | none => rcases l.ask repo executor.count s with ⟨f | n, l', s'⟩ <;> rfl
  have hkept (hcount : l.count.isSome) : (l.kept .count).isSome := by
    simpa [Selection.kept] using hcount
  rw [hcountRows]
  exact keptOr_obtained h executor.count s (fun hcount => h.query_eq (hkept hcount)) rfl

theorem intoRecords_obtained (h : l.Coherent repo) (executor : Executor σ ρ) (s : σ) :
    ∃ answer s', l.intoRecords repo executor s = (answer, s')
      ∧ Obtained repo l executor.find l.records s answer s' := by
  unfold intoRecords
  cases hrecords : l.records with
  | some rows => exact ⟨.ok rows, s, rfl, .kept rfl⟩
  | none =>
      obtain ⟨answer, s', hask, hobtained⟩ := ask_obtained h executor.find s
      exact ⟨answer, s', by rw [hask], hobtained⟩

/-! ## What looks leave behind -/

/-- After a look the selection is about the same and keeps the query, if
there is one. -/
structure Seen (repo : Repository) (l l' : Selection ρ) : Prop where
  subject : l'.subject = l.subject
  chain : l'.chain = l.chain
  scope : l'.scope = l.scope
  query : l'.query = (repo.compile l.subject l.scope).toOption

variable {l' : Selection ρ}

theorem Seen.coherent (h : Seen repo l l')
    (hkept : ∀ kind, (l'.kept kind).isSome → ∃ q, repo.compile l.subject l.scope = .ok q) :
    l'.Coherent repo where
  query := fun q hq => by
    rw [h.query] at hq
    rw [h.subject, h.scope]
    cases hcompile : repo.compile l.subject l.scope with
    | error f =>
        rw [hcompile] at hq
        cases hq
    | ok q' =>
        rw [hcompile] at hq
        cases hq
        rfl
  kept := fun kind hsome => by
    obtain ⟨q, hq⟩ := hkept kind hsome
    rw [h.query, hq]
    rfl

theorem Coherent.compiled (h : l.Coherent repo) {kind : CallKind}
    (hkept : (l.kept kind).isSome) : ∃ q, repo.compile l.subject l.scope = .ok q := by
  obtain ⟨q, hq⟩ := Option.isSome_iff_exists.mp (h.kept kind hkept)
  exact ⟨q, h.query q hq⟩

end Selection

open Selection (Answered Obtained Seen)

variable {repo : Repository} {l : Selection ρ}

/-- A look at the query shows it as made from scratch. -/
theorem Look.observe_query (h : l.Coherent repo) (executor : Executor σ ρ) (s : σ) :
    ∃ l', Look.query.observe repo executor l s
        = ((repo.compile l.subject l.scope).map .query, l', s)
      ∧ Seen repo l l' ∧ ∀ kind, l'.kept kind = l.kept kind := by
  unfold Look.observe
  rw [Selection.compiled_eq h]
  exact ⟨_, rfl, ⟨rfl, rfl, rfl, rfl⟩, fun kind => by cases kind <;> rfl⟩

/-- A look at rows or at their number shows what it has come by, keeps it
if there was no failure, and keeps what was kept of the other kind. -/
theorem Look.observe_ask (h : l.Coherent repo) (kind : CallKind) (executor : Executor σ ρ)
    (s : σ) : ∃ answer l' s', (Look.ask kind).observe repo executor l s = (answer, l', s')
      ∧ Obtained repo l (executor.run kind) (l.kept kind) s answer s'
      ∧ Seen repo l l' ∧ l'.kept kind = answer.toOption
      ∧ ∀ other, other ≠ kind → l'.kept other = l.kept other := by
  unfold Look.observe
  cases kind with
  | find =>
      obtain ⟨answer, s', hload, hobtained⟩ := Selection.load_obtained h executor s
      simp only [hload]
      refine ⟨_, _, s', rfl, hobtained.map Shown.records, ⟨rfl, rfl, rfl, rfl⟩, ?_, ?_⟩
      · cases answer <;> rfl
      · intro other hother
        cases other with
        | find => exact absurd rfl hother
        | count => rfl
  | count =>
      obtain ⟨answer, s', hcount, hobtained⟩ := Selection.countRows_obtained h executor s
      simp only [hcount]
      refine ⟨_, _, s', rfl, hobtained.map Shown.count, ⟨rfl, rfl, rfl, rfl⟩, ?_, ?_⟩
      · cases answer <;> rfl
      · intro other hother
        cases other with
        | find => rfl
        | count => exact absurd rfl hother

/-- Looks keep a selection coherent, and keep nothing but what was kept
before and answers of the executor. -/
theorem Look.observe_keeps (h : l.Coherent repo) (look : Look) (executor : Executor σ ρ)
    (s : σ) : Seen repo l (look.observe repo executor l s).2.1
      ∧ (look.observe repo executor l s).2.1.Coherent repo
      ∧ ∀ kind a, (look.observe repo executor l s).2.1.kept kind = some a →
          l.kept kind = some a ∨ Answered repo l (executor.run kind) a := by
  cases look with
  | query =>
      obtain ⟨l', heq, hseen, hkept⟩ := Look.observe_query h executor s
      rw [heq]
      refine ⟨hseen, hseen.coherent fun kind hsome => ?_, fun kind a ha => ?_⟩
      · rw [hkept] at hsome
        exact h.compiled hsome
      · rw [hkept] at ha
        exact .inl ha
  | ask kind =>
      obtain ⟨answer, l', s', heq, hobtained, hseen, hkept, hother⟩ :=
        Look.observe_ask h kind executor s
      rw [heq]
      have hcases : ∀ kind' a, l'.kept kind' = some a →
          l.kept kind' = some a ∨ Answered repo l (executor.run kind') a := by
        intro kind' a ha
        by_cases hkind : kind' = kind
        · subst hkind
          rw [hkept] at ha
          cases answer with
          | error f => cases ha
          | ok b => exact hobtained.answered (congrArg _ (Option.some.inj ha))
        · rw [hother kind' hkind] at ha
          exact .inl ha
      refine ⟨hseen, hseen.coherent fun kind' hsome => ?_, hcases⟩
      obtain ⟨a, ha⟩ := Option.isSome_iff_exists.mp hsome
      rcases hcases kind' a ha with hold | ⟨_, q, _, _, -, hq, -⟩
      · exact h.compiled (by rw [hold]; rfl)
      · exact ⟨q, hq⟩

/-! ## A repository of posts -/

def Repository.forum : Repository := { schema := .forum }

/-- Fixed rows, behind a fuse. -/
def Executor.fusedRecorder : Executor (Fused (Recorder String)) String :=
  Fused.executor Recorder.executor

end Criteria
