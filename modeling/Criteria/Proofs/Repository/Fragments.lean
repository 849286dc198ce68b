import Criteria.Proofs.Filter.Fragments
import Criteria.Proofs.Filter.Sequence
import Criteria.Proofs.Repository.Looks
import Criteria.Proofs.Schema.Fragments

/-!
# Calls of named filters

What comes of the call of a named filter on a selection, and of a row of
such calls. A call is refused because no type of the lineage has the name,
or because the nearest definition does not accept the arguments; both are
settled before any body is run. Otherwise the body is run on the scope of
the selection, and the call succeeds or fails as it does
(`Selection.FragmentCalled`).

The main statement, `Selection.fragment_resolved`, adds that names are no
more than that: a row of calls that succeed comes to the same query as one
body, made of the bodies that the names stand for, with the arguments of
all calls in a row (`Selection.fragments_run`).
-/

namespace Criteria

variable {ρ : Type}

/-! ## Definitions -/

/-- No type of the lineage has a definition of this name. -/
def Schema.Undefined (s : Schema) (id : ModelId) (name : String) : Prop :=
  ∀ t ∈ (s.lineage id).types, name ∉ t.2.fragmentNames

/-- What a call stands for: the body of the nearest definition of its name,
on the arguments, which it accepts. -/
def Schema.StandsFor (s : Schema) (id : ModelId) (call : FragmentCall) (part : Body) : Prop :=
  ∃ d, s.Nearest id call.name d ∧ ¬d.Refuses call.args ∧ part = d.body call.args

namespace Schema

variable {s : Schema} {id : ModelId} {name : String} {d d' : Fragment}

/-- What a name means is settled one way or the other. -/
theorem undefined_or_nearest (s : Schema) (id : ModelId) (name : String) :
    s.Undefined id name ∨ ∃ d, s.Nearest id name d := by
  cases h : lookup (s.lineage id).types name with
  | none => exact .inl (lookup_eq_none.mp h)
  | some d => exact .inr ⟨d, lookup_eq_some.mp h⟩

theorem Nearest.unique (h : s.Nearest id name d) (h' : s.Nearest id name d') : d' = d := by
  rw [← lookup_eq_some] at h h'
  rw [h] at h'
  exact (Option.some.inj h').symm

theorem Nearest.not_undefined (h : s.Nearest id name d) : ¬s.Undefined id name := by
  rw [← lookup_eq_some] at h
  rw [Undefined, ← lookup_eq_none, h]
  exact nofun

/-- Of the one definition is said what is said of a nearest one. -/
theorem Nearest.exists_and (h : s.Nearest id name d) {P : Fragment → Prop} :
    (∃ d', s.Nearest id name d' ∧ P d') ↔ P d :=
  ⟨fun ⟨_, hd', hP⟩ => h.unique hd' ▸ hP, fun hP => ⟨d, h, hP⟩⟩

theorem Nearest.name_eq (h : s.Nearest id name d) : d.name = name := by
  obtain ⟨-, t, -, -, hfound, -⟩ := h
  simpa using List.find?_some hfound

theorem Registered.fragment_undefined (hs : s.Registered id) (h : s.Undefined id name) :
    ∃ type, s.name id = .ok type
      ∧ s.fragment id name = .error (.of (.unknownFragment type name)) := by
  obtain ⟨type, htype⟩ := hs.name
  have hnone := lookup_eq_none.mpr h
  refine ⟨type, htype, ?_⟩
  rw [Schema.fragment, hs.findSome?, ← lookup, hnone, htype]
  rfl

end Schema

/-! ## One call -/

/-- The result is a refusal under this code. -/
def FailsWith {α : Type} (result : Except Failure α) (code : ErrorCode) : Prop :=
  ∃ e, result = .error (.refused e) ∧ e.code = code

theorem failsWith_of {α : Type} {cause : Cause} {code : ErrorCode} :
    FailsWith (.error (.of cause) : Except Failure α) code ↔ code = cause.code := by
  constructor
  · rintro ⟨_, ⟨⟩, hcode⟩
    exact hcode.symm
  · rintro rfl
    exact ⟨_, rfl, rfl⟩

namespace Selection

variable {repo : Repository} {l l' : Selection ρ} {name : String} {args : List Value}
  {d : Fragment}

/-- The body of the nearest definition is run, and fails under this
code. -/
def BodyFails (repo : Repository) (l : Selection ρ) (name : String) (args : List Value)
    (code : ErrorCode) : Prop :=
  ∃ d, repo.schema.Nearest l.subject.model name d ∧ ¬d.Refuses args
    ∧ FailsWith (d.body args l.scope).2 code

/-- What comes of the call of a named filter. -/
structure FragmentCalled (repo : Repository) (l : Selection ρ) (name : String)
    (args : List Value) : Prop where
  /-- A name stands for one definition, which bears it, or for none. -/
  resolved : repo.schema.Undefined l.subject.model name
    ∨ ∃ d, repo.schema.Nearest l.subject.model name d ∧ d.name = name
        ∧ ∀ d', repo.schema.Nearest l.subject.model name d' → d' = d
  unknown : repo.schema.Undefined l.subject.model name →
    ∃ type, repo.schema.name l.subject.model = .ok type
      ∧ l.fragment repo name args = .error (.of (.unknownFragment type name))
  /-- Where the arguments are refused the body is not run: with any other in
  its place the scope is left alone and the complaint is the same. -/
  mismatch : ∀ d, repo.schema.Nearest l.subject.model name d → d.Refuses args →
    ∃ problem, d.Mismatch args problem
      ∧ l.fragment repo name args = .error (.of (.argumentMismatch d.name problem))
      ∧ ∀ body s, ({ d with body } : Fragment).apply args s
          = (s, .error (.of (.argumentMismatch d.name problem)))
  /-- Otherwise the outcome is that of one run of the body on the scope. -/
  succeeded : ∀ d t, repo.schema.Nearest l.subject.model name d → ¬d.Refuses args →
    d.body args l.scope = (t, .ok ()) →
      l.fragment repo name args
        = .ok { l.extended t with chain := l.chain ++ [{ name, args }] }
  failed : ∀ d t e, repo.schema.Nearest l.subject.model name d → ¬d.Refuses args →
    d.body args l.scope = (t, .error (.refused e)) →
      ∃ e', l.fragment repo name args = .error (.refused e') ∧ e.Tagged d.name e'
  broken : ∀ d t f, repo.schema.Nearest l.subject.model name d → ¬d.Refuses args →
    d.body args l.scope = (t, .error (.broken f)) →
      l.fragment repo name args = .error (.broken f)
  ok_iff : (∃ l', l.fragment repo name args = .ok l')
    ↔ ∃ d t, repo.schema.Nearest l.subject.model name d ∧ ¬d.Refuses args
        ∧ d.body args l.scope = (t, .ok ())
  /-- An error has its code from one of the two checks, or from the body
  that was run. -/
  code_iff : ∀ code, FailsWith (l.fragment repo name args) code
    ↔ (code = .unknownFragment ∧ repo.schema.Undefined l.subject.model name)
      ∨ (code = .argumentMismatch
          ∧ ∃ d, repo.schema.Nearest l.subject.model name d ∧ d.Refuses args)
      ∨ l.BodyFails repo name args code

theorem fragment_undefined (hs : repo.schema.Registered l.subject.model)
    (h : repo.schema.Undefined l.subject.model name) (args : List Value) :
    ∃ type, repo.schema.name l.subject.model = .ok type
      ∧ l.fragment repo name args = .error (.of (.unknownFragment type name)) := by
  obtain ⟨type, htype, hfragment⟩ := hs.fragment_undefined h
  refine ⟨type, htype, ?_⟩
  rw [fragment, hfragment]
  rfl

theorem fragment_nearest (h : repo.schema.Nearest l.subject.model name d) (args : List Value) :
    l.fragment repo name args = match d.apply args l.scope with
      | (t, .ok ()) => .ok { l.extended t with chain := l.chain ++ [{ name, args }] }
      | (_, .error failure) => .error failure := by
  have hfragment := Schema.fragment_ok.mpr (Schema.lookup_eq_some.mpr h)
  rw [fragment, hfragment]
  rfl

theorem fragment_refused (h : repo.schema.Nearest l.subject.model name d)
    (hrefuses : d.Refuses args) : ∃ problem, d.Mismatch args problem
      ∧ l.fragment repo name args = .error (.of (.argumentMismatch d.name problem)) := by
  obtain ⟨problem, hproblem⟩ := Fragment.refuses_iff.mp hrefuses
  have hmismatch := Fragment.problem?_eq_some.mp hproblem
  have happly := Fragment.apply_refused hmismatch d.body l.scope
  refine ⟨problem, hmismatch, ?_⟩
  rw [fragment_nearest h, happly]

theorem fragment_accepted (h : repo.schema.Nearest l.subject.model name d)
    (haccepts : ¬d.Refuses args) :
    l.fragment repo name args = match d.body args l.scope with
      | (t, .ok ()) => .ok { l.extended t with chain := l.chain ++ [{ name, args }] }
      | (_, .error failure) => .error (failure.map (·.inFragment d.name)) := by
  rw [fragment_nearest h, Fragment.apply_accepted haccepts]
  rcases d.body args l.scope with ⟨t, failure | _⟩ <;> rfl

/-- A call that succeeds was resolved, its arguments were accepted, and the
body has done the rest. -/
theorem fragment_ok_iff (hs : repo.schema.Registered l.subject.model) :
    l.fragment repo name args = .ok l' ↔ ∃ d t, repo.schema.Nearest l.subject.model name d
      ∧ ¬d.Refuses args ∧ d.body args l.scope = (t, .ok ())
      ∧ l' = { l.extended t with chain := l.chain ++ [{ name, args }] } := by
  constructor
  · intro h
    rcases repo.schema.undefined_or_nearest l.subject.model name with hundefined | ⟨d, hd⟩
    · obtain ⟨_, -, hunknown⟩ := fragment_undefined hs hundefined args
      rw [hunknown] at h
      cases h
    · by_cases hrefuses : d.Refuses args
      · obtain ⟨_, -, hmismatch⟩ := fragment_refused hd hrefuses
        rw [hmismatch] at h
        cases h
      · rw [fragment_accepted hd hrefuses] at h
        rcases hrun : d.body args l.scope with ⟨t, failure | _⟩
        · rw [hrun] at h
          cases h
        · rw [hrun] at h
          cases h
          exact ⟨d, t, hd, hrefuses, hrun, rfl⟩
  · rintro ⟨d, t, hd, haccepts, hrun, rfl⟩
    rw [fragment_accepted hd haccepts, hrun]

/-- Under which codes a body fails is not changed by the name that its
errors are given. -/
theorem fragment_code (h : repo.schema.Nearest l.subject.model name d)
    (haccepts : ¬d.Refuses args) (code : ErrorCode) :
    FailsWith (l.fragment repo name args) code
      ↔ FailsWith (d.body args l.scope).2 code := by
  rw [fragment_accepted h haccepts]
  rcases d.body args l.scope with ⟨t, (e | f) | _⟩
  · have htagged := e.tagged_inFragment d.name
    constructor
    · rintro ⟨_, ⟨⟩, hcode⟩
      exact ⟨e, rfl, htagged.code ▸ hcode⟩
    · rintro ⟨_, ⟨⟩, hcode⟩
      exact ⟨_, rfl, htagged.code.trans hcode⟩
  · constructor <;> rintro ⟨_, ⟨⟩, -⟩
  · constructor <;> rintro ⟨_, ⟨⟩, -⟩

/-- Every call is refused by one of the two checks or has the outcome of
its body. -/
theorem fragment_called (hs : repo.schema.Registered l.subject.model) (name : String)
    (args : List Value) : l.FragmentCalled repo name args where
  resolved := (repo.schema.undefined_or_nearest l.subject.model name).imp_right
    fun ⟨d, hd⟩ => ⟨d, hd, hd.name_eq, fun _ => hd.unique⟩
  unknown h := fragment_undefined hs h args
  mismatch d hd hrefuses := by
    obtain ⟨problem, hproblem, hfragment⟩ := fragment_refused hd hrefuses
    exact ⟨problem, hproblem, hfragment, Fragment.apply_refused hproblem⟩
  succeeded d t hd haccepts hrun := by rw [fragment_accepted hd haccepts, hrun]
  failed d t e hd haccepts hrun := by
    refine ⟨e.inFragment d.name, ?_, e.tagged_inFragment d.name⟩
    rw [fragment_accepted hd haccepts, hrun]
    rfl
  broken d t f hd haccepts hrun := by
    rw [fragment_accepted hd haccepts, hrun]
    rfl
  ok_iff := by
    simp only [fragment_ok_iff hs]
    constructor
    · rintro ⟨_, d, t, hd, haccepts, hrun, -⟩
      exact ⟨d, t, hd, haccepts, hrun⟩
    · rintro ⟨d, t, hd, haccepts, hrun⟩
      exact ⟨_, d, t, hd, haccepts, hrun, rfl⟩
  code_iff code := by
    unfold BodyFails
    rcases repo.schema.undefined_or_nearest l.subject.model name with hundefined | ⟨d, hd⟩
    · obtain ⟨type, -, hfragment⟩ := fragment_undefined hs hundefined args
      have hnone : ∀ d, ¬repo.schema.Nearest l.subject.model name d :=
        fun d hd => hd.not_undefined hundefined
      rw [hfragment, failsWith_of]
      simp [hundefined, hnone, Cause.code]
    · rw [hd.exists_and, hd.exists_and]
      by_cases hrefuses : d.Refuses args
      · obtain ⟨problem, -, hfragment⟩ := fragment_refused hd hrefuses
        rw [hfragment, failsWith_of]
        simp [hd.not_undefined, hrefuses, Cause.code]
      · rw [fragment_code hd hrefuses]
        simp [hd.not_undefined, hrefuses]

/-! ## A row of calls -/

/-- The calls made in turn, each on what the one before it has given. -/
def fragments (repo : Repository) (l : Selection ρ) (calls : List FragmentCall) :
    Except Failure (Selection ρ) :=
  calls.foldlM (fun l call => l.fragment repo call.name call.args) l

/-- Calls that succeed have run the bodies which their names stand for, each
on the scope that the one before it has left. -/
theorem fragments_run (hmodel : repo.schema.Registered l.subject.model) (hl : l.Coherent repo)
    {calls : List FragmentCall} (h : l.fragments repo calls = .ok l') :
    ∃ parts, List.Forall₂ (repo.schema.StandsFor l.subject.model) calls parts
      ∧ Runs parts l.scope l'.scope ∧ l'.subject = l.subject ∧ l'.chain = l.chain ++ calls
      ∧ l'.Coherent repo := by
  induction calls generalizing l with
  | nil =>
      cases h
      exact ⟨[], .nil, .nil _, rfl, (List.append_nil _).symm, hl⟩
  | cons call rest ih =>
      obtain ⟨l₁, hcall, hrest⟩ := except_bind_ok.mp h
      obtain ⟨d, t, hd, haccepts, hrun, rfl⟩ := (fragment_ok_iff hmodel).mp hcall
      have huntouched := l.untouched_extended t (l.chain ++ [call])
      obtain ⟨parts, hstand, hruns, hsubject, hchain, hl'⟩ :=
        ih (l := { l.extended t with chain := l.chain ++ [call] }) hmodel
          (huntouched.coherent repo) hrest
      refine ⟨d.body call.args :: parts, .cons ⟨d, hd, haccepts, rfl⟩ hstand,
        .cons hrun hruns, hsubject, ?_, hl'⟩
      rw [hchain, List.append_assoc]
      rfl

/-- One body gives the selection the scope and the query of another. -/
def FiltersTo (repo : Repository) (l : Selection ρ) (body : Body) (l' : Selection ρ) : Prop :=
  ∃ adHoc, l.filter body = .ok adHoc ∧ adHoc.scope = l'.scope
    ∧ (adHoc.compiled repo).1 = (l'.compiled repo).1

theorem filtersTo_of_run (hsubject : l'.subject = l.subject) (hl' : l'.Coherent repo)
    {body : Body} (h : body l.scope = (l'.scope, .ok ())) : l.FiltersTo repo body l' := by
  have hextended : (l.extended l'.scope).Coherent repo :=
    (l.untouched_extended l'.scope l.chain).coherent repo
  refine ⟨l.extended l'.scope, ?_, rfl, ?_⟩
  · rw [filter, h]
  · rw [compiled_eq hextended, compiled_eq hl', hsubject]
    rfl

/-- Names are resolved, arguments checked and errors tagged as
`FragmentCalled` says, and a row of calls that succeed is one body under
many names: the bodies in turn, and if they are programs, their steps in
sequence, on the arguments of all calls. -/
theorem fragment_resolved (repo : Repository) (l : Selection ρ)
    (hmodel : repo.schema.Registered l.subject.model) (hl : l.Coherent repo) :
    (∀ name args, l.FragmentCalled repo name args)
      ∧ ∀ calls l', l.fragments repo calls = .ok l' →
        ∃ parts, List.Forall₂ (repo.schema.StandsFor l.subject.model) calls parts
          ∧ Runs parts l.scope l'.scope ∧ l'.chain = l.chain ++ calls
          ∧ l.FiltersTo repo (Body.inTurn parts) l'
          ∧ ∀ programs : List Program, parts = programs.map Program.body →
            l.FiltersTo repo
              (Step.runAll (programs.flatMap (·.2)) (Step.inSequence 0 programs)) l' := by
  refine ⟨fragment_called hmodel, fun calls l' h => ?_⟩
  obtain ⟨parts, hstand, hruns, hsubject, hchain, hl'⟩ := fragments_run hmodel hl h
  refine ⟨parts, hstand, hruns, hchain, filtersTo_of_run hsubject hl' hruns.inTurn, ?_⟩
  rintro programs rfl
  exact filtersTo_of_run hsubject hl' (hruns.inSequence [])

end Selection

/-- A filter of posts. -/
def Fragment.titled : Fragment :=
  { name := "titled", params := [⟨"title", .scalar⟩]
    body := [Step.restrictTo "title" false (.arg 0)] }

/-- A filter of features. -/
def Fragment.among : Fragment :=
  { name := "among", params := [⟨"ids", .list⟩]
    body := [Step.restrict "id" false [.inList (.arg 0)]] }

/-- Posts, and features, which are posts. -/
def Repository.anthology : Repository where
  schema :=
    { models := #[{ name := "Post", table := some "posts", fragments := [.titled] },
        { name := "Feature", table := none, parent := some ⟨0⟩, fragments := [.among] }] }

namespace Selection

/-- A call of the inherited filter and one of the own, and the program that
takes their place: its second argument was the first of the second call. -/
theorem fragment_resolved_anthology :
    let features : Selection Unit := .all { model := ⟨1⟩ }
    FailsWith (features.fragment .anthology "untitled" []) .unknownFragment
      ∧ FailsWith (features.fragment .anthology "among" [.int 4]) .argumentMismatch
      ∧ ∃ l', features.fragments .anthology
            [⟨"titled", [.string "Dawn"]⟩, ⟨"among", [.list [.int 4, .int 2]]⟩] = .ok l'
        ∧ ∃ adHoc, features.filter (Step.runAll [.string "Dawn", .list [.int 4, .int 2]]
            [.restrictTo "title" false (.arg 0), .restrict "id" false [.inList (.arg 1)]])
              = .ok adHoc
          ∧ (adHoc.compiled .anthology).1 = (l'.compiled .anthology).1 := by
  intro features
  have htitled : Repository.anthology.schema.Nearest ⟨1⟩ "titled" .titled :=
    Schema.lookup_eq_some.mp rfl
  have hamong : Repository.anthology.schema.Nearest ⟨1⟩ "among" .among :=
    Schema.lookup_eq_some.mp rfl
  have huntitled : Repository.anthology.schema.Undefined ⟨1⟩ "untitled" :=
    Schema.lookup_eq_none.mp rfl
  have hrefuses : Fragment.among.Refuses [.int 4] := .inr ⟨0, _, _, rfl, rfl, rfl⟩
  obtain ⟨hcalled, hrow⟩ := fragment_resolved .anthology features rfl
    ((untouched_all { model := ⟨1⟩ }).coherent .anthology)
  obtain ⟨l', hl'⟩ : ∃ l', features.fragments .anthology
      [⟨"titled", [.string "Dawn"]⟩, ⟨"among", [.list [.int 4, .int 2]]⟩] = .ok l' := ⟨_, rfl⟩
  obtain ⟨parts, hstand, -, -, -, hprograms⟩ := hrow _ l' hl'
  obtain _ | ⟨⟨d, hd, -, rfl⟩, _ | ⟨⟨d', hd', -, rfl⟩, ⟨⟩⟩⟩ := hstand
  obtain rfl := htitled.unique hd
  obtain rfl := hamong.unique hd'
  obtain ⟨adHoc, hadHoc, -, hsame⟩ := hprograms
    [([.restrictTo "title" false (.arg 0)], [.string "Dawn"]),
      ([.restrict "id" false [.inList (.arg 0)]], [.list [.int 4, .int 2]])] rfl
  exact ⟨((hcalled "untitled" []).code_iff _).mpr (.inl ⟨rfl, huntitled⟩),
    ((hcalled "among" [.int 4]).code_iff _).mpr (.inr (.inl ⟨rfl, _, hamong, hrefuses⟩)),
    l', hl', adHoc, hadHoc, hsame⟩

end Selection

end Criteria
