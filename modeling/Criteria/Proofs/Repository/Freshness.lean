import Criteria.Proofs.Plan.Meaning
import Criteria.Proofs.Repository.Looks

/-!
# Nothing kept is stale

A selection keeps its query, its rows and their number from one look to
the next, and is extended between looks. The main statement,
`runAll_fresh`: whatever was called on it, it shows the query that the
extensions alone come to, run from an empty scope and compiled from
scratch.

The invariant (`Tracks`) ties a selection to the calls so far and not to
the one before it: each extension is the same change of a scope whether
anything was kept or not (`Extension.apply_eq`), and each look leaves a
query that is compiled exactly if there is one.
-/

namespace Criteria

variable {σ ρ : Type}

/-! ## Calls -/

/-- What makes a new selection out of one, which it uses up. -/
inductive Extension where
  | filter (body : Body)
  | fragment (name : String) (args : List Value)

namespace Extension

def apply (repo : Repository) (l : Selection ρ) : Extension → Except Failure (Selection ρ)
  | .filter body => l.filter body
  | .fragment name args => l.fragment repo name args

/-- The scope of an outcome that is a success. -/
def committed : Outcome → Except Failure Scope
  | (scope, .ok ()) => .ok scope
  | (_, .error f) => .error f

/-- The extension run on a scope, with no selection around it. -/
def replay (repo : Repository) (model : ModelId) (scope : Scope) : Extension → Except Failure Scope
  | .filter body => committed (body scope)
  | .fragment name args => do
    let fragment ← repo.schema.fragment model name
    committed (fragment.apply args scope)

def call? : Extension → Option FragmentCall
  | .filter .. => none
  | .fragment name args => some { name, args }

end Extension

/-- One call on a selection. -/
inductive Call where
  | extend (e : Extension)
  | look (k : Look)
  | isCompiled

inductive Answer (ρ : Type) where
  | extended
  | shown (result : Except Failure (Shown ρ))
  | compiled (yes : Bool)

namespace Call

def extension? : Call → Option Extension
  | .extend e => some e
  | _ => none

/-- The answer to a call and the selection after it, unless that is
lost. -/
def run (repo : Repository) (executor : Executor σ ρ) (l : Selection ρ) (s : σ) :
    Call → Except Failure (Answer ρ × Selection ρ) × σ
  | .extend e => ((e.apply repo l).map (.extended, ·), s)
  | .look k =>
    let (result, l, s) := k.observe repo executor l s
    (.ok (.shown result, l), s)
  | .isCompiled => (.ok (.compiled l.isCompiled, l), s)

end Call

/-- The extensions among calls. -/
def Call.extensions (calls : List Call) : List Extension := calls.filterMap Call.extension?

/-- What calls came to: their answers, and the selection in the end or the
failure by which it was lost. -/
structure Run (σ ρ : Type) where
  answers : List (Answer ρ)
  held : Except Failure (Selection ρ)
  state : σ

/-- Calls one after another, until the selection is lost. -/
def Call.runAll (repo : Repository) (executor : Executor σ ρ) :
    List Call → Selection ρ → σ → Run σ ρ
  | [], l, s => ⟨[], .ok l, s⟩
  | call :: rest, l, s =>
    match call.run repo executor l s with
    | (.error f, s) => ⟨[], .error f, s⟩
    | (.ok (answer, l), s) =>
      let after := Call.runAll repo executor rest l s
      { after with answers := answer :: after.answers }

/-! ## From scratch -/

/-- The scope that the extensions among calls build out of an empty one. -/
def Call.built (repo : Repository) (model : ModelId) (calls : List Call) : Except Failure Scope :=
  (Call.extensions calls).foldlM (fun scope e => e.replay repo model scope) .root

/-- The named filters among calls. -/
def Call.chain (calls : List Call) : List FragmentCall :=
  (Call.extensions calls).filterMap Extension.call?

/-- There was a look after the last extension, and what it looked at could
be compiled. -/
def Call.CompiledSince (repo : Repository) (subject : Subject) (calls : List Call) : Prop :=
  ∃ earlier k later, calls = earlier ++ .look k :: later
    ∧ Call.extensions later = []
    ∧ ∃ scope q, Call.built repo subject.model earlier = .ok scope
        ∧ repo.compile subject scope = .ok q

/-- An extension of a selection changes its scope as it would change any
scope, and leaves nothing kept. -/
theorem Extension.apply_eq (repo : Repository) (l : Selection ρ) (e : Extension) :
    e.apply repo l = (e.replay repo l.subject.model l.scope).map fun scope =>
      { l.extended scope with chain := l.chain ++ e.call?.toList } := by
  cases e with
  | filter body =>
      rw [Extension.apply, Extension.replay, Selection.filter]
      rcases hrun : body l.scope with ⟨scope, f | _⟩
      · rfl
      · simp [Extension.committed, Except.map, Extension.call?, Selection.extended]
  | fragment name args =>
      rw [Extension.apply, Extension.replay, Selection.fragment]
      cases hfragment : repo.schema.fragment l.subject.model name with
      | error f => rfl
      | ok fragment =>
          rcases hrun : fragment.apply args l.scope with ⟨scope, f | _⟩
          · simp only [bind, Except.bind, hrun]
            rfl
          · simp only [bind, Except.bind, hrun]
            rfl

namespace Call

open Selection (Answered)

variable {repo : Repository} {subject : Subject} {executor : Executor σ ρ}

@[simp] theorem extensions_append (xs ys : List Call) :
    extensions (xs ++ ys) = extensions xs ++ extensions ys := List.filterMap_append

@[simp] theorem extensions_extend (e : Extension) (rest : List Call) :
    extensions (.extend e :: rest) = e :: extensions rest := rfl

@[simp] theorem extensions_look (k : Look) (rest : List Call) :
    extensions (.look k :: rest) = extensions rest := rfl

@[simp] theorem extensions_isCompiled (rest : List Call) :
    extensions (.isCompiled :: rest) = extensions rest := rfl

@[simp] theorem extensions_nil : extensions [] = [] := rfl

theorem extensions_map_extend (es : List Extension) : extensions (es.map .extend) = es := by
  induction es with
  | nil => rfl
  | cons e es ih => rw [List.map_cons, extensions_extend, ih]

theorem built_snoc_extend {calls : List Call} {scope : Scope} (e : Extension)
    (h : built repo subject.model calls = .ok scope) :
    built repo subject.model (calls ++ [.extend e]) = e.replay repo subject.model scope := by
  rw [built] at h
  rw [built, extensions_append, List.foldlM_append, h]
  cases hreplay : e.replay repo subject.model scope <;>
    simp [bind, Except.bind, hreplay, pure, Except.pure]

/-- Only the extensions among calls build anything. -/
theorem built_congr {xs ys : List Call} (model : ModelId) (h : extensions xs = extensions ys) :
    built repo model xs = built repo model ys := by
  rw [built, built, h]

/-! ## Calls one by one -/

/-- A selection that has come about by calls. -/
structure Tracks (repo : Repository) (executor : Executor σ ρ) (subject : Subject)
    (calls : List Call) (l : Selection ρ) : Prop where
  about : l.subject = subject
  scope : built repo subject.model calls = .ok l.scope
  chain : l.chain = Call.chain calls
  coherent : l.Coherent repo
  compiled : l.isCompiled = true ↔ CompiledSince repo subject calls
  answered : ∀ kind a, l.kept kind = some a → Answered repo l (executor.run kind) a

theorem Tracks.start (repo : Repository) (executor : Executor σ ρ) (subject : Subject) :
    Tracks repo executor subject [] (.all subject) where
  about := rfl
  scope := rfl
  chain := rfl
  coherent := (Selection.untouched_all subject).coherent repo
  compiled := by
    constructor
    · intro h
      cases h
    · rintro ⟨earlier, k, later, hcalls, -⟩
      simp at hcalls
  answered := fun kind a ha => by
    rw [(Selection.untouched_all subject).kept] at ha
    cases ha

theorem not_compiledSince_extend (calls : List Call) (e : Extension) :
    ¬ CompiledSince repo subject (calls ++ [.extend e]) := by
  rintro ⟨earlier, k, later, hcalls, hlater, -⟩
  rcases append_cons_eq_snoc hcalls with ⟨-, hlook, -⟩ | ⟨later', -, rfl⟩
  · cases hlook
  · simp at hlater

theorem Tracks.extend {calls : List Call} {l l' : Selection ρ} {e : Extension}
    (h : Tracks repo executor subject calls l) (he : e.apply repo l = .ok l') :
    Tracks repo executor subject (calls ++ [.extend e]) l' := by
  rw [Extension.apply_eq, h.about] at he
  cases hreplay : e.replay repo subject.model l.scope with
  | error f =>
      rw [hreplay] at he
      cases he
  | ok scope =>
      rw [hreplay] at he
      obtain rfl := Except.ok.inj he
      have huntouched := l.untouched_extended scope (l.chain ++ e.call?.toList)
      refine ⟨h.about, ?_, ?_, huntouched.coherent repo, ?_, fun kind a ha => ?_⟩
      · rw [built_snoc_extend e h.scope, hreplay]
        rfl
      · rw [Call.chain, extensions_append, List.filterMap_append, ← Call.chain, ← h.chain]
        cases hcall : e.call? <;> simp [hcall]
      · constructor
        · intro hcompiled
          cases hcompiled
        · intro hsince
          exact absurd hsince (not_compiledSince_extend calls e)
      · rw [huntouched.kept] at ha
        cases ha

theorem Tracks.extend_error {calls : List Call} {l : Selection ρ} {e : Extension} {f : Failure}
    (h : Tracks repo executor subject calls l) (he : e.apply repo l = .error f) :
    built repo subject.model (calls ++ [.extend e]) = .error f := by
  rw [Extension.apply_eq, h.about] at he
  rw [built_snoc_extend e h.scope]
  cases hreplay : e.replay repo subject.model l.scope with
  | error f' =>
      rw [hreplay] at he
      cases he
      rfl
  | ok scope =>
      rw [hreplay] at he
      cases he

/-- Whether the filter was compiled is settled by the look that was taken
last. -/
theorem compiledSince_look {calls : List Call} {scope : Scope} (k : Look)
    (h : built repo subject.model calls = .ok scope) :
    CompiledSince repo subject (calls ++ [.look k]) ↔ ∃ q, repo.compile subject scope = .ok q := by
  constructor
  · rintro ⟨earlier, k', later, hcalls, hlater, scope', q, hscope', hq⟩
    have hsame : extensions calls = extensions earlier := by
      have hext := congrArg extensions hcalls
      simpa [hlater] using hext
    rw [built_congr subject.model hsame, hscope'] at h
    cases h
    exact ⟨q, hq⟩
  · rintro ⟨q, hq⟩
    exact ⟨calls, k, [], rfl, rfl, scope, q, h, hq⟩

theorem Tracks.look {calls : List Call} {l : Selection ρ}
    (h : Tracks repo executor subject calls l) (k : Look) (s : σ) :
    Tracks repo executor subject (calls ++ [.look k]) (k.observe repo executor l s).2.1 := by
  obtain ⟨hseen, hcoherent, hkept⟩ := k.observe_keeps h.coherent executor s
  have hsame : extensions (calls ++ [.look k]) = extensions calls := by simp
  refine ⟨hseen.subject.trans h.about, ?_, ?_, hcoherent, ?_, fun kind a ha => ?_⟩
  · rw [built_congr subject.model hsame, h.scope, hseen.scope]
  · rw [hseen.chain, h.chain, Call.chain, Call.chain, hsame]
  · rw [compiledSince_look k h.scope, Selection.isCompiled, hseen.query, h.about]
    cases repo.compile subject l.scope <;> simp [Except.toOption]
  · rw [Answered, hseen.subject, hseen.scope]
    exact (hkept kind a ha).elim (h.answered kind a) id

theorem Tracks.isCompiled {calls : List Call} {l : Selection ρ}
    (h : Tracks repo executor subject calls l) :
    Tracks repo executor subject (calls ++ [.isCompiled]) l := by
  have hsame : extensions (calls ++ [.isCompiled]) = extensions calls := by simp
  refine ⟨h.about, ?_, ?_, h.coherent, ?_, h.answered⟩
  · rw [built_congr subject.model hsame, h.scope]
  · rw [h.chain, Call.chain, Call.chain, hsame]
  · rw [h.compiled]
    constructor
    · rintro ⟨earlier, k, later, rfl, hlater, hrest⟩
      exact ⟨earlier, k, later ++ [.isCompiled], by simp, by simp [hlater], hrest⟩
    · rintro ⟨earlier, k, later, hcalls, hlater, hrest⟩
      rcases append_cons_eq_snoc hcalls with ⟨-, hlook, -⟩ | ⟨later', rfl, rfl⟩
      · cases hlook
      · exact ⟨earlier, k, later', rfl, by simpa using hlater, hrest⟩

/-- One more call: the selection still comes about by the calls, or it is
lost by the failure that the calls have from scratch. -/
theorem Tracks.run {calls : List Call} {l : Selection ρ} (h : Tracks repo executor subject calls l)
    (c : Call) (s : σ) :
    match (c.run repo executor l s).1 with
    | .ok (_, l') => Tracks repo executor subject (calls ++ [c]) l'
    | .error f => built repo subject.model (calls ++ [c]) = .error f := by
  cases c with
  | extend e =>
      rw [Call.run]
      cases he : e.apply repo l with
      | error f => exact h.extend_error he
      | ok l' => exact h.extend he
  | look k => exact h.look k s
  | isCompiled => exact h.isCompiled

/-! ## Whole runs -/

theorem built_append_error {xs : List Call} {f : Failure} {model : ModelId}
    (h : built repo model xs = .error f) (ys : List Call) :
    built repo model (xs ++ ys) = .error f := by
  rw [built] at h
  rw [built, extensions_append, List.foldlM_append, h]
  rfl

theorem Tracks.runAll {calls : List Call} {l : Selection ρ}
    (h : Tracks repo executor subject calls l) (rest : List Call) (s : σ) :
    match (Call.runAll repo executor rest l s).held with
    | .ok l' => Tracks repo executor subject (calls ++ rest) l'
    | .error f => built repo subject.model (calls ++ rest) = .error f := by
  induction rest generalizing calls l s with
  | nil =>
      rw [List.append_nil]
      exact h
  | cons c rest ih =>
      have hrun := h.run c s
      rw [Call.runAll, List.append_cons]
      rcases hc : c.run repo executor l s with ⟨f | ⟨answer, l'⟩, s'⟩
      · rw [hc] at hrun
        exact built_append_error hrun rest
      · rw [hc] at hrun
        exact ih hrun s'

theorem runAll_append (xs ys : List Call) (l : Selection ρ) (s : σ) :
    Call.runAll repo executor (xs ++ ys) l s =
      let before := Call.runAll repo executor xs l s
      match before.held with
      | .ok l' =>
        let after := Call.runAll repo executor ys l' before.state
        ⟨before.answers ++ after.answers, after.held, after.state⟩
      | .error _ => before := by
  induction xs generalizing l s with
  | nil => rfl
  | cons c xs ih =>
      rw [List.cons_append, Call.runAll, Call.runAll]
      rcases hc : c.run repo executor l s with ⟨f | ⟨answer, l'⟩, s'⟩
      · rfl
      · simp only [ih]
        split <;> rfl

/-- As long as the selection is held, every call is answered. -/
theorem length_answers {calls : List Call} {l l' : Selection ρ} {s : σ}
    (h : (Call.runAll repo executor calls l s).held = .ok l') :
    (Call.runAll repo executor calls l s).answers.length = calls.length := by
  induction calls generalizing l s with
  | nil => rfl
  | cons c rest ih =>
      rw [Call.runAll] at h ⊢
      rcases hc : c.run repo executor l s with ⟨f | ⟨answer, l₁⟩, s₁⟩
      · rw [hc] at h
        cases h
      · rw [hc] at h
        simp only [List.length_cons, ih h]

/-- The answer to a call in the middle of a run is the one that it has on
the selection there. -/
theorem getElem?_answers {earlier later : List Call} {c : Call} {l l' l₁ : Selection ρ} {s : σ}
    {answer : Answer ρ} (h : (Call.runAll repo executor earlier l s).held = .ok l')
    (hc : (c.run repo executor l' (Call.runAll repo executor earlier l s).state).1
      = .ok (answer, l₁)) :
    (Call.runAll repo executor (earlier ++ c :: later) l s).answers[earlier.length]?
      = some answer := by
  rw [runAll_append, ← length_answers h]
  simp only [h, Call.runAll]
  rcases hrun : c.run repo executor l' (Call.runAll repo executor earlier l s).state
    with ⟨f | ⟨answer', l₂⟩, s₂⟩
  · rw [hrun] at hc
    cases hc
  · rw [hrun] at hc
    cases hc
    simp

/-- A selection shows what the calls come to from scratch. -/
structure Fresh (repo : Repository) (executor : Executor σ ρ) (subject : Subject)
    (calls : List Call) (l : Selection ρ) : Prop where
  scope : built repo subject.model calls = .ok l.scope
  chain : l.chain = Call.chain calls
  query : (l.compiled repo).1 = repo.compile subject l.scope
  isCompiled : l.isCompiled = true ↔ CompiledSince repo subject calls
  /-- Rows and counts are answers to the query of the scope as it is. -/
  kept : ∀ kind a, l.kept kind = some a → Answered repo l (executor.run kind) a

theorem Tracks.query {calls : List Call} {l : Selection ρ}
    (h : Tracks repo executor subject calls l) :
    (l.compiled repo).1 = repo.compile subject l.scope := by
  rw [Selection.compiled_eq h.coherent, h.about]

/-- If the extensions succeed from scratch, the selection is held. -/
theorem held_of_built (executor : Executor σ ρ) {calls : List Call} {scope : Scope} (s : σ)
    (h : built repo subject.model calls = .ok scope) :
    ∃ l, (Call.runAll repo executor calls (.all subject) s).held = .ok l
      ∧ Tracks repo executor subject calls l ∧ l.scope = scope := by
  have htracks := (Tracks.start repo executor subject).runAll calls s
  cases hheld : (Call.runAll repo executor calls (.all subject) s).held with
  | error f =>
      rw [hheld, List.nil_append, h] at htracks
      cases htracks
  | ok l =>
      rw [hheld] at htracks
      have hscope : built repo subject.model calls = .ok l.scope := htracks.scope
      rw [h] at hscope
      cases hscope
      exact ⟨l, rfl, htracks, rfl⟩

theorem held_error (executor : Executor σ ρ) {calls : List Call} {f : Failure} (s : σ) :
    (Call.runAll repo executor calls (.all subject) s).held = .error f
      ↔ built repo subject.model calls = .error f := by
  have htracks := (Tracks.start repo executor subject).runAll calls s
  cases hheld : (Call.runAll repo executor calls (.all subject) s).held with
  | error f' =>
      rw [hheld, List.nil_append] at htracks
      rw [htracks]
      exact ⟨fun heq => by cases heq; rfl, fun heq => by cases heq; rfl⟩
  | ok l =>
      rw [hheld] at htracks
      have hscope : built repo subject.model calls = .ok l.scope := htracks.scope
      rw [hscope]
      constructor <;> intro heq <;> cases heq

/-- Whatever is called on a selection and whatever the executor answers,
the selection is as its extensions alone build it, and every query it
shows is compiled from scratch; it is lost exactly when an extension
fails. Without the looks, the same query comes out in the end. -/
theorem runAll_fresh (repo : Repository) (executor : Executor σ ρ) (subject : Subject)
    (calls : List Call) (s : σ) :
    let run := Call.runAll repo executor calls (.all subject) s
    (∀ l, run.held = .ok l → Fresh repo executor subject calls l)
      ∧ (∀ f, run.held = .error f ↔ built repo subject.model calls = .error f)
      ∧ (∀ earlier later scope, calls = earlier ++ .look .query :: later →
          built repo subject.model earlier = .ok scope →
          run.answers[earlier.length]? = some (.shown ((repo.compile subject scope).map .query)))
      ∧ (∀ earlier later scope, calls = earlier ++ .isCompiled :: later →
          built repo subject.model earlier = .ok scope →
          ∃ yes, run.answers[earlier.length]? = some (.compiled yes)
            ∧ (yes = true ↔ CompiledSince repo subject earlier))
      ∧ (Call.runAll repo executor ((extensions calls).map .extend) (.all subject) s).held.map
          (fun l => (l.compiled repo).1) = run.held.map fun l => (l.compiled repo).1 := by
  intro run
  refine ⟨fun l hl => ?_, fun f => held_error executor s, ?_, ?_, ?_⟩
  · have htracks := (Tracks.start repo executor subject).runAll calls s
    rw [hl] at htracks
    exact ⟨htracks.scope, htracks.chain, Tracks.query htracks, htracks.compiled, htracks.answered⟩
  · rintro earlier later scope rfl hscope
    obtain ⟨l, hl, htracks, rfl⟩ := held_of_built executor s hscope
    obtain ⟨l', hlook, -⟩ := Look.observe_query htracks.coherent executor
      (Call.runAll repo executor earlier (.all subject) s).state
    have hanswer : (Call.run repo executor l
        (Call.runAll repo executor earlier (.all subject) s).state (.look .query)).1
          = .ok (.shown ((repo.compile subject l.scope).map .query), l') := by
      rw [Call.run, hlook, htracks.about]
    exact getElem?_answers hl hanswer
  · rintro earlier later scope rfl hscope
    obtain ⟨l, hl, htracks, rfl⟩ := held_of_built executor s hscope
    exact ⟨l.isCompiled, getElem?_answers hl rfl, htracks.compiled⟩
  · have hsame : built repo subject.model ((extensions calls).map .extend)
        = built repo subject.model calls := built_congr _ (extensions_map_extend _)
    cases hbuilt : built repo subject.model calls with
    | error f =>
        rw [(held_error executor s).mpr (hsame.trans hbuilt)]
        exact congrArg _ ((held_error executor s).mpr hbuilt).symm
    | ok scope =>
        obtain ⟨l, hl, htracks, hscope⟩ :=
          held_of_built executor s (hsame.trans hbuilt)
        obtain ⟨l', hl', htracks', hscope'⟩ := held_of_built executor s hbuilt
        have hrun : run.held = .ok l' := hl'
        rw [hl, hrun, Except.map, Except.map, htracks.query, htracks'.query, hscope, hscope']

/-- A look at posts, a narrower filter, and a count of what it leaves. -/
def recount : List Call :=
  [.look .query, .extend (.filter [Step.unsigned]), .look (.ask .count), .isCompiled]

/-- The count fails, but not before the filter was compiled; the query
from before the extension is forgotten. -/
theorem runAll_fresh_recount :
    ∃ l, (runAll .forum .fusedRecorder recount (.all { model := ⟨0⟩ })
        ⟨1, { rows := ["first"] }⟩).held = .ok l
      ∧ Fresh .forum .fusedRecorder { model := ⟨0⟩ } recount l
      ∧ l.isCompiled = true ∧ l.count = none := by
  have hheld : ∃ l, (runAll .forum .fusedRecorder recount (.all { model := ⟨0⟩ })
      ⟨1, { rows := ["first"] }⟩).held = .ok l ∧ l.isCompiled = true ∧ l.count = none :=
    ⟨_, rfl, rfl, rfl⟩
  obtain ⟨l, hl, hcompiled, hcount⟩ := hheld
  obtain ⟨hfresh, -⟩ := runAll_fresh .forum .fusedRecorder { model := ⟨0⟩ } recount
    ⟨1, { rows := ["first"] }⟩
  exact ⟨l, hl, hfresh l hl, hcompiled, hcount⟩

end Call

end Criteria
