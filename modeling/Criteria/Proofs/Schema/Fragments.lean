import Criteria.Proofs.Schema.Growth

/-!
# The registry of named filters

Listing, lookup and definition of named filters each climb a lineage of
their own. The main statement, `Schema.Grown.fragments_agree`, says that
they agree in every schema that calls have grown: what is listed is what
can be found, namely on the nearest type that has it, and a name that is
listed cannot be defined again.

Definitions come in any order, so a type may have a name before an
ancestor gets it. A definition then reaches the heirs that have found
nothing so far, and nobody else (`Schema.Defines`).
-/

namespace Criteria

/-! ## Lists without repetition -/

theorem nodup_eraseDups {α : Type} [BEq α] [LawfulBEq α] :
    ∀ xs : List α, xs.eraseDups.Nodup
  | [] => List.nodup_nil
  | x :: xs => by
      rw [List.eraseDups_cons, List.nodup_cons]
      refine ⟨fun hmem => ?_, nodup_eraseDups _⟩
      simpa using List.mem_filter.mp (List.mem_eraseDups.mp hmem)
termination_by xs => xs.length
decreasing_by exact Nat.lt_succ_of_le (List.length_filter_le ..)

theorem eraseDups_eq {α : Type} [BEq α] [LawfulBEq α] {xs : List α} (h : xs.Nodup) :
    xs.eraseDups = xs := by
  induction xs with
  | nil => rfl
  | cons x xs ih =>
      obtain ⟨hx, hxs⟩ := List.nodup_cons.mp h
      have hkept : xs.filter (fun y => !y == x) = xs := by
        rw [List.filter_eq_self]
        intro y hy
        have hne : y ≠ x := fun heq => hx (heq ▸ hy)
        simpa using hne
      rw [List.eraseDups_cons, hkept, ih hxs]

/-- Of what stands in the middle, that is left which did not come
before. -/
theorem eraseDups_split (xs zs : List String) {ys : List String} (hys : ys.Nodup) :
    ∃ rest, (xs ++ (ys ++ zs)).eraseDups
      = xs.eraseDups ++ ys.filter (· ∉ xs.eraseDups) ++ rest := by
  have hkept : ys.removeAll xs = ys.filter (· ∉ xs.eraseDups) := by
    rw [List.removeAll]
    refine List.filter_congr fun y _ => ?_
    simp [List.mem_eraseDups]
  have hsplit : (ys ++ zs).removeAll xs = ys.removeAll xs ++ zs.removeAll xs :=
    List.filter_append ..
  have hnodup : (ys.removeAll xs).Nodup := hys.filter _
  rw [List.eraseDups_append, hsplit, List.eraseDups_append, eraseDups_eq hnodup, hkept,
    ← List.append_assoc]
  exact ⟨_, rfl⟩

theorem findSome?_congr {α β : Type} {f g : α → Option β} {xs : List α}
    (h : ∀ x ∈ xs, f x = g x) : xs.findSome? f = xs.findSome? g := by
  induction xs with
  | nil => rfl
  | cons x xs ih =>
      rw [List.findSome?_cons, List.findSome?_cons, h x (List.mem_cons_self ..),
        ih fun y hy => h y (List.mem_cons_of_mem _ hy)]

/-! ## Own definitions -/

namespace Model

variable {m : Model} {f : Fragment}

/-- One more definition, the last of all. -/
def define (f : Fragment) (m : Model) : Model := { m with fragments := m.fragments ++ [f] }

theorem fragmentNames_define : (m.define f).fragmentNames = m.fragmentNames ++ [f.name] :=
  List.map_append

theorem fragment?_define (name : String) : (m.define f).fragment? name
    = (m.fragment? name).or (if f.name = name then some f else none) := by
  rw [define, fragment?, List.find?_append, ← fragment?, List.find?_singleton]
  simp only [decide_eq_true_eq]

end Model

namespace Schema

/-! ## Lookups -/

variable {s t : Schema} {id other : ModelId} {name : String} {f : Fragment}

/-- The names that a type has definitions of, in their order. -/
def ownNames (s : Schema) (id : ModelId) : Option (List String) :=
  s.models[id.index]?.map Model.fragmentNames

/-- A type is the other or inherits from it. -/
def Descends (s : Schema) (id ancestor : ModelId) : Prop :=
  ∃ t ∈ (s.lineage id).types, t.1 = ancestor

/-- The definition is on the nearest type of the lineage that has one of
this name. -/
def Nearest (s : Schema) (id : ModelId) (name : String) (f : Fragment) : Prop :=
  ∃ nearer t farther, (s.lineage id).types = nearer ++ t :: farther
    ∧ t.2.fragment? name = some f ∧ ∀ u ∈ nearer, name ∉ u.2.fragmentNames

/-- The first definition along a lineage. -/
def lookup (types : List (ModelId × Model)) (name : String) : Option Fragment :=
  types.findSome? fun t => t.2.fragment? name

theorem lookup_eq_none {types : List (ModelId × Model)} :
    lookup types name = none ↔ ∀ t ∈ types, name ∉ t.2.fragmentNames := by
  simp only [lookup, List.findSome?_eq_none_iff, Model.fragment?_eq_none]

theorem lookup_eq_some : lookup (s.lineage id).types name = some f ↔ s.Nearest id name f := by
  simp only [lookup, List.findSome?_eq_some_iff, Model.fragment?_eq_none, Nearest]

theorem exists_lookup {types : List (ModelId × Model)} :
    (∃ f, lookup types name = some f) ↔ ∃ t ∈ types, name ∈ t.2.fragmentNames := by
  rw [← Option.ne_none_iff_exists', ne_eq, lookup_eq_none]
  simp

/-- What is looked up is found exactly if it is defined somewhere; a
number that was never issued does not matter above it. -/
theorem fragment_ok : s.fragment id name = .ok f ↔ lookup (s.lineage id).types name = some f := by
  constructor
  · intro h
    obtain ⟨found, hfound, h⟩ := except_bind_ok.mp h
    cases found with
    | some g =>
        cases h
        exact Lineage.findSome?_ok hfound
    | none =>
        obtain ⟨_, -, h⟩ := except_bind_ok.mp h
        cases h
  · intro h
    have hfound : (s.lineage id).findSome? (·.fragment? name) = .ok (some f) := by
      unfold Lineage.findSome?
      rw [← lookup, h]
    rw [Schema.fragment, hfound]
    rfl

namespace Registered

variable (h : s.Registered id)
include h

theorem fragmentNames_eq : s.fragmentNames id
    = .ok ((s.lineage id).types.flatMap (·.2.fragmentNames)).eraseDups := by
  rw [Schema.fragmentNames, Lineage.all, h]
  rfl

theorem defineFragment_eq (f : Fragment) : s.defineFragment id f =
    match lookup (s.lineage id).types f.name with
    | some _ => s.name id >>= fun model => .error (.of (.duplicateFragment model f.name))
    | none => .ok (s.modify id (.define f)) := by
  unfold Schema.defineFragment
  simp only [h.findSome?, lookup]
  cases (s.lineage id).types.findSome? (·.2.fragment? f.name) <;> rfl

end Registered

/-! ## Listing -/

/-- The names of the named filters that a type has or inherits. -/
structure Lists (s : Schema) (id : ModelId) (names : List String) : Prop where
  distinct : names.Nodup
  /-- The own names of a type stand in the order of their definition, behind
  those of all types that are nearer. -/
  ordered : ∀ nearer t farther, (s.lineage id).types = nearer ++ t :: farther →
    ∃ before after, names = before ++ t.2.fragmentNames.filter (· ∉ before) ++ after
      ∧ ∀ name, name ∈ before ↔ ∃ u ∈ nearer, name ∈ u.2.fragmentNames
  found : ∀ name, name ∈ names ↔ ∃ f, s.fragment id name = .ok f

theorem Ordered.lists (hs : s.Ordered) (id : ModelId) :
    s.Lists id ((s.lineage id).types.flatMap (·.2.fragmentNames)).eraseDups where
  distinct := nodup_eraseDups _
  ordered nearer t farther hsplit := by
    have ht : t ∈ (s.lineage id).types := by
      rw [hsplit]
      exact List.mem_append_right _ (List.mem_cons_self ..)
    have hown : t.2.fragmentNames.Nodup := hs.fragments (climb_getElem? ht)
    obtain ⟨after, hafter⟩ := eraseDups_split (nearer.flatMap (·.2.fragmentNames))
      (farther.flatMap (·.2.fragmentNames)) hown
    rw [hsplit, List.flatMap_append, List.flatMap_cons, hafter]
    exact ⟨_, after, rfl, fun name => by rw [List.mem_eraseDups, List.mem_flatMap]⟩
  found name := by
    simp only [fragment_ok, exists_lookup, List.mem_eraseDups, List.mem_flatMap]

/-! ## Defining -/

/-- What the definition of a named filter on a type changes. -/
structure Defines (s : Schema) (id : ModelId) (f : Fragment) (t : Schema) : Prop where
  own : t.fragment id f.name = .ok f
  /-- Heirs that have found nothing under the name find it now. -/
  inherited : ∀ heir, s.Descends heir id → (∀ g, s.fragment heir f.name ≠ .ok g) →
    t.fragment heir f.name = .ok f
  /-- No other lookup has another result. -/
  kept : ∀ other name,
    ¬ (name = f.name ∧ s.Descends other id ∧ ∀ g, s.fragment other name ≠ .ok g) →
      t.fragment other name = s.fragment other name
  /-- It is the last of the type's own, and those of other types stay. -/
  last : t.ownNames id = (s.ownNames id).map (· ++ [f.name])
  others : ∀ other, other ≠ id → t.ownNames other = s.ownNames other

/-- Where the first definition is the same, so is the lookup, or it fails
in the same way. -/
theorem fragment_congr (hunissued : (t.lineage other).unissued = (s.lineage other).unissued)
    (hname : t.name other = s.name other)
    (hlookup : lookup (t.lineage other).types name = lookup (s.lineage other).types name) :
    t.fragment other name = s.fragment other name := by
  have hfound : (t.lineage other).findSome? (·.fragment? name)
      = (s.lineage other).findSome? (·.fragment? name) := by
    unfold Lineage.findSome?
    rw [← lookup, ← lookup, hlookup, hunissued]
  rw [Schema.fragment, hfound, hname, ← Schema.fragment]

theorem name_define (other : ModelId) : (s.modify id (.define f)).name other = s.name other := by
  unfold Schema.name Schema.model
  rw [getElem?_modify]
  cases s.models[other.index]? with
  | none => rfl
  | some m =>
      by_cases hid : other = id
      · rw [Option.map_some, if_pos hid]
        rfl
      · rw [Option.map_some, if_neg hid]

/-- The first definition along a lineage, after one more on one of its
types. -/
theorem lookup_define (other : ModelId) (name : String) :
    lookup ((s.modify id (.define f)).lineage other).types name
      = (s.lineage other).types.findSome? fun t => (t.2.fragment? name).or
          (if t.1 = id ∧ f.name = name then some f else none) := by
  have hparent (m : Model) : (m.define f).parent = m.parent := rfl
  rw [lineage_modify hparent, lookup, List.findSome?_map]
  refine congrArg (List.findSome? · _) (funext fun t => ?_)
  by_cases hid : t.1 = id
  · simp [hid, Model.fragment?_define]
  · simp [hid]

theorem lookup_define_of_descends (h : lookup (s.lineage other).types f.name = none)
    (hdescends : s.Descends other id) :
    lookup ((s.modify id (.define f)).lineage other).types f.name = some f := by
  obtain ⟨x, hx, hid⟩ := hdescends
  obtain ⟨nearer, farther, hsplit, hnearer⟩ := List.eq_append_cons_of_mem hx
  rw [lookup, List.findSome?_eq_none_iff] at h
  rw [lookup_define]
  -- What the others say is nothing, so the first answer is the new one.
  have hsome : ((s.lineage other).types.findSome? fun t => (t.2.fragment? f.name).or
      (if t.1 = id ∧ f.name = f.name then some f else none)).isSome := by
    rw [List.findSome?_isSome_iff]
    exact ⟨x, hx, by simp [h x hx, hid]⟩
  obtain ⟨g, hg⟩ := Option.isSome_iff_exists.mp hsome
  obtain ⟨y, hy, hanswer⟩ := List.exists_of_findSome?_eq_some hg
  rw [h y hy, Option.none_or] at hanswer
  split at hanswer
  · rw [hg, ← hanswer]
  · cases hanswer

theorem lookup_define_of_not (h : ¬ (name = f.name ∧ s.Descends other id)) :
    lookup ((s.modify id (.define f)).lineage other).types name
      = lookup (s.lineage other).types name := by
  rw [lookup_define]
  have hsame : ∀ x ∈ (s.lineage other).types, (x.2.fragment? name).or
      (if x.1 = id ∧ f.name = name then some f else none) = x.2.fragment? name := by
    intro x hx
    have hapart : ¬ (x.1 = id ∧ f.name = name) := fun ⟨hid, hname⟩ => h ⟨hname.symm, x, hx, hid⟩
    rw [if_neg hapart, Option.or_none]
  exact findSome?_congr hsame

/-- Who finds something before goes on finding it. -/
theorem lookup_define_of_some (hs : s.Ordered) (hnew : lookup (s.lineage id).types f.name = none)
    {g : Fragment} (h : lookup (s.lineage other).types name = some g) :
    lookup ((s.modify id (.define f)).lineage other).types name = some g := by
  by_cases hname : name = f.name
  · subst hname
    have hparent (m : Model) : (m.define f).parent = m.parent := rfl
    exact hs.findSome?_modify (f := (·.fragment? f.name)) hparent hnew h
  · rw [lookup_define_of_not fun hboth => hname hboth.1]
    exact h

theorem not_found_iff : (∀ g, s.fragment id name ≠ .ok g)
    ↔ lookup (s.lineage id).types name = none := by
  simp only [ne_eq, fragment_ok, Option.eq_none_iff_forall_ne_some]

theorem Ordered.defines (hs : s.Ordered) {m : Model} (hm : s.models[id.index]? = some m)
    (hnew : lookup (s.lineage id).types f.name = none) :
    s.Defines id f (s.modify id (.define f)) := by
  have hself : s.Descends id id := ⟨(id, m), mem_lineage_self hm, rfl⟩
  constructor
  case own => exact fragment_ok.mpr (lookup_define_of_descends hnew hself)
  case inherited =>
    intro heir hheir hnone
    exact fragment_ok.mpr (lookup_define_of_descends (not_found_iff.mp hnone) hheir)
  case kept =>
    intro other name hother
    cases hfound : lookup (s.lineage other).types name with
    | some g =>
        rw [fragment_ok.mpr hfound]
        exact fragment_ok.mpr (lookup_define_of_some hs hnew hfound)
    | none =>
        have hapart : ¬ (name = f.name ∧ s.Descends other id) := fun ⟨hname, hdescends⟩ =>
          hother ⟨hname, hdescends, not_found_iff.mpr hfound⟩
        have hparent (m : Model) : (m.define f).parent = m.parent := rfl
        exact fragment_congr (by rw [lineage_modify hparent]) (name_define other)
          (lookup_define_of_not hapart)
  case last =>
    rw [ownNames, getElem?_modify, ownNames, hm]
    simp [Model.fragmentNames_define]
  case others =>
    intro other hne
    rw [ownNames, getElem?_modify, ownNames]
    simp [hne]

/-! ## The registry -/

/-- Listing, lookup and definition agree. -/
theorem Grown.fragments_agree (h : s.Grown) (hid : id.index < s.models.size) :
    ∃ names, s.fragmentNames id = .ok names ∧ s.Lists id names
      ∧ (∀ name f, s.fragment id name = .ok f ↔ s.Nearest id name f)
      ∧ ∀ f : Fragment,
        (f.name ∈ names → ∃ type, s.name id = .ok type
          ∧ s.defineFragment id f = .error (.of (.duplicateFragment type f.name))
          ∧ (SchemaCall.fragment id f).after s = s)
        ∧ (f.name ∉ names → ∃ t, s.defineFragment id f = .ok t
          ∧ (SchemaCall.fragment id f).after s = t ∧ s.Defines id f t) := by
  have hs := h.ordered
  have hregistered := hs.registered hid
  have hlists := hs.lists id
  refine ⟨_, hregistered.fragmentNames_eq, hlists,
    fun name f => fragment_ok.trans lookup_eq_some, fun f => ⟨fun hlisted => ?_, fun hnew => ?_⟩⟩
  · obtain ⟨g, hg⟩ := (hlists.found f.name).mp hlisted
    obtain ⟨m, hm⟩ := hregistered.model
    have hname : s.name id = .ok m.name := by
      rw [Schema.name, hm]
      rfl
    have hfails : s.defineFragment id f = .error (.of (.duplicateFragment m.name f.name)) := by
      rw [hregistered.defineFragment_eq, fragment_ok.mp hg, hname]
      rfl
    refine ⟨m.name, hname, hfails, ?_⟩
    rw [SchemaCall.after, SchemaCall.run, hfails]
  · have hnone : lookup (s.lineage id).types f.name = none := by
      rw [← not_found_iff]
      exact fun g hg => hnew ((hlists.found f.name).mpr ⟨g, hg⟩)
    have hdefined : s.defineFragment id f = .ok (s.modify id (.define f)) := by
      rw [hregistered.defineFragment_eq, hnone]
    refine ⟨_, hdefined, ?_, hs.defines (Array.getElem?_eq_getElem hid) hnone⟩
    rw [SchemaCall.after, SchemaCall.run, hdefined]

end Schema

/-- A filter for three rows. -/
def Fragment.recent : Fragment :=
  { name := "recent", params := [], body := fun _ => (Scope.limit 3 none).on }

/-- A filter of the same name for any number of rows. -/
def Fragment.allRecent : Fragment := { name := "recent", params := [], body := fun _ s => (s, .ok ()) }

namespace Schema

/-- Posts, and features, which are posts and got their filter first. -/
def magazine : Schema :=
  [.register { name := "Post", table := some "posts" }, .subtype ⟨0⟩ "Feature",
    .fragment ⟨1⟩ .recent, .fragment ⟨1⟩ .allRecent].foldl SchemaCall.after {}

theorem magazine_grown : magazine.Grown := by
  have hpost := Grown.empty.call (.register { name := "Post", table := some "posts" })
    ⟨nofun, List.nodup_nil⟩
  have hfeature := hpost.call (.subtype ⟨0⟩ "Feature") Nat.one_pos
  have hrecent := hfeature.call (.fragment ⟨1⟩ .recent) Nat.one_lt_two
  exact hrecent.call (.fragment ⟨1⟩ .allRecent) Nat.one_lt_two

/-- The name is taken on features and free on posts; when posts get it,
features keep what they have. -/
theorem Grown.fragments_agree_magazine :
    (SchemaCall.fragment ⟨1⟩ .allRecent).after magazine = magazine
      ∧ ∃ t, magazine.defineFragment ⟨0⟩ .allRecent = .ok t
        ∧ t.fragment ⟨0⟩ "recent" = .ok .allRecent ∧ t.fragment ⟨1⟩ "recent" = .ok .recent := by
  have hfeature : magazine.fragment ⟨1⟩ "recent" = .ok .recent := rfl
  have hissued : (⟨1⟩ : ModelId).index < magazine.models.size := Nat.one_lt_two
  have hissued' : (⟨0⟩ : ModelId).index < magazine.models.size := Nat.two_pos
  obtain ⟨taken, -, hlists, -, hrefused⟩ := Grown.fragments_agree magazine_grown hissued
  obtain ⟨free, hfree, -, -, hdefine⟩ := Grown.fragments_agree magazine_grown hissued'
  have hnone : magazine.fragmentNames ⟨0⟩ = .ok [] := rfl
  obtain rfl : [] = free := Except.ok.inj (hnone.symm.trans hfree)
  obtain ⟨-, -, -, hsame⟩ := (hrefused .allRecent).1 ((hlists.found "recent").mpr ⟨_, hfeature⟩)
  obtain ⟨t, ht, -, hdefines⟩ := (hdefine .allRecent).2 List.not_mem_nil
  refine ⟨hsame, t, ht, hdefines.own, ?_⟩
  rw [hdefines.kept ⟨1⟩ "recent" fun ⟨_, _, hmissing⟩ => hmissing _ hfeature]
  exact hfeature

end Schema

end Criteria
