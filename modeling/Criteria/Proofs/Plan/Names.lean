import Criteria.Plan.Names
import Criteria.Proofs.Text.Numeral
import Mathlib.Data.List.Nodup
import Mathlib.Data.List.Perm.Subperm

/-!
# Fresh names

The name chosen for a table is in use nowhere else in the statement
(`choose_fresh`), whatever the tables and associations are called. The
search behind it strikes off the names it meets. Since numbered names
differ when their numbers do, a name struck off is none of those that are
still to be tried, so nothing is lost by it (`firstFree_spec`).

A loop that tries one name after another and strikes off nothing comes to
the same name, in no more turns than there are names in use
(`fresh_search`). The names it turns down are all different and all in
use, and this is what bounds it. `claim_least` says which name is chosen
in the end.
-/

namespace Criteria

namespace Names

theorem numbered_injective {base : String} {m n : Nat}
    (h : numbered base m = numbered base n) : m = n := by
  have hlists := congrArg String.toList h
  simp only [numbered, String.toList_append, List.append_cancel_left_eq] at hlists
  exact Text.numeral_injective (String.toList_injective hlists)

/-- The search ends with the least number from `n` on whose name is
free. -/
theorem firstFree_spec (used : List String) (base : String) (n : Nat) :
    ∃ k, n ≤ k ∧ firstFree used base n = numbered base k ∧ numbered base k ∉ used
      ∧ ∀ j, n ≤ j → j < k → numbered base j ∈ used := by
  fun_induction firstFree used base n with
  | case1 used n hused ih =>
      obtain ⟨k, hk, heq, hfree, hleast⟩ := ih
      refine ⟨k, by omega, heq, ?_, ?_⟩
      · intro hmem
        have hne : numbered base k ≠ numbered base n := fun h => by
          have := numbered_injective h
          omega
        exact hfree ((List.mem_erase_of_ne hne).mpr hmem)
      · intro j hj hjk
        rcases Nat.eq_or_lt_of_le hj with rfl | hlt
        · exact hused
        · exact List.mem_of_mem_erase (hleast j hlt hjk)
  | case2 used n hused =>
      exact ⟨n, Nat.le_refl n, rfl, hused, fun j hj hjn => by omega⟩

theorem fresh_not_mem (ns : Names) (base : String) : ns.fresh base ∉ ns.used := by
  unfold fresh
  split
  · obtain ⟨k, -, heq, hfree, -⟩ := firstFree_spec ns.used base 2
    rw [heq]
    exact hfree
  · rename_i h
    simpa [contains] using h

theorem choose_fresh (ns : Names) (table association owner : String) (forced : Bool) :
    ns.choose table association owner forced ∉ ns.used := by
  unfold choose
  split
  · exact fresh_not_mem ns _
  · rename_i h
    simp only [Bool.or_eq_true, not_or] at h
    simpa [contains] using h.2

/-- The base while it is free, or else the least number from two on. -/
theorem fresh_cases (ns : Names) (base : String) :
    (base ∉ ns.used ∧ ns.fresh base = base)
      ∨ (base ∈ ns.used ∧ ∃ n, 2 ≤ n ∧ ns.fresh base = numbered base n
          ∧ numbered base n ∉ ns.used ∧ ∀ m, 2 ≤ m → m < n → numbered base m ∈ ns.used) := by
  unfold fresh
  split
  · rename_i h
    exact .inr ⟨by simpa [contains] using h, firstFree_spec ns.used base 2⟩
  · rename_i h
    exact .inl ⟨by simpa [contains] using h, rfl⟩

theorem choose_own {ns : Names} {table : String} (hfree : table ∉ ns.used)
    (association owner : String) : ns.choose table association owner false = table := by
  have hnot : ¬(false || ns.contains table) = true := by simpa [contains] using hfree
  rw [choose, if_neg hnot]

theorem choose_other {ns : Names} {table : String} {forced : Bool}
    (h : forced = true ∨ table ∈ ns.used) (association owner : String) :
    ns.choose table association owner forced = ns.fresh (association ++ "_" ++ owner) := by
  have hother : (forced || ns.contains table) = true := by simpa [contains] using h
  rw [choose, if_pos hother]

/-! ## The search as a loop -/

/-- A loop that tries names until one is free: after the name it has, the
base with the number `n`, then with `n + 1`, and so on. It comes to its
result after so many turns. -/
inductive Search (used : List String) (base : String) : String → Nat → Nat → String → Prop
  | stop {name : String} {n : Nat} (hfree : name ∉ used) : Search used base name n 0 name
  | turn {name result : String} {n turns : Nat} (hused : name ∈ used)
      (rest : Search used base (numbered base n) (n + 1) turns result) :
      Search used base name n (turns + 1) result

variable {used : List String} {base name result result' : String} {n k turns turns' : Nat}

/-- The loop has one course. -/
theorem Search.unique (h : Search used base name n turns result)
    (h' : Search used base name n turns' result') : turns' = turns ∧ result' = result := by
  induction h generalizing turns' with
  | stop hfree =>
      cases h' with
      | stop => exact ⟨rfl, rfl⟩
      | turn hused _ => exact absurd hused hfree
  | turn hused _ ih =>
      cases h' with
      | stop hfree => exact absurd hused hfree
      | turn _ rest =>
          obtain ⟨rfl, rfl⟩ := ih rest
          exact ⟨rfl, rfl⟩

/-- From a name in use the loop goes through all numbers up to the first
that is free. -/
theorem Search.of_least (hname : name ∈ used) (hn : n ≤ k) (hfree : numbered base k ∉ used)
    (hleast : ∀ m, n ≤ m → m < k → numbered base m ∈ used) :
    Search used base name n (k - n + 1) (numbered base k) := by
  induction hk : k - n generalizing name n with
  | zero =>
      obtain rfl : n = k := by omega
      exact .turn hname (.stop hfree)
  | succ d ih =>
      have hnext : numbered base n ∈ used := hleast n (Nat.le_refl n) (by omega)
      exact .turn hname (ih hnext (by omega) (fun m hm => hleast m (by omega)) (by omega))

theorem numbered_ne_base (base : String) (n : Nat) : numbered base n ≠ base := by
  intro h
  have hlength := congrArg (List.length ∘ String.toList) h
  simp only [numbered, Function.comp_apply, String.toList_append, List.length_append] at hlength
  have hmark : "_".toList.length = 1 := rfl
  omega

/-- The base and its numbers below the first free one are so many names in
use. -/
theorem least_le_length (hbase : base ∈ used) (hk : 2 ≤ k)
    (hleast : ∀ m, 2 ≤ m → m < k → numbered base m ∈ used) : k ≤ used.length + 1 := by
  have htried : (base :: (List.range' 2 (k - 2)).map (numbered base)).Nodup := by
    rw [List.nodup_cons, List.mem_map]
    refine ⟨fun ⟨m, _, hm⟩ => numbered_ne_base base m hm, ?_⟩
    exact List.Nodup.map (fun _ _ => numbered_injective) List.nodup_range'
  have hsubset : base :: (List.range' 2 (k - 2)).map (numbered base) ⊆ used := by
    rintro x hx
    rcases List.mem_cons.mp hx with rfl | hx
    · exact hbase
    · obtain ⟨m, hm, rfl⟩ := List.mem_map.mp hx
      rw [List.mem_range'_1] at hm
      exact hleast m hm.1 (by omega)
  have hlength := (htried.subperm hsubset).length_le
  simp only [List.length_cons, List.length_map, List.length_range'] at hlength
  omega

/-- The loop ends at the name that is found by striking off, after no more
turns than there are names in use. -/
theorem fresh_search (ns : Names) (base : String) :
    ∃ turns ≤ ns.used.length, Search ns.used base base 2 turns (ns.fresh base) := by
  rcases fresh_cases ns base with ⟨hfree, heq⟩ | ⟨hbase, k, hk, heq, hfree, hleast⟩
  · rw [heq]
    exact ⟨0, Nat.zero_le _, .stop hfree⟩
  · have hbound := least_le_length hbase hk hleast
    rw [heq]
    exact ⟨k - 2 + 1, by omega, .of_least hbase hk hfree hleast⟩

/-! ## The name of a table -/

/-- The name claimed for a table is new and is the only one that comes to
the names in use. It is the table's own where that is free and nothing
speaks against it; otherwise it is called after the association and the
owner, with the least number that will do if it needs one. The loop that
looks for it ends, within as many turns as there are names in use. -/
theorem claim_least (ns : Names) (table association owner : String) (forced : Bool) :
    ∃ name, ns.claim table association owner forced = (name, ⟨ns.used ++ [name]⟩)
      ∧ name ∉ ns.used
      ∧ (forced = false ∧ table ∉ ns.used → name = table)
      ∧ (forced = true ∨ table ∈ ns.used →
        let base := association ++ "_" ++ owner
        (base ∉ ns.used → name = base)
          ∧ (base ∈ ns.used → ∃ n, 2 ≤ n ∧ name = numbered base n
              ∧ ∀ m, 2 ≤ m → m < n → numbered base m ∈ ns.used)
          ∧ ∃ turns ≤ ns.used.length, ∀ turns' result,
              Search ns.used base base 2 turns' result ↔ turns' = turns ∧ result = name) := by
  refine ⟨_, rfl, choose_fresh ns table association owner forced, ?_, fun hother => ?_⟩
  · rintro ⟨rfl, hfree⟩
    exact choose_own hfree association owner
  · rw [choose_other hother]
    intro base
    obtain ⟨turns, hturns, hsearch⟩ := fresh_search ns base
    refine ⟨fun hfree => ?_, fun hbase => ?_, turns, hturns, fun turns' result => ⟨?_, ?_⟩⟩
    · rcases fresh_cases ns base with ⟨-, heq⟩ | ⟨hbase, -⟩
      · exact heq
      · exact absurd hbase hfree
    · rcases fresh_cases ns base with ⟨hfree, -⟩ | ⟨-, n, hn, heq, -, hleast⟩
      · exact absurd hbase hfree
      · exact ⟨n, hn, heq, hleast⟩
    · exact hsearch.unique
    · rintro ⟨rfl, rfl⟩
      exact hsearch

/-- Posts joined to posts within such a join: the first number is free. -/
theorem claim_least_nested :
    (claim ⟨["posts", "related_posts"]⟩ "posts" "related" "posts" false).1
      = "related_posts_2" := by
  obtain ⟨name, hclaim, -, -, hother⟩ :=
    claim_least ⟨["posts", "related_posts"]⟩ "posts" "related" "posts" false
  obtain ⟨-, hnumbered, -⟩ := hother (.inr (by decide))
  obtain ⟨n, hn, hname, hleast⟩ := hnumbered (by decide)
  have hsecond : numbered ("related" ++ "_" ++ "posts") 2 = "related_posts_2" := by cbv
  have hfree : numbered ("related" ++ "_" ++ "posts") 2 ∉ ["posts", "related_posts"] := by
    rw [hsecond]
    decide
  obtain rfl : n = 2 := by
    by_contra hne
    exact hfree (hleast 2 (Nat.le_refl 2) (by omega))
  rw [hclaim, hname, hsecond]

end Names

end Criteria
