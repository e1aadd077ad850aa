import ZoneServices.Analysis.Analyzer

/-!
# The most used time to live

The most used time to live of some records is found in one walk over them, which keeps the better
of two.  What is better is an order in which different times to live are never as good as each
other, so the walk ends with the best of all, and the order of the records does not matter.
-/

namespace ZoneServices

/-- Whether a time to live is used more often than another, or as often and is not higher. -/
def IsPreferred (ttls : List UInt32) (ttl other : UInt32) : Prop :=
  countTtl ttls other < countTtl ttls ttl
    ∨ (countTtl ttls other = countTtl ttls ttl ∧ ttl ≤ other)

namespace IsPreferred

variable {ttls : List UInt32} {first second third : UInt32}

theorem refl (ttls : List UInt32) (ttl : UInt32) : IsPreferred ttls ttl ttl :=
  .inr ⟨rfl, UInt32.le_refl ttl⟩

theorem trans (better : IsPreferred ttls first second) (best : IsPreferred ttls second third) :
    IsPreferred ttls first third := by
  rcases better with more | ⟨often, lower⟩
  · rcases best with most | ⟨same, _⟩
    · exact .inl (Nat.lt_trans most more)
    · exact .inl (same ▸ more)
  · rcases best with most | ⟨same, lowest⟩
    · exact .inl (often ▸ most)
    · exact .inr ⟨same.trans often, UInt32.le_trans lower lowest⟩

theorem antisymm (better : IsPreferred ttls first second)
    (worse : IsPreferred ttls second first) : first = second := by
  rcases better with more | ⟨often, lower⟩
  · rcases worse with less | ⟨same, _⟩
    · exact absurd less (Nat.lt_asymm more)
    · exact absurd same.symm (Nat.ne_of_lt more)
  · rcases worse with less | ⟨_, higher⟩
    · exact absurd often.symm (Nat.ne_of_lt less)
    · exact UInt32.le_antisymm lower higher

/-- The better of two times to live is one of them and preferred to both. -/
theorem of_preferredTtl (ttls : List UInt32) (left right : UInt32) :
    (preferredTtl ttls left right = left ∨ preferredTtl ttls left right = right)
      ∧ IsPreferred ttls (preferredTtl ttls left right) left
      ∧ IsPreferred ttls (preferredTtl ttls left right) right := by
  rw [preferredTtl]
  split
  · rename_i chosen
    refine ⟨.inr rfl, ?_, refl ttls right⟩
    rcases chosen with more | ⟨often, lower⟩
    · exact .inl more
    · exact .inr ⟨often, UInt32.le_of_lt lower⟩
  · rename_i kept
    rw [not_or, not_and, Nat.not_lt, UInt32.not_lt] at kept
    refine ⟨.inl rfl, refl ttls left, ?_⟩
    rcases Nat.lt_or_eq_of_le kept.1 with more | often
    · exact .inl more
    · exact .inr ⟨often, kept.2 often.symm⟩

end IsPreferred

/-- Whether a time to live is the most used one, and the lowest of those. -/
structure IsMostUsed (ttls : List UInt32) (ttl : UInt32) : Prop where
  member : ttl ∈ ttls
  preferred : ∀ other ∈ ttls, IsPreferred ttls ttl other

/-- There is at most one most used time to live. -/
theorem IsMostUsed.unique {ttls : List UInt32} {first second : UInt32}
    (isFirst : IsMostUsed ttls first) (isSecond : IsMostUsed ttls second) : first = second :=
  (isFirst.preferred second isSecond.member).antisymm (isSecond.preferred first isFirst.member)

theorem IsMostUsed.of_perm {ttls others : List UInt32} {ttl : UInt32}
    (isMostUsed : IsMostUsed ttls ttl) (same : ttls.Perm others) : IsMostUsed others ttl where
  member := same.mem_iff.mp isMostUsed.member
  preferred := by
    intro other member
    have counts : countTtl others = countTtl ttls := funext fun ttl => (same.count_eq ttl).symm
    rw [IsPreferred, counts]
    exact isMostUsed.preferred other (same.mem_iff.mpr member)

/-- A walk that keeps the better of two items ends with one that is better than all it has seen. -/
theorem foldl_better {Item : Type} {better : Item → Item → Item} {IsBetter : Item → Item → Prop}
    (refl : ∀ item, IsBetter item item)
    (trans : ∀ {first second third}, IsBetter first second → IsBetter second third →
      IsBetter first third)
    (chosen : ∀ left right, (better left right = left ∨ better left right = right)
      ∧ IsBetter (better left right) left ∧ IsBetter (better left right) right)
    (first : Item) (rest : List Item) :
    rest.foldl better first ∈ first :: rest
      ∧ ∀ other ∈ first :: rest, IsBetter (rest.foldl better first) other := by
  induction rest generalizing first with
  | nil =>
      refine ⟨List.mem_singleton.mpr rfl, ?_⟩
      intro other member
      rw [List.mem_singleton.mp member]
      exact refl first
  | cons second rest step =>
      rcases chosen first second with ⟨one, overFirst, overSecond⟩
      rcases step (better first second) with ⟨member, preferred⟩
      rcases List.forall_mem_cons.mp preferred with ⟨overKept, overRest⟩
      rw [List.foldl_cons]
      constructor
      · rcases List.mem_cons.mp member with kept | later
        · rw [kept]
          rcases one with isFirst | isSecond
          · rw [isFirst]
            exact List.mem_cons_self
          · rw [isSecond]
            exact List.mem_cons_of_mem _ List.mem_cons_self
        · exact List.mem_cons_of_mem _ (List.mem_cons_of_mem _ later)
      · exact List.forall_mem_cons.mpr ⟨trans overKept overFirst,
          List.forall_mem_cons.mpr ⟨trans overKept overSecond, overRest⟩⟩

/--
The walk keeps a time to live that is preferred to all that it has seen.  The uses are counted in
the whole list, so they stay the same while the walk goes on.
-/
theorem foldl_preferredTtl (ttls : List UInt32) (first : UInt32) (rest : List UInt32) :
    rest.foldl (preferredTtl ttls) first ∈ first :: rest
      ∧ ∀ other ∈ first :: rest, IsPreferred ttls (rest.foldl (preferredTtl ttls) first) other :=
  foldl_better (IsPreferred.refl ttls) IsPreferred.trans (IsPreferred.of_preferredTtl ttls)
    first rest

/-- Only an empty zone has no most used time to live. -/
theorem mostUsedTtl_eq_none_iff {records : List Record} :
    mostUsedTtl records = none ↔ records = [] := by
  cases records with
  | nil => exact iff_of_true rfl rfl
  | cons record rest => exact iff_of_false nofun nofun

/-- The search through the records finds the most used time to live. -/
theorem mostUsedTtl_eq_some_iff {records : List Record} {ttl : UInt32} :
    mostUsedTtl records = some ttl ↔ IsMostUsed (records.map (·.ttl)) ttl := by
  cases records with
  | nil => exact iff_of_false nofun fun none => List.not_mem_nil none.member
  | cons record rest =>
      have found := foldl_preferredTtl ((record :: rest).map (·.ttl)) record.ttl (rest.map (·.ttl))
      have walked : IsMostUsed ((record :: rest).map (·.ttl))
          ((rest.map (·.ttl)).foldl (preferredTtl ((record :: rest).map (·.ttl))) record.ttl) :=
        ⟨found.1, found.2⟩
      rw [mostUsedTtl, List.map_cons]
      dsimp only
      rw [Option.some.injEq]
      constructor
      · rintro rfl
        exact walked
      · intro isMostUsed
        exact walked.unique isMostUsed

/-- The order of the records does not matter to the most used time to live. -/
theorem mostUsedTtl_of_perm {left right : List Record} (same : left.Perm right) :
    mostUsedTtl left = mostUsedTtl right := by
  cases found : mostUsedTtl left with
  | none =>
      rw [mostUsedTtl_eq_none_iff.mp found] at same
      exact (mostUsedTtl_eq_none_iff.mpr (List.nil_perm.mp same)).symm
  | some ttl =>
      have isMostUsed := (mostUsedTtl_eq_some_iff.mp found).of_perm (same.map (·.ttl))
      exact (mostUsedTtl_eq_some_iff.mpr isMostUsed).symm

end ZoneServices
