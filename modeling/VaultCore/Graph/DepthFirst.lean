import Mathlib.Data.Finset.Basic
import Mathlib.Data.Fintype.Card
import Mathlib.Logic.Relation
import Mathlib.Tactic.Common

/-!
# Depth-first search for a refused entry

The nodes of a graph hold entries, and an entry may lead to another node.  A
search enters every node once, in the order of the entries, and stops at the
first entry it refuses.  On a finite graph it ends; it finds nothing exactly
when no node that is reached holds a refused entry.
-/

namespace VaultCore

/-- What a search does with the entries of the nodes `ρ`.  It keeps a path
`π` and ends with a message `μ`. -/
structure Search (ρ ε π μ : Type) where
  entries : ρ → List ε
  target : ε → Option ρ
  refused : ε → Bool
  extend : π → ε → π
  message : π → ε → μ

namespace Search

section Run

variable {ρ ε π μ : Type} [DecidableEq ρ] (search : Search ρ ε π μ)

/-- The loop over the entries of one node.  `enter` is the search below an
entry, or nothing if that did not end. -/
def visitEntries
    (enter : Finset ρ → Option ρ → π → Option (Option μ × Finset ρ))
    (path : π) : Finset ρ → List ε → Option (Option μ × Finset ρ)
  | visited, [] => some (none, visited)
  | visited, entry :: entries =>
      let entryPath := search.extend path entry
      if search.refused entry then
        some (some (search.message entryPath entry), visited)
      else
        match enter visited (search.target entry) entryPath with
        | none => none
        | some (some message, after) => some (some message, after)
        | some (none, after) => visitEntries enter path after entries

/-- The search below an entry with the given target, of at most `fuel`
nested calls: the message, if any, and the nodes visited so far. -/
def visit : Nat → Finset ρ → Option ρ → π → Option (Option μ × Finset ρ)
  | 0, _, _, _ => none
  | _ + 1, visited, none, _ => some (none, visited)
  | fuel + 1, visited, some node, path =>
      if node ∈ visited then some (none, visited)
      else
        search.visitEntries (visit fuel) path (insert node visited)
          (search.entries node)

/-- The finding of a visit that starts with no marks. -/
def run (fuel : Nat) (root : Option ρ) (path : π) : Option (Option μ) :=
  (search.visit fuel ∅ root path).map Prod.fst

end Run

/-! ## Reached nodes -/

section Reach

variable {ρ ε π μ : Type} (search : Search ρ ε π μ)

/-- One node has an entry that refers to the other. -/
def Edge (node next : ρ) : Prop :=
  ∃ entry ∈ search.entries node, search.target entry = some next

/-- The second node is reached by edges from the first. -/
def Reaches : ρ → ρ → Prop := Relation.ReflTransGen search.Edge

/-- A walk between two nodes, with the paths at its ends. -/
inductive Leads : ρ → π → ρ → π → Prop
  | here (node : ρ) (path : π) : Leads node path node path
  | along {node next last : ρ} {path lastPath : π} {entry : ε}
      (listed : entry ∈ search.entries node)
      (target : search.target entry = some next)
      (rest : Leads next (search.extend path entry) last lastPath) :
      Leads node path last lastPath

variable {search}

theorem Leads.reaches {node last : ρ} {path lastPath : π}
    (leads : search.Leads node path last lastPath) :
    search.Reaches node last := by
  induction leads with
  | here node path => exact .refl
  | along listed target rest ih => exact .head ⟨_, listed, target⟩ ih

end Reach

variable {ρ ε π μ : Type} {search : Search ρ ε π μ}

/-! ## A search ends -/

section Ends

variable {enter larger : Finset ρ → Option ρ → π → Option (Option μ × Finset ρ)}

theorem visitEntries_mono
    (mono : ∀ visited target path found,
      enter visited target path = some found →
        larger visited target path = some found)
    {path : π} {entries : List ε} {visited : Finset ρ}
    {found : Option μ × Finset ρ}
    (ended : search.visitEntries enter path visited entries = some found) :
    search.visitEntries larger path visited entries = some found := by
  induction entries generalizing visited with
  | nil => exact ended
  | cons entry entries ih =>
      simp only [visitEntries] at ended ⊢
      split_ifs at ended ⊢ with refused
      · exact ended
      · cases entered : enter visited (search.target entry)
            (search.extend path entry) with
        | none =>
            rw [entered] at ended
            cases ended
        | some inner =>
            rw [entered] at ended
            rw [mono _ _ _ _ entered]
            obtain ⟨message, after⟩ := inner
            cases message with
            | none => exact ih ended
            | some message => exact ended

variable [DecidableEq ρ]

theorem visit_mono {fuel more : Nat} {visited : Finset ρ} {target : Option ρ}
    {path : π} {found : Option μ × Finset ρ}
    (ended : search.visit fuel visited target path = some found)
    (enough : fuel ≤ more) :
    search.visit more visited target path = some found := by
  induction fuel generalizing more visited target path found with
  | zero => cases ended
  | succ fuel ih =>
      obtain ⟨more, rfl⟩ : ∃ rest, more = rest + 1 :=
        ⟨more - 1, by omega⟩
      cases target with
      | none => exact ended
      | some node =>
          simp only [visit] at ended ⊢
          split_ifs at ended ⊢ with known
          · exact ended
          · refine visitEntries_mono ?_ ended
            intro visited target path found inner
            exact ih inner (by omega)

variable [Fintype ρ]

theorem visitEntries_ends (search : Search ρ ε π μ) {bound : Nat}
    (ends : ∀ visited target path, visitedᶜ.card < bound →
      ∃ message after, enter visited target path = some (message, after) ∧
        visited ⊆ after)
    (path : π) (entries : List ε) {visited : Finset ρ}
    (enough : visitedᶜ.card < bound) :
    ∃ message after,
      search.visitEntries enter path visited entries =
        some (message, after) ∧ visited ⊆ after := by
  induction entries generalizing visited with
  | nil => exact ⟨none, visited, rfl, subset_rfl⟩
  | cons entry entries ih =>
      simp only [visitEntries]
      split_ifs with refused
      · exact ⟨_, visited, rfl, subset_rfl⟩
      · obtain ⟨message, after, entered, grown⟩ :=
          ends visited (search.target entry) (search.extend path entry) enough
        rw [entered]
        cases message with
        | some message => exact ⟨_, after, rfl, grown⟩
        | none =>
            have fewer : afterᶜ.card < bound :=
              lt_of_le_of_lt (Finset.card_le_card
                (Finset.compl_subset_compl.mpr grown)) enough
            obtain ⟨message, last, looped, larger⟩ := ih fewer
            exact ⟨message, last, looped, grown.trans larger⟩

/-- With more fuel than there are unvisited nodes, a search ends. -/
theorem visit_ends (search : Search ρ ε π μ) {fuel : Nat}
    (visited : Finset ρ) (target : Option ρ) (path : π)
    (enough : visitedᶜ.card < fuel) :
    ∃ message after,
      search.visit fuel visited target path = some (message, after) ∧
        visited ⊆ after := by
  induction fuel generalizing visited target path with
  | zero => cases enough
  | succ fuel ih =>
      cases target with
      | none => exact ⟨none, visited, rfl, subset_rfl⟩
      | some node =>
          simp only [visit]
          split_ifs with known
          · exact ⟨none, visited, rfl, subset_rfl⟩
          · have fewer : (insert node visited)ᶜ.card < fuel := by
              rw [Finset.compl_insert,
                Finset.card_erase_of_mem (Finset.mem_compl.mpr known)]
              have unvisited : 0 < visitedᶜ.card :=
                Finset.card_pos.mpr ⟨node, Finset.mem_compl.mpr known⟩
              omega
            obtain ⟨message, after, looped, grown⟩ :=
              search.visitEntries_ends ih path (search.entries node) fewer
            exact ⟨message, after, looped,
              (Finset.subset_insert node visited).trans grown⟩

end Ends

/-! ## A search finds nothing else -/

section Sound

variable {enter : Finset ρ → Option ρ → π → Option (Option μ × Finset ρ)}

/-- The message is about a refused entry of a node on a walk. -/
def Reported (search : Search ρ ε π μ) (start : ρ) (path : π) (message : μ) :
    Prop :=
  ∃ node nodePath entry, search.Leads start path node nodePath ∧
    entry ∈ search.entries node ∧ search.refused entry = true ∧
    message = search.message (search.extend nodePath entry) entry

theorem visitEntries_reported
    (sound : ∀ visited target path message after,
      enter visited target path = some (some message, after) →
        ∃ start, target = some start ∧ search.Reported start path message)
    {node : ρ} {path : π} {entries : List ε}
    (listed : ∀ entry ∈ entries, entry ∈ search.entries node)
    {visited after : Finset ρ} {message : μ}
    (found : search.visitEntries enter path visited entries =
      some (some message, after)) :
    search.Reported node path message := by
  induction entries generalizing visited with
  | nil => cases found
  | cons entry entries ih =>
      have member := listed entry List.mem_cons_self
      simp only [visitEntries] at found
      split_ifs at found with refused
      · cases found
        exact ⟨node, path, entry, .here node path, member, refused, rfl⟩
      · split at found
        · cases found
        · rename_i inner later entered
          cases found
          obtain ⟨next, target, last, lastPath, refusal, leads, rest⟩ :=
            sound _ _ _ _ _ entered
          exact ⟨last, lastPath, refusal, .along member target leads, rest⟩
        · exact ih (fun other inside =>
            listed other (List.mem_cons_of_mem _ inside)) found

theorem visit_reported [DecidableEq ρ] {fuel : Nat} {visited after : Finset ρ}
    {target : Option ρ} {path : π} {message : μ}
    (found : search.visit fuel visited target path =
      some (some message, after)) :
    ∃ start, target = some start ∧ search.Reported start path message := by
  induction fuel generalizing visited after target path message with
  | zero => cases found
  | succ fuel ih =>
      cases target with
      | none => cases found
      | some node =>
          simp only [visit] at found
          split_ifs at found with known
          · cases found
          · refine ⟨node, rfl, visitEntries_reported ?_ (fun _ => id) found⟩
            intro visited target path message after inner
            exact ih inner

end Sound

/-! ## A search misses nothing -/

section Complete

variable {enter : Finset ρ → Option ρ → π → Option (Option μ × Finset ρ)}

/-- An entry that is not refused and leads into the given nodes. -/
structure Clean (search : Search ρ ε π μ) (nodes : Finset ρ) (entry : ε) :
    Prop where
  accepted : search.refused entry = false
  inside : ∀ next, search.target entry = some next → next ∈ nodes

/-- The nodes added between two visited sets hold clean entries only. -/
structure Explored (search : Search ρ ε π μ) (before after : Finset ρ) :
    Prop where
  grows : before ⊆ after
  clean : ∀ node ∈ after, node ∉ before →
    ∀ entry ∈ search.entries node, search.Clean after entry

theorem Clean.mono {before after : Finset ρ} {entry : ε}
    (clean : search.Clean before entry) (grows : before ⊆ after) :
    search.Clean after entry :=
  { accepted := clean.accepted
    inside := fun next target => grows (clean.inside next target) }

theorem Explored.refl (visited : Finset ρ) :
    search.Explored visited visited :=
  { grows := subset_rfl
    clean := fun _ member fresh => absurd member fresh }

theorem Explored.trans {first second third : Finset ρ}
    (earlier : search.Explored first second)
    (later : search.Explored second third) : search.Explored first third where
  grows := earlier.grows.trans later.grows
  clean := by
    intro node member fresh entry listed
    by_cases known : node ∈ second
    · exact (earlier.clean node known fresh entry listed).mono later.grows
    · exact later.clean node member known entry listed

theorem visitEntries_explored
    (explores : ∀ visited target path after,
      enter visited target path = some (none, after) →
        search.Explored visited after ∧
          ∀ next, target = some next → next ∈ after)
    {path : π} {entries : List ε} {visited after : Finset ρ}
    (nothing : search.visitEntries enter path visited entries =
      some (none, after)) :
    search.Explored visited after ∧
      ∀ entry ∈ entries, search.Clean after entry := by
  induction entries generalizing visited with
  | nil =>
      cases nothing
      exact ⟨.refl after, fun _ none => by cases none⟩
  | cons entry entries ih =>
      simp only [visitEntries] at nothing
      split_ifs at nothing with refused
      · cases nothing
      · split at nothing
        · cases nothing
        · cases nothing
        · rename_i middle entered
          obtain ⟨first, inside⟩ := explores _ _ _ _ entered
          obtain ⟨rest, others⟩ := ih nothing
          refine ⟨first.trans rest, ?_⟩
          intro other member
          rcases List.mem_cons.mp member with rfl | later
          · exact
              { accepted := eq_false_of_ne_true refused
                inside := fun next target =>
                  rest.grows (inside next target) }
          · exact others other later

theorem visit_explored [DecidableEq ρ] {fuel : Nat} {visited after : Finset ρ}
    {target : Option ρ} {path : π}
    (nothing : search.visit fuel visited target path = some (none, after)) :
    search.Explored visited after ∧
      ∀ next, target = some next → next ∈ after := by
  induction fuel generalizing visited after target path with
  | zero => cases nothing
  | succ fuel ih =>
      cases target with
      | none =>
          cases nothing
          exact ⟨.refl visited, fun _ none => by cases none⟩
      | some node =>
          simp only [visit] at nothing
          split_ifs at nothing with known
          · cases nothing
            refine ⟨.refl visited, ?_⟩
            rintro next ⟨⟩
            exact known
          · obtain ⟨explored, clean⟩ := visitEntries_explored
              (fun visited target path after inner => ih inner) nothing
            have entered : node ∈ after :=
              explored.grows (Finset.mem_insert_self node visited)
            refine ⟨⟨(Finset.subset_insert node visited).trans
              explored.grows, ?_⟩, ?_⟩
            · intro other member fresh
              by_cases same : other = node
              · rw [same]
                exact clean
              · apply explored.clean other member
                simp [same, fresh]
            · rintro next ⟨⟩
              exact entered

theorem Explored.reaches {after : Finset ρ}
    (explored : search.Explored ∅ after) {start node : ρ}
    (inside : start ∈ after) (reaches : search.Reaches start node) :
    node ∈ after := by
  induction reaches with
  | refl => exact inside
  | tail earlier edge ih =>
      obtain ⟨entry, listed, target⟩ := edge
      exact (explored.clean _ ih (Finset.notMem_empty _) entry listed).inside
        _ target

end Complete

/-- On a finite graph a search ends with one result whatever its fuel.  There
is no message exactly when no node that is reached holds a refused entry, and
a message is about such an entry. -/
theorem run_spec [Fintype ρ] [DecidableEq ρ] (search : Search ρ ε π μ)
    (root : Option ρ) (path : π) :
    ∃ result,
      (∀ fuel, Fintype.card ρ < fuel →
        search.run fuel root path = some result) ∧
      (result = none ↔ ∀ start, root = some start →
        ∀ node, search.Reaches start node →
          ∀ entry ∈ search.entries node, search.refused entry = false) ∧
      ∀ message, result = some message →
        ∃ start, root = some start ∧ search.Reported start path message := by
  have enough : (∅ : Finset ρ)ᶜ.card < Fintype.card ρ + 1 := by simp
  obtain ⟨result, after, ended, -⟩ := search.visit_ends ∅ root path enough
  refine ⟨result, ?_, ⟨?_, ?_⟩, ?_⟩
  · intro fuel enough
    rw [run, visit_mono ended enough]
    rfl
  · rintro rfl start rfl node reaches entry listed
    obtain ⟨explored, inside⟩ := visit_explored ended
    have member := explored.reaches (inside start rfl) reaches
    exact (explored.clean node member (Finset.notMem_empty _) entry
      listed).accepted
  · intro accepted
    by_contra refused
    obtain ⟨message, rfl⟩ := Option.ne_none_iff_exists'.mp refused
    obtain ⟨start, rfl, node, nodePath, entry, leads, listed, hit, -⟩ :=
      visit_reported ended
    rw [accepted start rfl node leads.reaches entry listed] at hit
    cases hit
  · rintro message rfl
    exact visit_reported ended

end Search

end VaultCore
