import Mathlib

/-!
# Following cursors

A listing comes in pages; each page carries the cursor of the next one, and the last page none.  The
client `collect`s the items page by page and gives up when a cursor comes back, when there are too many
items, and after a number of pages.  What it returns is what the whole chain of pages holds.
-/

namespace Paging

universe u

variable {σ Page Cursor Item ε : Type u}

/-- How a client reads a page, and when it gives up. -/
structure Pager (Page Cursor Item ε : Type u) where
  items : Page → Except ε (List Item)
  next : Page → Except ε (Option Cursor)
  maximum : Nat
  tooMany : ε
  repeated : ε
  endless : ε

/-- A walk over the pages: its result, the state after it and the number of pages it has asked for. -/
structure Walk (σ ε Item : Type u) where
  result : Except ε (List Item)
  state : σ
  asked : Nat

/-- The pages from a cursor on, each one named by the page before it. -/
inductive Chain (answer : Option Cursor → Except ε Page) (next : Page → Except ε (Option Cursor)) :
    Option Cursor → List Page → Prop
  | last {cursor page} : answer cursor = .ok page → next page = .ok none →
      Chain answer next cursor [page]
  | more {cursor page following pages} : answer cursor = .ok page → next page = .ok (some following) →
      Chain answer next (some following) pages → Chain answer next cursor (page :: pages)

/-- A traversal that raises nothing has an answer for each element. -/
theorem mapM_eq_ok {α β : Type u} {f : α → Except ε β} {l : List α} {out : List β} :
    l.mapM f = .ok out ↔ List.Forall₂ (fun a b => f a = .ok b) l out := by
  induction l generalizing out with
  | nil => cases out <;> simp [pure, Except.pure]
  | cons a l ih =>
    rw [List.mapM_cons]
    cases first : f a with
    | error e => simp [first, bind, Except.bind, List.forall₂_cons_left_iff]
    | ok b =>
      cases rest : l.mapM f with
      | error e => simp [first, rest, bind, Except.bind, List.forall₂_cons_left_iff, ← ih]
      | ok bs =>
        simp only [bind, Except.bind, pure, Except.pure, List.forall₂_cons_left_iff, first, ← ih, rest,
          Except.ok.injEq]
        constructor
        · rintro rfl
          exact ⟨b, bs, rfl, rfl, rfl⟩
        · rintro ⟨_, _, rfl, rfl, rfl⟩
          rfl

theorem mapM_eq_some {α β : Type u} {f : α → Option β} {l : List α} {out : List β} (h : l.mapM f = some out) :
    List.Forall₂ (fun a b => f a = some b) l out := by
  induction l generalizing out with
  | nil =>
    cases h
    exact .nil
  | cons a l ih =>
    rw [List.mapM_cons] at h
    obtain ⟨b, first, h⟩ := Option.bind_eq_some_iff.1 h
    obtain ⟨rest, others, h⟩ := Option.bind_eq_some_iff.1 h
    cases h
    exact .cons first (ih others)

theorem exists_of_mem_mapM {α β : Type u} {f : α → Option β} {l : List α} {out : List β} {b : β}
    (h : l.mapM f = some out) (mem : b ∈ out) : ∃ a ∈ l, f a = some b := by
  have all := mapM_eq_some h
  clear h
  induction all with
  | nil => cases mem
  | @cons a c l out first _ ih =>
    rcases List.mem_cons.1 mem with rfl | mem
    · exact ⟨a, List.mem_cons_self, first⟩
    · obtain ⟨a, ha, cast⟩ := ih mem
      exact ⟨a, List.mem_cons_of_mem _ ha, cast⟩

/-- The items of some pages, read one by one. -/
theorem flatten_of_reads {items : Page → Except ε (List Item)} {itemsOf : Page → List Item}
    {pages : List Page} {found : List (List Item)}
    (reads : List.Forall₂ (fun page some => items page = .ok some) pages found)
    (spec : ∀ page some, items page = .ok some → some = itemsOf page) :
    found.flatten = pages.flatMap itemsOf := by
  induction reads with
  | nil => rfl
  | cons read _ ih => rw [List.flatten_cons, List.flatMap_cons, ih, spec _ _ read]

namespace Pager

variable [DecidableEq Cursor] (pager : Pager Page Cursor Item ε)

/-- One page: its items join the others, and the next cursor must be a new one. -/
def step (seen : List Cursor) (items : List Item) (page : Page) :
    Except ε (List Item × Option Cursor) :=
  match pager.items page with
  | .error e => .error e
  | .ok found =>
    if pager.maximum < (items ++ found).length then .error pager.tooMany
    else match pager.next page with
      | .error e => .error e
      | .ok none => .ok (items ++ found, none)
      | .ok (some cursor) =>
        if cursor ∈ seen then .error pager.repeated else .ok (items ++ found, some cursor)

/-- At most so many pages, from a cursor on. -/
def collect (fetch : σ → Option Cursor → Except ε Page × σ) :
    Nat → Option Cursor → List Cursor → List Item → σ → Walk σ ε Item
  | 0, _, _, _, s => ⟨.error pager.endless, s, 0⟩
  | fuel + 1, cursor, seen, items, s =>
    match (fetch s cursor).1.bind (pager.step seen items) with
    | .error e => ⟨.error e, (fetch s cursor).2, 1⟩
    | .ok (items, none) => ⟨.ok items, (fetch s cursor).2, 1⟩
    | .ok (items, some next) =>
      let rest := collect fetch fuel (some next) (next :: seen) items (fetch s cursor).2
      { rest with asked := rest.asked + 1 }

variable {pager}

theorem step_eq_ok {seen : List Cursor} {items all : List Item} {page : Page} {next : Option Cursor} :
    pager.step seen items page = .ok (all, next) ↔
      ∃ found, pager.items page = .ok found ∧ all = items ++ found ∧ all.length ≤ pager.maximum ∧
        pager.next page = .ok next ∧ ∀ cursor ∈ next, cursor ∉ seen := by
  unfold step
  cases pager.items page with
  | error e => simp
  | ok found =>
    dsimp only
    cases pager.next page with
    | error e => split_ifs <;> simp
    | ok token =>
      cases token with
      | none =>
        constructor
        · intro h
          split_ifs at h with few
          cases h
          exact ⟨found, rfl, rfl, not_lt.1 few, rfl, nofun⟩
        · rintro ⟨_, ⟨⟩, rfl, few, ⟨⟩, -⟩
          rw [if_neg (not_lt.2 few)]
      | some cursor =>
        dsimp only
        constructor
        · intro h
          split_ifs at h with few known
          cases h
          exact ⟨found, rfl, rfl, not_lt.1 few, rfl, by rintro _ ⟨⟩; exact known⟩
        · rintro ⟨_, ⟨⟩, rfl, few, ⟨⟩, new⟩
          rw [if_neg (not_lt.2 few), if_neg (new _ rfl)]

/-- No more pages are asked for than there is fuel. -/
theorem asked_collect_le (fetch : σ → Option Cursor → Except ε Page × σ) (fuel : Nat)
    (cursor : Option Cursor) (seen : List Cursor) (items : List Item) (s : σ) :
    (pager.collect fetch fuel cursor seen items s).asked ≤ fuel := by
  induction fuel generalizing cursor seen items s with
  | zero => exact Nat.le_refl 0
  | succ fuel ih =>
    rw [collect]
    split
    · exact Nat.succ_le_succ (Nat.zero_le _)
    · exact Nat.succ_le_succ (Nat.zero_le _)
    · exact Nat.succ_le_succ (ih _ _ _ _)

/-- A walk costs one request a page, and what the first page may cost more. -/
theorem cost_collect_le {fetch : σ → Option Cursor → Except ε Page × σ} {cost : σ → Nat}
    {extra : σ → Option Cursor → Nat}
    (bound : ∀ s cursor, cost (fetch s cursor).2 ≤ cost s + 1 + extra s cursor)
    (settles : ∀ s cursor page, (fetch s cursor).1 = .ok page →
      ∀ cursor', extra (fetch s cursor).2 cursor' = 0) (fuel : Nat) (cursor : Option Cursor)
    (seen : List Cursor) (items : List Item) (s : σ) :
    cost (pager.collect fetch fuel cursor seen items s).state ≤
      cost s + (pager.collect fetch fuel cursor seen items s).asked + extra s cursor := by
  induction fuel generalizing cursor seen items s with
  | zero => exact Nat.le_add_right _ _
  | succ fuel ih =>
    rw [collect]
    split
    · exact bound s cursor
    · exact bound s cursor
    · rename_i all next stepped
      cases answered : (fetch s cursor).1 with
      | error e =>
        rw [answered] at stepped
        cases stepped
      | ok page =>
        have later := ih (some next) (next :: seen) all (fetch s cursor).2
        rw [settles s cursor page answered] at later
        have first := bound s cursor
        dsimp only
        omega

/-- The pages of a walk that returns: they make a chain, and their items are what it returns. -/
theorem collect_eq_ok {fetch : σ → Option Cursor → Except ε Page × σ} {fuel : Nat}
    {cursor : Option Cursor} {seen : List Cursor} {items all : List Item} {s : σ}
    {inv : σ → Option Cursor → Prop} {answer : Option Cursor → Except ε Page}
    (keeps : ∀ s cursor page, inv s cursor → (fetch s cursor).1 = .ok page →
      answer cursor = .ok page ∧ ∀ cursor', inv (fetch s cursor).2 cursor')
    (start : inv s cursor) (h : (pager.collect fetch fuel cursor seen items s).result = .ok all) :
    (∀ cursor', inv (pager.collect fetch fuel cursor seen items s).state cursor') ∧
      ∃ pages found, Chain answer pager.next cursor pages ∧
        List.Forall₂ (fun page some => pager.items page = .ok some) pages found ∧
        all = items ++ found.flatten := by
  induction fuel generalizing cursor seen items s with
  | zero => cases h
  | succ fuel ih =>
    rw [collect] at h ⊢
    cases answered : (fetch s cursor).1 with
    | error e =>
      rw [answered] at h
      cases h
    | ok page =>
      obtain ⟨own, kept⟩ := keeps s cursor page start answered
      rw [answered] at h
      cases stepped : pager.step seen items page with
      | error e =>
        rw [Except.bind, stepped] at h
        cases h
      | ok out =>
        obtain ⟨more, next⟩ := out
        rw [Except.bind, stepped] at h
        obtain ⟨found, read, rfl, -, goes, -⟩ := step_eq_ok.1 stepped
        cases next with
        | none =>
          cases h
          rw [Except.bind, stepped]
          exact ⟨kept, [page], [found], .last own goes, .cons read .nil, by simp⟩
        | some next =>
          rw [Except.bind, stepped]
          obtain ⟨after, pages, rest, chain, reads, rfl⟩ := ih (kept _) h
          exact ⟨after, page :: pages, found :: rest, .more own goes chain, .cons read reads, by simp⟩

end Pager

end Paging
