/-! Caches that share an epoch. An entry carries the epoch its page was begun in, and is
served while that is the current one: a bump of the epoch invalidates every entry of
every cache at once. -/

set_option autoImplicit false

namespace InfrasafeBot.Library

structure CacheEntry (Page : Type) where
  page : Page
  expires : Int
  epoch : Nat

/-- The entries in the order in which their keys came in. -/
abbrev EpochCache (Key Page : Type) := List (Key × CacheEntry Page)

namespace EpochCache

variable {Key Page : Type}

/-- No page begun in the epoch or later shows what is bad. -/
def CleanSince (since : Nat) (bad : Page → Prop) (cache : EpochCache Key Page) : Prop :=
  ∀ pair ∈ cache, since ≤ pair.2.epoch → ¬ bad pair.2.page

def Within (epoch : Nat) (cache : EpochCache Key Page) : Prop := ∀ pair ∈ cache, pair.2.epoch ≤ epoch

variable {cache : EpochCache Key Page} {epoch since later : Nat} {bad : Page → Prop}

theorem within_nil : Within epoch ([] : EpochCache Key Page) :=
  fun _ listed => absurd listed List.not_mem_nil

theorem Within.mono (within : Within epoch cache) (grows : epoch ≤ later) : Within later cache :=
  fun pair listed => Nat.le_trans (within pair listed) grows

theorem Within.clean (within : Within epoch cache) (bumped : epoch < since) :
    CleanSince since bad cache := by
  intro pair listed recent
  have old := within pair listed
  omega

variable [DecidableEq Key]

def get (cache : EpochCache Key Page) (key : Key) (now : Int) (epoch : Nat) : Option Page :=
  match cache.lookup key with
  | none => none
  | some entry => if now < entry.expires && entry.epoch = epoch then some entry.page else none

def assign (cache : EpochCache Key Page) (key : Key) (entry : CacheEntry Page) : EpochCache Key Page :=
  if cache.any (·.1 = key) then cache.map fun pair => if pair.1 = key then (key, entry) else pair
  else cache ++ [(key, entry)]

/-- A full cache gives up its oldest key for a new one. -/
def put (capacity : Nat) (cache : EpochCache Key Page) (key : Key) (entry : CacheEntry Page) :
    EpochCache Key Page :=
  if !cache.any (·.1 = key) && capacity ≤ cache.length then assign cache.tail key entry
  else cache.assign key entry

variable {key : Key} {entry : CacheEntry Page} {now : Int} {capacity : Nat} {page : Page}

theorem mem_assign {pair : Key × CacheEntry Page} (listed : pair ∈ cache.assign key entry) :
    pair ∈ cache ∨ pair = (key, entry) := by
  unfold assign at listed
  split at listed
  · obtain ⟨old, member, changed⟩ := List.mem_map.mp listed
    split at changed
    · exact .inr changed.symm
    · exact .inl (changed ▸ member)
  · rcases List.mem_append.mp listed with old | new
    · exact .inl old
    · exact .inr (List.mem_singleton.mp new)

theorem mem_put {pair : Key × CacheEntry Page} (listed : pair ∈ cache.put capacity key entry) :
    pair ∈ cache ∨ pair = (key, entry) := by
  unfold put at listed
  split at listed
  · exact (mem_assign listed).imp_left List.mem_of_mem_tail
  · exact mem_assign listed

theorem get_eq_some (found : cache.get key now epoch = some page) :
    ∃ entry, (key, entry) ∈ cache ∧ entry.epoch = epoch ∧ entry.page = page := by
  unfold get at found
  split at found
  · cases found
  · next entry stored =>
      split at found
      · next valid =>
          rw [Bool.and_eq_true] at valid
          cases found
          obtain ⟨before, after, rfl, _⟩ := List.lookup_eq_some_iff.mp stored
          have listed : (key, entry) ∈ before ++ (key, entry) :: after :=
            List.mem_append_right before List.mem_cons_self
          exact ⟨entry, listed, of_decide_eq_true valid.2, rfl⟩
      · cases found

theorem CleanSince.get (clean : CleanSince since bad cache) (current : since ≤ epoch)
    (found : cache.get key now epoch = some page) : ¬ bad page := by
  obtain ⟨entry, listed, stamp, rfl⟩ := get_eq_some found
  exact clean _ listed (stamp.symm ▸ current)

end EpochCache

end InfrasafeBot.Library
