/-!
Finite maps as lists of pairs in ascending key order.  Looking up scans for an equal key, so the
laws of `insert` and `erase` hold of every list; `Sorted` is what makes two maps with the same
entries equal.
-/

namespace Larder

/-- A finite map: pairs whose keys ascend, each key once. -/
abbrev Dict (α β : Type) := List (α × β)

namespace Dict

variable {α β γ : Type}

def get? [DecidableEq α] : Dict α β → α → Option β
  | [], _ => none
  | (k, v) :: rest, key => if key = k then some v else get? rest key

def contains [DecidableEq α] (d : Dict α β) (key : α) : Bool :=
  (d.get? key).isSome

def keys (d : Dict α β) : List α :=
  d.map Prod.fst

/-- Puts the value under the key, in the place of an entry with the same key if there is one. -/
def insert [Ord α] : Dict α β → α → β → Dict α β
  | [], key, value => [(key, value)]
  | (k, v) :: rest, key, value =>
    match compare key k with
    | .lt => (key, value) :: (k, v) :: rest
    | .eq => (key, value) :: rest
    | .gt => (k, v) :: insert rest key value

def erase [DecidableEq α] (d : Dict α β) (key : α) : Dict α β :=
  d.filter fun entry => decide (entry.1 ≠ key)

/-- Of two pairs with the same key the later one stays. -/
def ofList [Ord α] (entries : List (α × β)) : Dict α β :=
  entries.foldl (fun d entry => d.insert entry.1 entry.2) []

def mapValues (f : β → γ) (d : Dict α β) : Dict α γ :=
  d.map fun entry => (entry.1, f entry.2)

/-- Keys ascend, so no key occurs twice. -/
def Sorted [Ord α] (d : Dict α β) : Prop :=
  d.Pairwise fun a b => compare a.1 b.1 = .lt

variable [DecidableEq α] [Ord α] [Std.LawfulEqOrd α]

theorem get?_insert (d : Dict α β) (key k : α) (value : β) :
    (d.insert key value).get? k = if k = key then some value else d.get? k := by
  induction d with
  | nil => simp [insert, get?]
  | cons entry rest ih =>
    obtain ⟨a, v⟩ := entry
    unfold insert
    split
    · simp [get?]
    · next h =>
      have := Std.LawfulEqOrd.eq_of_compare h
      subst this
      simp only [get?]
      split <;> simp_all
    · next h =>
      simp only [get?, ih]
      by_cases hk : k = a
      · subst hk
        have : ¬ k = key := by
          intro e
          subst e
          simp at h
        simp [this]
      · simp [hk]

theorem get?_insert_self (d : Dict α β) (key : α) (value : β) :
    (d.insert key value).get? key = some value := by
  simp [get?_insert]

omit [Ord α] [Std.LawfulEqOrd α] in
theorem get?_erase (d : Dict α β) (key k : α) :
    (d.erase key).get? k = if k = key then none else d.get? k := by
  induction d with
  | nil => simp [erase, get?]
  | cons entry rest ih =>
    obtain ⟨a, v⟩ := entry
    unfold erase at ih ⊢
    by_cases ha : a = key
    · subst ha
      simp only [List.filter_cons, ne_eq, not_true_eq_false, decide_false, Bool.false_eq_true,
        if_false, ih, get?]
      split <;> simp_all
    · simp only [List.filter_cons, ne_eq, ha, not_false_eq_true, decide_true, if_true, get?, ih]
      by_cases hk : k = a
      · subst hk
        simp [ha]
      · simp [hk]

end Dict

end Larder
