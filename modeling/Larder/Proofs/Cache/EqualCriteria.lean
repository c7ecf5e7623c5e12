import Larder.Proofs.Cache.ReadKey

/-!
Equal criteria, and when they share their keys.

Two numbers are equal that have different texts: the zeros.  They are the only ones, so equal
criteria share their keys exactly if their zeros have the same signs, one after another.
-/

namespace Larder

open Json (Value)

/-! ## Equality -/

def Filter.same : Filter → Filter → Bool
  | eq v, eq w => v.same w
  | oneOf vs, oneOf ws => vs.isEqv ws Value.same
  | _, _ => false

/-- Equality of criteria: conditions by equality of their values, all else as it stands. -/
def Criteria.same (a b : Criteria) : Bool :=
  a.filters.isEqv b.filters (fun x y => x.1 == y.1 && x.2.same y.2)
    && a.order == b.order && a.limit == b.limit && a.offset == b.offset

/-! ## Signs of zeros -/

namespace Json

/-- The sign of a zero among the floats, which equality passes over. -/
def Number.zeroSigns : Number → List Bool
  | .integer _ => []
  | .float x => if x.isZero then [x.negative] else []

namespace Value

mutual

/-- The signs of the zeros in a value, in the order of the text. -/
def zeroSigns : Value → List Bool
  | number n => n.zeroSigns
  | array items => zeroSignsItems items
  | object members => zeroSignsMembers members
  | _ => []

def zeroSignsItems : List Value → List Bool
  | [] => []
  | v :: rest => zeroSigns v ++ zeroSignsItems rest

def zeroSignsMembers : List (String × Value) → List Bool
  | [] => []
  | (_, v) :: rest => zeroSigns v ++ zeroSignsMembers rest

end

end Value

end Json

def Filter.zeroSigns : Filter → List Bool
  | eq v => v.zeroSigns
  | oneOf vs => vs.flatMap Value.zeroSigns

def Criteria.zeroSigns (c : Criteria) : List Bool := c.filters.flatMap fun x => x.2.zeroSigns

/-! ## What signs tell -/

/-- There are as many signs on both sides, and where they are the same ones, so are the things. -/
structure ToldBySigns {α : Type} (signs : α → List Bool) (a b : α) : Prop where
  length_eq : (signs a).length = (signs b).length
  eq_of_signs : signs a = signs b → a = b

section Told

variable {α β : Type} {signs : α → List Bool}

theorem toldBySigns_self (a : α) : ToldBySigns signs a a := ⟨rfl, fun _ => rfl⟩

theorem ToldBySigns.map {signs' : β → List Bool} (f : α → β) (hf : ∀ a, signs' (f a) = signs a)
    {a b : α} (h : ToldBySigns signs a b) : ToldBySigns signs' (f a) (f b) where
  length_eq := by rw [hf, hf, h.length_eq]
  eq_of_signs := by
    intro hsigns
    rw [hf, hf] at hsigns
    rw [h.eq_of_signs hsigns]

/-- Pairs with one name are told by what tells their values. -/
theorem ToldBySigns.named {name : String} {x y : String × α} (hx : x.1 = name) (hy : y.1 = name)
    (h : ToldBySigns signs x.2 y.2) : ToldBySigns (fun pair => signs pair.2) x y := by
  obtain ⟨k, a⟩ := x
  obtain ⟨l, b⟩ := y
  obtain rfl : k = name := hx
  obtain rfl : l = k := hy
  exact h.map (Prod.mk l) fun _ => rfl

variable {eqv : α → α → Bool} {as bs : List α}

/-- Lists are told by the signs of their items, one item after another. -/
theorem toldBySigns_flatMap (h : ∀ a ∈ as, ∀ b, eqv a b = true → ToldBySigns signs a b)
    (hsame : as.isEqv bs eqv = true) : ToldBySigns (List.flatMap signs) as bs := by
  induction as generalizing bs with
  | nil =>
    cases bs with
    | nil => exact toldBySigns_self []
    | cons b bs => cases hsame
  | cons a as ih =>
    cases bs with
    | nil => cases hsame
    | cons b bs =>
      rw [List.forall_mem_cons] at h
      rw [List.isEqv, Bool.and_eq_true] at hsame
      have hhead := h.1 b hsame.1
      have htail := ih h.2 hsame.2
      constructor
      · simp [hhead.length_eq, htail.length_eq]
      · intro hsigns
        rw [List.flatMap_cons, List.flatMap_cons] at hsigns
        -- As many signs belong to the first item on both sides, so the two lists part at the same
        -- place.
        obtain ⟨hfirst, hrest⟩ := List.append_inj hsigns hhead.length_eq
        rw [hhead.eq_of_signs hfirst, htail.eq_of_signs hrest]

theorem isEqv_self (h : ∀ a ∈ as, eqv a a = true) : as.isEqv as eqv = true := by
  induction as with
  | nil => rfl
  | cons a as ih =>
    rw [List.forall_mem_cons] at h
    simp [List.isEqv, h.1, ih h.2]

end Told

/-! ## Values -/

theorem Binary64.same_iff {x y : Binary64} :
    x.same y = true ↔ x.rank = y.rank ∧ (x.negative = y.negative ∨ x.rank = 0) := by
  simp [same]

namespace Json

theorem Number.same_self (n : Number) : n.same n = true := by
  cases n with
  | integer a => simp [same]
  | float x => simp [same, Binary64.same_iff]

theorem Number.toldBySigns {m n : Number} (h : m.same n = true) : ToldBySigns zeroSigns m n := by
  cases m with
  | integer a =>
    cases n with
    | integer b =>
      obtain rfl : a = b := by simpa [same] using h
      exact toldBySigns_self _
    | float y => cases h
  | float x =>
    cases n with
    | integer b => cases h
    | float y =>
      obtain ⟨hrank, hsign⟩ := Binary64.same_iff.1 h
      obtain ⟨xn, xr, hx⟩ := x
      obtain ⟨yn, yr, hy⟩ := y
      obtain rfl : xr = yr := hrank
      by_cases hzero : xr = 0
      · constructor <;> simp [zeroSigns, Binary64.isZero, hzero]
      · obtain rfl : xn = yn := by simpa [hzero] using hsign
        exact toldBySigns_self _

namespace Value

theorem sameItems_eq (as bs : List Value) : sameItems as bs = as.isEqv bs same := by
  induction as generalizing bs with
  | nil => cases bs <;> rfl
  | cons a as ih =>
    cases bs with
    | nil => rfl
    | cons b bs => rw [sameItems, List.isEqv, ih]

theorem sameMembers_eq (as bs : List (String × Value)) :
    sameMembers as bs = as.isEqv bs fun x y => x.1 == y.1 && x.2.same y.2 := by
  induction as generalizing bs with
  | nil => cases bs <;> rfl
  | cons a as ih =>
    cases bs with
    | nil => rfl
    | cons b bs => rw [sameMembers, List.isEqv, ih]

theorem zeroSignsItems_eq (items : List Value) :
    zeroSignsItems items = items.flatMap zeroSigns := by
  induction items with
  | nil => rfl
  | cons v rest ih => rw [zeroSignsItems, List.flatMap_cons, ih]

theorem zeroSignsMembers_eq (members : List (String × Value)) :
    zeroSignsMembers members = members.flatMap fun m => m.2.zeroSigns := by
  induction members with
  | nil => rfl
  | cons m rest ih => rw [zeroSignsMembers, List.flatMap_cons, ih]

theorem same_self (v : Value) : v.same v = true := by
  induction v using Value.induction with
  | null => rfl
  | bool b => simp [same]
  | number n => exact n.same_self
  | string s => simp [same]
  | array items ih => rw [same, sameItems_eq, isEqv_self ih]
  | object members ih =>
    rw [same, sameMembers_eq]
    exact isEqv_self fun m hm => by simp [ih m hm]

theorem toldBySigns {v w : Value} (h : v.same w = true) : ToldBySigns zeroSigns v w := by
  induction v using Value.induction generalizing w with
  | null =>
    cases w with
    | null => exact toldBySigns_self _
    | _ => cases h
  | bool b =>
    cases w with
    | bool b' =>
      obtain rfl : b = b' := by simpa [same] using h
      exact toldBySigns_self _
    | _ => cases h
  | number n =>
    cases w with
    | number n' => exact (Number.toldBySigns h).map number fun _ => rfl
    | _ => cases h
  | string s =>
    cases w with
    | string s' =>
      obtain rfl : s = s' := by simpa [same] using h
      exact toldBySigns_self _
    | _ => cases h
  | array items ih =>
    cases w with
    | array items' =>
      rw [same, sameItems_eq] at h
      exact (toldBySigns_flatMap (fun v hv _ hvw => ih v hv hvw) h).map array zeroSignsItems_eq
    | _ => cases h
  | object members ih =>
    cases w with
    | object members' =>
      rw [same, sameMembers_eq] at h
      have hmembers : ∀ x ∈ members, ∀ y : String × Value, (x.1 == y.1 && x.2.same y.2) = true →
          ToldBySigns (fun m => m.2.zeroSigns) x y := by
        intro x hx y hxy
        obtain ⟨hname, hvalue⟩ : x.1 = y.1 ∧ x.2.same y.2 = true := by simpa using hxy
        exact (ih x hx hvalue).named hname rfl
      exact (toldBySigns_flatMap hmembers h).map object zeroSignsMembers_eq
    | _ => cases h

end Value

end Json

/-! ## Criteria -/

theorem Filter.same_self (f : Filter) : f.same f = true := by
  cases f with
  | eq v => exact v.same_self
  | oneOf vs => exact isEqv_self fun v _ => v.same_self

theorem Filter.toldBySigns {f g : Filter} (h : f.same g = true) : ToldBySigns zeroSigns f g := by
  cases f with
  | eq v =>
    cases g with
    | eq w => exact (Value.toldBySigns h).map eq fun _ => rfl
    | oneOf ws => cases h
  | oneOf vs =>
    cases g with
    | eq w => cases h
    | oneOf ws =>
      exact (toldBySigns_flatMap (fun _ _ _ => Value.toldBySigns) h).map oneOf fun _ => rfl

namespace Criteria

/-- Criteria are one exactly if they are equal and their zeros have the same signs. -/
theorem eq_iff_same {a b : Criteria} : a = b ↔ a.same b = true ∧ a.zeroSigns = b.zeroSigns := by
  constructor
  · rintro rfl
    refine ⟨?_, rfl⟩
    have hfilters : a.filters.isEqv a.filters (fun x y => x.1 == y.1 && x.2.same y.2) = true :=
      isEqv_self fun x _ => by simp [x.2.same_self]
    simp [same, hfilters]
  · rintro ⟨hsame, hsigns⟩
    obtain ⟨⟨⟨hfilters, horder⟩, hlimit⟩, hoffset⟩ :
        ((a.filters.isEqv b.filters (fun x y => x.1 == y.1 && x.2.same y.2)
        = true ∧ a.order = b.order) ∧ a.limit = b.limit) ∧ a.offset = b.offset := by
      simpa [same] using hsame
    have htold : ToldBySigns (List.flatMap fun x : String × Filter => x.2.zeroSigns) a.filters
        b.filters := by
      refine toldBySigns_flatMap (fun x _ y hxy => ?_) hfilters
      obtain ⟨hname, hfilter⟩ : x.1 = y.1 ∧ x.2.same y.2 = true := by simpa using hxy
      exact (Filter.toldBySigns hfilter).named hname rfl
    have heq : a.filters = b.filters := htold.eq_of_signs hsigns
    cases a
    cases b
    simp_all

end Criteria

namespace Cache.Key

/-- Equal criteria have the same description, and share the key of every collection, exactly if
their zeros have the same signs. -/
theorem forRead_eq_iff_same_zeros (collection : String) (a b : Criteria) :
    (a.describe = b.describe ↔ a.same b = true ∧ a.zeroSigns = b.zeroSigns) ∧
      (forRead collection a = forRead collection b ↔
        a.same b = true ∧ a.zeroSigns = b.zeroSigns) := by
  rw [← Criteria.eq_iff_same]
  refine ⟨⟨Criteria.describe_injective, fun h => by rw [h]⟩, ?_, fun h => by rw [h]⟩
  exact fun h => (forRead_injective h).2

/-- Criteria that differ in the sign of a zero are equal, and have different keys. -/
theorem equal_criteria_can_differ :
    ¬ ∀ (collection : String) (a b : Criteria), a.same b = true →
      a.describe = b.describe ∧ forRead collection a = forRead collection b := by
  intro h
  have hkey := (h "units" (.whereEq .all "floor" (.number (.float .zero)))
    (.whereEq .all "floor" (.number (.float .negZero))) (by decide)).2
  have hsigns := congrArg Criteria.zeroSigns (forRead_injective hkey).2
  exact absurd hsigns (by decide)

end Cache.Key

end Larder
